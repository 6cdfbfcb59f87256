import Mathlib.Data.List.Forall2
import PromptPress.Build
import PromptPress.Proofs.FileTree
import PromptPress.Proofs.Path.Slug

/-!
# What a build writes

A `Layout` holds the files of a build part by part, and `Layout.IsOf` ties each of them to the part of
the prompt that it comes from. A build that succeeds has a layout (`buildIn_eq_ok`): the manifest lists
its files in order, the reported paths are theirs, and if all paths are plain, the tree is the one that
was there before with the files of the layout put into it.
-/

namespace PromptPress

open PromptPress.Path Digest

/-! ### Placements -/

namespace Placement

/-- What the manifest says about a file. -/
def artifact (file : Placement) : Artifact :=
  ⟨file.path, file.content.length, file.kind⟩

/-- A file as it stands in a tree. -/
def entry (file : Placement) : FilePath × List UInt8 :=
  (FileTree.pathSegments file.path, file.content)

/-- Places a file of a list. -/
def ofFile (kind : ArtifactKind) (source : SourceFile) : Except BuildError Placement :=
  ofText kind (some source.filename) (contentHash (utf8 source.content) ++ ".ts") source.content

theorem ofText_eq_ok_iff {kind : ArtifactKind} {filename : Option String} {fallback content : String}
    {file : Placement} :
    ofText kind filename fallback content = .ok file ↔
      ∃ name, safeName filename fallback = .ok name ∧
        (⟨pathFor kind name, utf8 content, kind⟩ : Placement) = file :=
  Outcome.map_eq_ok_iff

theorem ofAsset_eq_ok_iff {asset : Asset} {file : Placement} :
    ofAsset asset = .ok file ↔
      ∃ name bytes, safeName (some asset.filename) "" = .ok name ∧ assetBytes asset = .ok bytes ∧
        (⟨pathFor .asset name, bytes, .asset⟩ : Placement) = file := by
  simp only [ofAsset, Outcome.bind_eq_ok_iff, pure, Except.pure, Except.ok.injEq]
  constructor
  · rintro ⟨name, hname, bytes, hbytes, hfile⟩
    exact ⟨name, bytes, hname, hbytes, hfile⟩
  · rintro ⟨name, bytes, hname, hbytes, hfile⟩
    exact ⟨name, hname, bytes, hbytes, hfile⟩

/-- A name is the one that was given, made safe, or the fallback. -/
theorem safeName_eq_ok {filename : Option String} {fallback name : String}
    (h : safeName filename fallback = .ok name) :
    IsPlain name ∨ given filename = none ∧ name = fallback := by
  unfold safeName at h
  split at h
  · exact .inl (isPlain_of_sanitizeFilename (Outcome.mapError_eq_ok_iff.mp h))
  · next hgiven => exact .inr ⟨hgiven, (Except.ok.inj h).symm⟩

theorem safeName_of_none {filename : Option String} (h : given filename = none) (fallback : String) :
    safeName filename fallback = .ok fallback := by
  rw [safeName, h]

end Placement

/-! ### Names -/

/-- The name that the component is written under. -/
def Prompt.componentName (p : Prompt) : Except BuildError String :=
  Placement.safeName p.component.filename (p.buildSlug ++ ".tsx")

/-- The name that a demo is written under. -/
def Prompt.demoName (p : Prompt) (demo : DemoSource) : Except BuildError String :=
  Placement.safeName demo.filename (p.buildSlug ++ ".demo.tsx")

/-- The name that a dependency or a style is written under. -/
def SourceFile.safeName (source : SourceFile) : Except BuildError String :=
  Placement.safeName (some source.filename) (contentHash (utf8 source.content) ++ ".ts")

/-- The name that an asset is written under. -/
def Asset.safeName (asset : Asset) : Except BuildError String :=
  Placement.safeName (some asset.filename) ""

theorem SourceFile.isPlain_of_safeName {source : SourceFile} {name : String}
    (h : source.safeName = .ok name) : IsPlain name := by
  rcases Placement.safeName_eq_ok h with hplain | ⟨-, rfl⟩
  · exact hplain
  · exact isPlain_contentHash _

theorem Asset.isPlain_of_safeName {asset : Asset} {name : String} (hne : asset.filename ≠ "")
    (h : asset.safeName = .ok name) : IsPlain name := by
  rcases Placement.safeName_eq_ok h with hplain | ⟨hnone, -⟩
  · exact hplain
  · simp [given, hne] at hnone

/-! ### Layouts -/

/-- The dependencies that are written. -/
def Prompt.writtenDependencies (prompt : Prompt) : List SourceFile :=
  (prompt.dependencies.map (·.toSourceFile)).filter (·.content != "")

/-- The styles that are written. -/
def Prompt.writtenStyles (prompt : Prompt) : List SourceFile :=
  prompt.styles.filter (·.content != "")

/-- The assets that are written. -/
def Prompt.writtenAssets (prompt : Prompt) : List Asset :=
  prompt.assets.filter fun asset => asset.content != "" && asset.filename != ""

theorem Prompt.filename_ne_of_mem {p : Prompt} {asset : Asset} (h : asset ∈ p.writtenAssets) :
    asset.filename ≠ "" := by
  simpa using (Bool.and_eq_true_iff.mp (List.mem_filter.mp h).2).2

/-- The files of a build. -/
structure Layout where
  component : Placement
  demo : Option Placement
  dependencies : List Placement
  styles : List Placement
  assets : List Placement

namespace Layout

/-- The files of a kind. -/
def part (l : Layout) : ArtifactKind → List Placement
  | .component => [l.component]
  | .demo => l.demo.toList
  | .dependency => l.dependencies
  | .style => l.styles
  | .asset => l.assets

/-- The files in the order of writing. -/
def files (l : Layout) : List Placement :=
  l.part .component ++ l.part .demo ++ l.part .dependency ++ l.part .style ++ l.part .asset

/-- Which part of a prompt each file comes from. -/
structure IsOf (l : Layout) (p : Prompt) : Prop where
  component : Placement.ofText .component p.component.filename (p.buildSlug ++ ".tsx")
    p.component.code = .ok l.component
  demo : List.Forall₂ (fun source file => Placement.ofText .demo source.filename
    (p.buildSlug ++ ".demo.tsx") source.code = .ok file) p.usableDemo?.toList l.demo.toList
  dependencies : List.Forall₂ (fun source file => Placement.ofFile .dependency source = .ok file)
    p.writtenDependencies l.dependencies
  styles : List.Forall₂ (fun source file => Placement.ofFile .style source = .ok file)
    p.writtenStyles l.styles
  assets : List.Forall₂ (fun asset file => Placement.ofAsset asset = .ok file)
    p.writtenAssets l.assets

/-- Each source has its file in the same place of its list. -/
private theorem forall₂_of_map_eq {α : Type} {place : α → Except BuildError Placement}
    {sources : List α} {files : List Placement} (h : sources.map place = files.map .ok) :
    List.Forall₂ (fun source file => place source = .ok file) sources files := by
  rw [← List.forall₂_eq_eq_eq, List.forall₂_map_left_iff, List.forall₂_map_right_iff] at h
  exact h

/-- The placements of a prompt, if none of them is refused, are the files of a layout. -/
theorem exists_of_placements {p : Prompt} {files : List Placement}
    (h : p.placements = files.map .ok) : ∃ l : Layout, l.IsOf p ∧ files = l.files := by
  simp only [Prompt.placements, List.cons_append] at h
  -- the files are cut where the parts of the prompt meet
  obtain ⟨component, rest, rfl, hcomponent, h⟩ := List.map_eq_cons_iff.mp h.symm
  obtain ⟨rest, assets, rfl, h, hassets⟩ := List.map_eq_append_iff.mp h
  obtain ⟨rest, styles, rfl, h, hstyles⟩ := List.map_eq_append_iff.mp h
  obtain ⟨demos, dependencies, rfl, hdemos, hdependencies⟩ := List.map_eq_append_iff.mp h
  have hlength : demos.length ≤ 1 := by
    rw [← List.length_map, hdemos]
    cases p.usableDemo? <;> simp
  have hdemo : demos.head?.toList = demos := by
    rcases demos with _ | ⟨demo, _ | _⟩
    · rfl
    · rfl
    · simp at hlength
  refine ⟨⟨component, demos.head?, dependencies, styles, assets⟩,
    { component := hcomponent.symm
      demo := ?_
      dependencies := forall₂_of_map_eq hdependencies.symm
      styles := forall₂_of_map_eq hstyles.symm
      assets := forall₂_of_map_eq hassets.symm }, ?_⟩
  · rw [hdemo]
    refine forall₂_of_map_eq ?_
    rw [hdemos]
    cases p.usableDemo? <;> rfl
  · simp [files, part, hdemo]

theorem mem_files_iff {l : Layout} {file : Placement} :
    file ∈ l.files ↔ ∃ kind, file ∈ l.part kind := by
  constructor
  · simp only [files, List.mem_append]
    rintro ((((h | h) | h) | h) | h) <;> exact ⟨_, h⟩
  · rintro ⟨kind, h⟩
    cases kind <;> simp [files, h]

/-- **Where a file of a layout comes from.** Its name is plain, or it is the component or the demo,
comes without a name, and is named after the slug. -/
theorem IsOf.path {p : Prompt} {l : Layout} (h : l.IsOf p) {kind : ArtifactKind} {file : Placement}
    (hfile : file ∈ l.part kind) :
    file.kind = kind ∧ ∃ name, file.path = Placement.pathFor kind name ∧
      (IsPlain name ∨
        (kind = .component ∧ given p.component.filename = none ∧ name = p.buildSlug ++ ".tsx") ∨
        (kind = .demo ∧ (∃ demo ∈ p.usableDemo?, given demo.filename = none) ∧
          name = p.buildSlug ++ ".demo.tsx")) := by
  have hlist : ∀ {kind : ArtifactKind} {source : SourceFile} {file : Placement},
      Placement.ofFile kind source = .ok file →
      file.kind = kind ∧ ∃ name, file.path = Placement.pathFor kind name ∧ IsPlain name := by
    intro kind source file hplaced
    obtain ⟨name, hname, rfl⟩ := Placement.ofText_eq_ok_iff.mp hplaced
    exact ⟨rfl, name, rfl, SourceFile.isPlain_of_safeName hname⟩
  cases kind with
  | component =>
    obtain rfl : file = l.component := by simpa [part] using hfile
    obtain ⟨name, hname, hplaced⟩ := Placement.ofText_eq_ok_iff.mp h.component
    rw [← hplaced]
    refine ⟨rfl, name, rfl, ?_⟩
    rcases Placement.safeName_eq_ok hname with hplain | ⟨hnone, hfallback⟩
    · exact .inl hplain
    · exact .inr (.inl ⟨rfl, hnone, hfallback⟩)
  | demo =>
    obtain ⟨demo, hdemo, hplaced⟩ := Outcome.exists_of_mem_right h.demo file hfile
    obtain ⟨name, hname, rfl⟩ := Placement.ofText_eq_ok_iff.mp hplaced
    refine ⟨rfl, name, rfl, ?_⟩
    rcases Placement.safeName_eq_ok hname with hplain | ⟨hnone, hfallback⟩
    · exact .inl hplain
    · exact .inr (.inr ⟨rfl, ⟨demo, by simpa using hdemo, hnone⟩, hfallback⟩)
  | dependency =>
    obtain ⟨source, -, hplaced⟩ := Outcome.exists_of_mem_right h.dependencies file hfile
    obtain ⟨hkind, name, hpath, hplain⟩ := hlist hplaced
    exact ⟨hkind, name, hpath, .inl hplain⟩
  | style =>
    obtain ⟨source, -, hplaced⟩ := Outcome.exists_of_mem_right h.styles file hfile
    obtain ⟨hkind, name, hpath, hplain⟩ := hlist hplaced
    exact ⟨hkind, name, hpath, .inl hplain⟩
  | asset =>
    obtain ⟨asset, hasset, hplaced⟩ := Outcome.exists_of_mem_right h.assets file hfile
    obtain ⟨name, bytes, hname, -, rfl⟩ := Placement.ofAsset_eq_ok_iff.mp hplaced
    exact ⟨rfl, name, rfl,
      .inl (Asset.isPlain_of_safeName (Prompt.filename_ne_of_mem hasset) hname)⟩

/-- The paths that a draft lists for a kind are those of the files of the kind. -/
theorem IsOf.paths {p : Prompt} {l : Layout} (h : l.IsOf p) (tree : FileTree) (kind : ArtifactKind) :
    Draft.paths ⟨tree, l.files.map Placement.artifact⟩ kind = (l.part kind).map (·.path) := by
  have hpart : ∀ other, (l.part other).filter (·.kind == kind) =
      if other = kind then l.part other else [] := by
    intro other
    split
    · next heq => exact List.filter_eq_self.mpr fun file hfile => by simp [(h.path hfile).1, heq]
    · next hne => exact List.filter_eq_nil_iff.mpr fun file hfile => by simp [(h.path hfile).1, hne]
  have hfiles : l.files.filter (·.kind == kind) = l.part kind := by
    simp only [files, List.filter_append, hpart]
    cases kind <;> simp
  simp only [Draft.paths, List.filter_map, List.map_map, ← hfiles]
  rfl

end Layout

/-! ### Runs of writing -/

namespace Draft

variable {draft draft' : Draft}

/-- Writing a file puts it at the segments that its path is resolved to. -/
theorem write_eq_ok {file : Placement} (h : draft.write file = .ok draft') :
    ∃ path, resolveInside file.path = .ok path ∧
      draft' = ⟨{ draft.tree with files := FileTree.put path file.content draft.tree.files },
        draft.manifest ++ [file.artifact]⟩ := by
  simp only [write, Outcome.bind_eq_ok_iff, Outcome.mapError_eq_ok_iff, pure, Except.pure,
    Except.ok.injEq] at h
  obtain ⟨path, hpath, tree, htree, rfl⟩ := h
  exact ⟨path, hpath, by rw [FileTree.write_eq_ok htree]; rfl⟩

/-- **A run of writing** writes every file, in order, and stops at the first one that is refused. -/
theorem writeAll_eq_ok {placements : List (Except BuildError Placement)}
    (h : draft.writeAll placements = .ok draft') :
    ∃ files : List Placement, placements = files.map .ok ∧
      draft'.manifest = draft.manifest ++ files.map Placement.artifact ∧
      ((∀ file ∈ files, IsPlain file.path) → draft'.tree = { draft.tree with
        files := FileTree.putAll draft.tree.files (files.map Placement.entry) }) := by
  induction placements generalizing draft with
  | nil =>
    obtain rfl : draft = draft' := by simpa [writeAll] using h
    exact ⟨[], rfl, by simp, fun _ => rfl⟩
  | cons placement placements ih =>
    cases placement with
    | error e => cases h
    | ok file =>
      rw [writeAll] at h
      split at h
      · next mid hwrite =>
        obtain ⟨files, rfl, hmanifest, htree⟩ := ih h
        obtain ⟨path, hpath, rfl⟩ := write_eq_ok hwrite
        refine ⟨file :: files, rfl, ?_, fun hplain => ?_⟩
        · simp [hmanifest]
        · have hfile : IsPlain file.path := hplain file (by simp)
          obtain rfl : FileTree.pathSegments file.path = path := by
            rw [hfile.resolveInside] at hpath
            rw [FileTree.pathSegments_of_isPlain hfile, Except.ok.inj hpath]
          exact htree fun other hother => hplain other (List.mem_cons_of_mem _ hother)
      · cases h

end Draft

/-- A build reports the files of a layout. -/
structure Build.Reports (b : Build) (l : Layout) : Prop where
  componentFile : b.componentFile = l.component.path
  demoFile : b.demoFile = l.demo.map (·.path)
  dependencyFiles : b.dependencyFiles = l.dependencies.map (·.path)
  styleFiles : b.styleFiles = l.styles.map (·.path)
  assetFiles : b.assetFiles = l.assets.map (·.path)
  manifest : b.manifest = l.files.map Placement.artifact

theorem Layout.IsOf.reports {p : Prompt} {l : Layout} (h : l.IsOf p) (tree : FileTree) :
    (Build.ofDraft p ⟨tree, l.files.map Placement.artifact⟩).Reports l where
  componentFile := by simp only [Build.ofDraft, h.paths]; rfl
  demoFile := by
    simp only [Build.ofDraft, h.paths, Layout.part]
    cases l.demo <;> rfl
  dependencyFiles := h.paths tree .dependency
  styleFiles := h.paths tree .style
  assetFiles := h.paths tree .asset
  manifest := rfl

/-- **A build that succeeds** has written the files of a layout, and reports them. -/
theorem Prompt.buildIn_eq_ok {p : Prompt} {tree : FileTree} {b : Build}
    (h : p.buildIn tree = .ok b) :
    ∃ l : Layout, l.IsOf p ∧ p.placements = l.files.map .ok ∧ b.Reports l ∧
      ((∀ file ∈ l.files, IsPlain file.path) → b.tree = { tree with
        files := FileTree.putAll tree.files (l.files.map Placement.entry) }) := by
  unfold Prompt.buildIn at h
  split at h
  · cases h
  · obtain ⟨⟨after, manifest⟩, hdraft, rfl⟩ := Outcome.map_eq_ok_iff.mp h
    obtain ⟨files, hplacements, hmanifest, htree⟩ := Draft.writeAll_eq_ok hdraft
    obtain ⟨l, hl, rfl⟩ := Layout.exists_of_placements hplacements
    obtain rfl : manifest = l.files.map Placement.artifact := hmanifest
    exact ⟨l, hl, hplacements, hl.reports after, htree⟩

end PromptPress
