import PromptPress.Proofs.Build.Confinement

/-!
# Files that are overwritten

Two files of a build that go to one path are both in the manifest, but only the last of them is in the
tree. With a slug that is made of words, `keepsAll_iff` says when that happens: the folders of the
kinds keep files of different kinds apart, except that a component may be placed in the folder of
demos, and within a kind it is the names that have to be different.
-/

namespace PromptPress

open PromptPress.Path Text Digest

/-! ### Paths that are different -/

namespace Placement

variable {kind kind' : ArtifactKind} {name name' : String}

theorem pathFor_of_isPlain (h : IsPlain name) : pathFor kind name = kind.dir ++ "/" ++ name := by
  rw [pathFor, joinPath_eq, List.flatMap_cons, List.flatMap_singleton, (isPlain_dir kind).pathWords,
    h.pathWords, join_append '/' (segments_ne_nil _) (segments_ne_nil _), join_segments,
    join_segments, ← String.toList_inj]
  simp

/-- Within a kind different names have different paths. -/
theorem pathFor_inj (h : IsPlain name) (h' : IsPlain name') :
    pathFor kind name = pathFor kind name' ↔ name = name' := by
  rw [pathFor_of_isPlain h, pathFor_of_isPlain h', ← String.toList_inj, ← String.toList_inj]
  simp

/-- Folders of which none lies in the other keep their files apart. -/
theorem pathFor_ne (h : IsPlain name) (h' : IsPlain name')
    (hdir : ¬ (kind.dir ++ "/").toList <+: (kind'.dir ++ "/").toList)
    (hdir' : ¬ (kind'.dir ++ "/").toList <+: (kind.dir ++ "/").toList) :
    pathFor kind name ≠ pathFor kind' name' := by
  intro heq
  have hstart : ∀ (kind : ArtifactKind) {name : String}, IsPlain name →
      (kind.dir ++ "/").toList <+: (pathFor kind name).toList := fun kind name hname => by
    rw [pathFor_of_isPlain hname]
    exact ⟨name.toList, String.toList_append.symm⟩
  rcases List.prefix_or_prefix_of_prefix (hstart kind h) (heq ▸ hstart kind' h')
    with hstart | hstart
  · exact hdir hstart
  · exact hdir' hstart

/-- The folder of demos lies in the folder of components. -/
theorem pathFor_component_eq_iff (h : IsPlain name) (h' : IsPlain name') :
    pathFor .component name = pathFor .demo name' ↔ name = "__demos__/" ++ name' := by
  have hdir : ArtifactKind.demo.dir ++ "/" = ArtifactKind.component.dir ++ "/" ++ "__demos__/" := by
    decide +kernel
  rw [pathFor_of_isPlain h, pathFor_of_isPlain h', hdir, ← String.toList_inj, ← String.toList_inj]
  simp

end Placement

/-! ### Names that are different -/

/-- The names of the files that are written are different within each list, and the component is not
placed where the demo goes. -/
structure Prompt.NamesApart (p : Prompt) : Prop where
  component : ∀ demo ∈ p.usableDemo?,
    p.componentName ≠ (p.demoName demo).map ("__demos__/" ++ ·)
  dependencies : (p.writtenDependencies.map SourceFile.safeName).Nodup
  styles : (p.writtenStyles.map SourceFile.safeName).Nodup
  assets : (p.writtenAssets.map Asset.safeName).Nodup

/-- Every entry of the manifest has a path of its own, and the size of the file that is there. -/
structure Build.KeepsAll (b : Build) : Prop where
  nodup : (b.manifest.map (·.path)).Nodup
  size : ∀ artifact ∈ b.manifest, ∃ content,
    b.tree.file? (FileTree.pathSegments artifact.path) = some content ∧
      content.length = artifact.size

section Lists

variable {α : Type} {R : α → Placement → Prop} {sources : List α} {files : List Placement}
  {name : α → Except BuildError String}

private theorem mem_map_iff (h : List.Forall₂ R sources files) {x : Except BuildError String}
    {path : String} (hname : ∀ source ∈ sources, ∀ file, R source file →
      (x = name source ↔ path = file.path)) :
    x ∈ sources.map name ↔ path ∈ files.map (·.path) := by
  induction h with
  | nil => simp
  | cons hfirst _ ih =>
    simp only [List.map_cons, List.mem_cons]
    exact or_congr (hname _ (by simp) _ hfirst)
      (ih fun source hsource => hname source (List.mem_cons_of_mem _ hsource))

/-- Paths are different where names are different. -/
private theorem nodup_map_iff (h : List.Forall₂ R sources files)
    (hname : ∀ source ∈ sources, ∀ source' ∈ sources, ∀ file file', R source file →
      R source' file' → (name source = name source' ↔ file.path = file'.path)) :
    (sources.map name).Nodup ↔ (files.map (·.path)).Nodup := by
  induction h with
  | nil => simp
  | cons hfirst hrest ih =>
    simp only [List.map_cons, List.nodup_cons]
    refine and_congr (not_congr ?_) (ih fun a ha b hb => hname a (List.mem_cons_of_mem _ ha) b
      (List.mem_cons_of_mem _ hb))
    exact mem_map_iff hrest fun source hsource file hfile =>
      hname _ (by simp) source (List.mem_cons_of_mem _ hsource) _ file hfirst hfile

end Lists

/-! ### Layouts -/

variable {p : Prompt} {l : Layout}

theorem Prompt.SlugFits.of_isSlug (h : ∀ slug ∈ p.slug, IsSlug slug) : p.SlugFits :=
  fun _ slug hslug => (h slug (Option.filter_eq_some_iff.mp hslug).1).fitsName

/-- The slug that a build goes by is made of words, if the one that is given is. -/
theorem Prompt.isSlug_buildSlug (h : ∀ slug ∈ p.slug, IsSlug slug) : IsSlug p.buildSlug := by
  rw [Prompt.buildSlug]
  cases hgiven : given p.slug with
  | none => exact isSlug_kebab _
  | some slug => exact h slug (Option.filter_eq_some_iff.mp hgiven).1

/-- With a slug that is made of words every file has a plain name. -/
theorem Layout.IsOf.plainName (h : l.IsOf p) (hslug : ∀ slug ∈ p.slug, IsSlug slug)
    {kind : ArtifactKind} {file : Placement} (hfile : file ∈ l.part kind) :
    ∃ name, IsPlain name ∧ file.path = Placement.pathFor kind name := by
  obtain ⟨-, name, hpath, hname⟩ := h.path hfile
  have hbuild := Prompt.isSlug_buildSlug hslug
  rcases hname with hplain | ⟨-, -, rfl⟩ | ⟨-, -, rfl⟩
  · exact ⟨name, hplain, hpath⟩
  · exact ⟨_, hbuild.isPlain_append isExtension_tsx, hpath⟩
  · exact ⟨_, hbuild.isPlain_append isExtension_demo, hpath⟩

/-- The kinds of files in the order of writing. -/
def ArtifactKind.all : List ArtifactKind :=
  [.component, .demo, .dependency, .style, .asset]

theorem Layout.files_eq_flatMap (l : Layout) : l.files = ArtifactKind.all.flatMap l.part := by
  simp [files, ArtifactKind.all]

/-- **Files of different kinds** have different paths, but for a component and a demo. -/
theorem Layout.IsOf.nodup_iff (h : l.IsOf p) (hslug : ∀ slug ∈ p.slug, IsSlug slug) :
    (l.files.map (·.path)).Nodup ↔ (∀ kind, ((l.part kind).map (·.path)).Nodup) ∧
      ∀ demo ∈ l.demo, l.component.path ≠ demo.path := by
  have hapart : ∀ kind kind' : ArtifactKind,
      ¬ (kind.dir ++ "/").toList <+: (kind'.dir ++ "/").toList →
      ¬ (kind'.dir ++ "/").toList <+: (kind.dir ++ "/").toList →
      List.Disjoint ((l.part kind).map (·.path)) ((l.part kind').map (·.path)) := by
    intro kind kind' hdir hdir'
    rw [List.disjoint_left]
    intro path hpath hpath'
    obtain ⟨file, hfile, rfl⟩ := List.mem_map.mp hpath
    obtain ⟨file', hfile', heq⟩ := List.mem_map.mp hpath'
    obtain ⟨name, hname, hplace⟩ := h.plainName hslug hfile
    obtain ⟨name', hname', hplace'⟩ := h.plainName hslug hfile'
    exact Placement.pathFor_ne hname hname' hdir hdir' (by rw [← hplace, ← hplace', heq])
  have hdemo : List.Disjoint ((l.part .component).map (·.path)) ((l.part .demo).map (·.path)) ↔
      ∀ demo ∈ l.demo, l.component.path ≠ demo.path := by
    simp [part, eq_comm]
  have hmem : ∀ kind : ArtifactKind, kind ∈ ArtifactKind.all := by
    intro kind
    cases kind <;> decide
  rw [files_eq_flatMap, List.map_flatMap, List.nodup_flatMap, ← hdemo]
  refine and_congr (by simp [hmem]) ⟨fun hpair => ?_, fun hdisjoint => ?_⟩
  · exact (List.pairwise_cons.mp hpair).1 .demo (by decide)
  -- of two other folders none lies in the other
  · simp only [ArtifactKind.all, List.pairwise_cons, List.mem_cons, List.not_mem_nil, or_false,
      forall_eq_or_imp, forall_eq, false_imp_iff, implies_true, List.Pairwise.nil, and_true]
    refine ⟨⟨hdisjoint, ?_, ?_, ?_⟩, ⟨?_, ?_, ?_⟩, ⟨?_, ?_⟩, ?_⟩ <;>
      exact hapart _ _ (by decide +kernel) (by decide +kernel)

theorem Prompt.isPlain_of_componentName (hslug : ∀ slug ∈ p.slug, IsSlug slug) {name : String}
    (h : p.componentName = .ok name) : IsPlain name := by
  rcases Placement.safeName_eq_ok h with hplain | ⟨-, rfl⟩
  · exact hplain
  · exact (Prompt.isSlug_buildSlug hslug).isPlain_append isExtension_tsx

theorem Prompt.isPlain_of_demoName (hslug : ∀ slug ∈ p.slug, IsSlug slug) {demo : DemoSource}
    {name : String} (h : p.demoName demo = .ok name) : IsPlain name := by
  rcases Placement.safeName_eq_ok h with hplain | ⟨-, rfl⟩
  · exact hplain
  · exact (Prompt.isSlug_buildSlug hslug).isPlain_append isExtension_demo

/-- **The component and the demo** have different paths unless the component is placed where the demo
goes. -/
theorem Layout.IsOf.component_ne_demo_iff (h : l.IsOf p) (hslug : ∀ slug ∈ p.slug, IsSlug slug) :
    (∀ demo ∈ l.demo, l.component.path ≠ demo.path) ↔ ∀ demo ∈ p.usableDemo?,
      p.componentName ≠ (p.demoName demo).map ("__demos__/" ++ ·) := by
  obtain ⟨name, hname, hcomponent⟩ := Placement.ofText_eq_ok_iff.mp h.component
  have hpath : l.component.path = Placement.pathFor .component name := by rw [← hcomponent]
  have hplaced := h.demo
  cases hsource : p.usableDemo? with
  | none =>
    rw [hsource, Option.toList_none, List.forall₂_nil_left_iff, Option.toList_eq_nil_iff] at hplaced
    simp [hplaced]
  | some demo =>
    rw [hsource, Option.toList_some, List.forall₂_cons_left_iff] at hplaced
    obtain ⟨file, rest, hfile, hrest, hlist⟩ := hplaced
    rw [List.forall₂_nil_left_iff] at hrest
    have hl : l.demo = some file := by
      rw [← Option.toList_eq_singleton_iff, hlist, hrest]
    obtain ⟨name', hname', rfl⟩ := Placement.ofText_eq_ok_iff.mp hfile
    have hplain := Prompt.isPlain_of_componentName hslug hname
    have hplain' := Prompt.isPlain_of_demoName hslug hname'
    have hnames : p.componentName = (p.demoName demo).map ("__demos__/" ++ ·) ↔
        name = "__demos__/" ++ name' := by
      rw [Prompt.componentName, Prompt.demoName, hname, hname', Except.map, Except.ok.injEq]
    simp only [hl, Option.mem_some_iff, forall_eq', hnames, hpath, ne_eq,
      Placement.pathFor_component_eq_iff hplain hplain']

/-- **The paths of a layout** are different exactly if the names are. -/
theorem Layout.IsOf.nodup_iff_namesApart (h : l.IsOf p) (hslug : ∀ slug ∈ p.slug, IsSlug slug) :
    (l.files.map (·.path)).Nodup ↔ p.NamesApart := by
  have hfiles : ∀ {kind : ArtifactKind} {sources : List SourceFile} {files : List Placement},
      List.Forall₂ (fun source file => Placement.ofFile kind source = .ok file) sources files →
      ((sources.map SourceFile.safeName).Nodup ↔ (files.map (·.path)).Nodup) := by
    intro kind sources files hplaced
    refine nodup_map_iff hplaced fun source _ source' _ file file' hfile hfile' => ?_
    obtain ⟨name, hname, rfl⟩ := Placement.ofText_eq_ok_iff.mp hfile
    obtain ⟨name', hname', rfl⟩ := Placement.ofText_eq_ok_iff.mp hfile'
    have hplain := SourceFile.isPlain_of_safeName hname
    have hplain' := SourceFile.isPlain_of_safeName hname'
    rw [SourceFile.safeName, SourceFile.safeName, hname, hname',
      Placement.pathFor_inj hplain hplain', Except.ok.injEq]
  have hassets : (p.writtenAssets.map Asset.safeName).Nodup ↔ (l.assets.map (·.path)).Nodup := by
    refine nodup_map_iff h.assets fun asset hasset asset' hasset' file file' hfile hfile' => ?_
    obtain ⟨name, _, hname, -, rfl⟩ := Placement.ofAsset_eq_ok_iff.mp hfile
    obtain ⟨name', _, hname', -, rfl⟩ := Placement.ofAsset_eq_ok_iff.mp hfile'
    have hplain := Asset.isPlain_of_safeName (Prompt.filename_ne_of_mem hasset) hname
    have hplain' := Asset.isPlain_of_safeName (Prompt.filename_ne_of_mem hasset') hname'
    rw [Asset.safeName, Asset.safeName, hname, hname', Placement.pathFor_inj hplain hplain',
      Except.ok.injEq]
  rw [h.nodup_iff hslug, h.component_ne_demo_iff hslug]
  constructor
  · rintro ⟨hparts, hcomponent⟩
    exact ⟨hcomponent, (hfiles h.dependencies).mpr (hparts .dependency),
      (hfiles h.styles).mpr (hparts .style), hassets.mpr (hparts .asset)⟩
  · rintro ⟨hcomponent, hdependencies, hstyles, hasset⟩
    refine ⟨fun kind => ?_, hcomponent⟩
    cases kind with
    | component => exact List.nodup_singleton _
    | demo => cases hl : l.demo <;> simp [Layout.part, hl]
    | dependency => exact (hfiles h.dependencies).mp hdependencies
    | style => exact (hfiles h.styles).mp hstyles
    | asset => exact hassets.mp hasset

/-! ### Builds -/

/-- Plain paths that are different are different places. -/
theorem Layout.nodup_keys (hplain : ∀ file ∈ l.files, IsPlain file.path)
    (hnodup : (l.files.map (·.path)).Nodup) : ((l.files.map Placement.entry).map (·.1)).Nodup := by
  have hmap : (l.files.map Placement.entry).map (·.1) =
      (l.files.map (·.path)).map FileTree.pathSegments := by
    simp [Placement.entry, Function.comp_def]
  rw [hmap]
  refine hnodup.map_on fun path hpath path' hpath' heq => ?_
  obtain ⟨file, hfile, rfl⟩ := List.mem_map.mp hpath
  obtain ⟨file', hfile', rfl⟩ := List.mem_map.mp hpath'
  exact FileTree.pathSegments_inj (hplain file hfile) (hplain file' hfile') heq

/-- **No file is lost** exactly if the names are apart. Then every entry of the manifest has a path of
its own and the size of the file that is there; otherwise two entries share a path. -/
theorem Prompt.keepsAll_iff {b : Build} (hslug : ∀ slug ∈ p.slug, IsSlug slug)
    (h : p.build = .ok b) : b.KeepsAll ↔ p.NamesApart := by
  obtain ⟨l, hl, -, hb, htree⟩ := Prompt.buildIn_eq_ok h
  have hplain := hl.isPlain_iff.mpr (Prompt.SlugFits.of_isSlug hslug)
  have hpaths : b.manifest.map (·.path) = l.files.map (·.path) := by
    rw [hb.manifest, List.map_map]
    rfl
  rw [← hl.nodup_iff_namesApart hslug, ← hpaths]
  refine ⟨fun hkeeps => hkeeps.nodup, fun hnodup => ⟨hnodup, fun artifact hartifact => ?_⟩⟩
  -- with different paths nothing was replaced, so the tree still holds what was placed
  have hkeys := Layout.nodup_keys hplain (hpaths ▸ hnodup)
  have hfiles : b.tree.files = l.files.map Placement.entry := by
    rw [htree hplain]
    exact FileTree.putAll_of_nodup hkeys
  rw [hb.manifest] at hartifact
  obtain ⟨file, hfile, rfl⟩ := List.mem_map.mp hartifact
  refine ⟨file.content, FileTree.file?_of_mem (hfiles ▸ hkeys) ?_, rfl⟩
  rw [hfiles]
  exact List.mem_map_of_mem hfile

/-- A prompt with a component and a demo under given names. -/
def Prompt.paired (component demo : String) : Prompt where
  name := "Card"
  component := { code := "export {}", filename := some component }
  demo := some { code := "export default 1", filename := some demo }

/-- A component and a demo of one name are both kept. -/
theorem Prompt.keepsAll_paired :
    (∀ slug ∈ (Prompt.paired "card.tsx" "card.tsx").slug, IsSlug slug) ∧
      ∃ b, (Prompt.paired "card.tsx" "card.tsx").build = .ok b ∧ b.KeepsAll := by
  have hslug : ∀ slug ∈ (Prompt.paired "card.tsx" "card.tsx").slug, IsSlug slug := by
    simp [Prompt.paired]
  have hok : ((Prompt.paired "card.tsx" "card.tsx").build).toOption.isSome := by decide +kernel
  have hapart : (Prompt.paired "card.tsx" "card.tsx").NamesApart := by
    refine ⟨fun demo hdemo heq => ?_, List.nodup_nil, List.nodup_nil, List.nodup_nil⟩
    obtain ⟨hsource, -⟩ := Option.filter_eq_some_iff.mp hdemo
    obtain rfl := Option.some.inj hsource
    exact absurd (congrArg Except.toOption heq) (by decide +kernel)
  obtain ⟨b, hbuild⟩ := Outcome.exists_of_isSome hok
  exact ⟨hslug, b, hbuild, (Prompt.keepsAll_iff hslug hbuild).mpr hapart⟩

/-- **A component in the folder of demos** is overwritten by a demo of its name. -/
theorem Prompt.not_keepsAll_paired :
    ¬ ∀ (p : Prompt) (b : Build), (∀ slug ∈ p.slug, IsSlug slug) → p.build = .ok b → b.KeepsAll := by
  intro h
  have hmanifest : ((Prompt.paired "__demos__/card.tsx" "card.tsx").build).toOption.map
      (·.manifest.map (·.path)) =
        some ["components/ui/__demos__/card.tsx", "components/ui/__demos__/card.tsx"] := by
    decide +kernel
  obtain ⟨b, hbuild, hpaths⟩ := Outcome.exists_of_map_toOption hmanifest
  have hnodup := (h _ b (by simp [Prompt.paired]) hbuild).nodup
  rw [hpaths] at hnodup
  simp at hnodup

end PromptPress
