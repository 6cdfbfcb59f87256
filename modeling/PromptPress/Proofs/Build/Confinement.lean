import PromptPress.Proofs.Build.Writing

/-!
# Where a build writes

A build is *confined* if every file that it reports lies below the folder of its kind, under a plain
path, and nothing but the reported files was touched. Names that a prompt gives are made safe, so they
confine the build; names that are made from the slug are used as they are. `isConfined_iff` says what
this amounts to: a successful build is confined exactly if the slug fits into a name whenever a file is
named after it.
-/

namespace PromptPress

open PromptPress.Path Text

/-! ### Names after a slug -/

namespace Path

/-- A slug that fits into a name: it holds only characters of file names and separators, and before
its last separator no `.` or `..` stands alone. -/
structure FitsName (slug : String) : Prop where
  isFileChar : ∀ c ∈ slug.toList, c ≠ '\\' → isFileChar c = true
  isProper : ∀ piece ∈ (cut (fun c => c == '/' || c == '\\') slug.toList).dropLast,
    piece ≠ [] → IsProper piece

instance (slug : String) : Decidable (FitsName slug) :=
  decidable_of_iff (slug.toList.all (fun c => c == '\\' || isFileChar c) = true ∧
      (cut (fun c => c == '/' || c == '\\') slug.toList).dropLast.all
        (fun piece => piece = [] ∨ IsProper piece) = true)
    ⟨fun ⟨h₁, h₂⟩ => ⟨by simpa [or_iff_not_imp_left] using h₁,
        by simpa [or_iff_not_imp_left] using h₂⟩,
      fun ⟨h₁, h₂⟩ => ⟨by simpa [or_iff_not_imp_left] using h₁,
        by simpa [or_iff_not_imp_left] using h₂⟩⟩

variable {slug ext : String}

/-- With an extension the last piece of a slug becomes a word, and the other words stay. -/
theorem mem_pathWords_append (hext : IsExtension ext) {word : List Char} :
    word ∈ pathWords (slug ++ ext) ↔
      (word ∈ (cut (fun c => c == '/' || c == '\\') slug.toList).dropLast ∧ word ≠ []) ∨
        word = (cut (fun c => c == '/' || c == '\\') slug.toList).getLast (cut_ne_nil _ _) ++
          ext.toList := by
  have hplain : ∀ c ∈ ext.toList, (c == '/' || c == '\\') = false := fun c hc => by
    obtain ⟨hchar, hslash⟩ := hext.isFileChar c hc
    simp [hslash, ne_backslash_of_isFileChar hchar]
  have hne : ext.toList ≠ [] := by
    have := hext.length
    rintro heq
    simp [heq] at this
  rw [pathWords, words, String.toList_append, cut_append_of_forall_not hplain, List.mem_filter,
    List.mem_append, List.mem_singleton]
  constructor
  · rintro ⟨hword | rfl, hnil⟩
    · exact .inl ⟨hword, by simpa using hnil⟩
    · exact .inr rfl
  · rintro (⟨hword, hnil⟩ | rfl)
    · exact ⟨.inl hword, by simpa using hnil⟩
    · exact ⟨.inr rfl, by simp [hne]⟩

/-- **A name after a slug** consists of names exactly if the slug fits. -/
theorem isName_pathWords_append_iff (hext : IsExtension ext) :
    (∀ word ∈ pathWords (slug ++ ext), IsName word) ↔ FitsName slug := by
  have hpiece : ∀ piece ∈ cut (fun c => c == '/' || c == '\\') slug.toList,
      piece ∈ (cut (fun c => c == '/' || c == '\\') slug.toList).dropLast ∨
        piece = (cut (fun c => c == '/' || c == '\\') slug.toList).getLast (cut_ne_nil _ _) := by
    intro piece h
    rw [← List.dropLast_concat_getLast (cut_ne_nil _ slug.toList)] at h
    simpa using h
  constructor
  · intro h
    refine ⟨fun c hc hne => ?_, fun piece hdrop hnil => ?_⟩
    · by_cases hslash : c = '/'
      · rw [hslash]
        decide
      -- any other character lies in a piece, and every piece lies in a word of the name
      · obtain ⟨piece, hmem, hcp⟩ := exists_mem_cut (p := fun c => c == '/' || c == '\\') hc
          (by simp [hslash, hne])
        rcases hpiece piece hmem with hdrop | rfl
        · have hnil : piece ≠ [] := List.ne_nil_of_mem hcp
          exact (h piece ((mem_pathWords_append hext).mpr (.inl ⟨hdrop, hnil⟩))).isFileChar c hcp
        · exact (h _ ((mem_pathWords_append hext).mpr (.inr rfl))).isFileChar c
            (List.mem_append_left _ hcp)
    · exact (h piece ((mem_pathWords_append hext).mpr (.inl ⟨hdrop, hnil⟩))).toIsProper
  · intro h word hword
    have hchars : ∀ piece ∈ cut (fun c => c == '/' || c == '\\') slug.toList, ∀ c ∈ piece,
        Path.isFileChar c = true ∧ c ≠ '/' := by
      intro piece hmem c hc
      have hsep := not_of_mem_cut hmem c hc
      simp only [Bool.or_eq_false_iff, beq_eq_false_iff_ne] at hsep
      exact ⟨h.isFileChar c (mem_of_mem_cut hmem c hc) hsep.2, hsep.1⟩
    rcases (mem_pathWords_append hext).mp hword with ⟨hdrop, hnil⟩ | rfl
    · have hmem := List.dropLast_subset _ hdrop
      exact { toIsProper := h.isProper word hdrop hnil
              isFileChar := fun c hc => (hchars word hmem c hc).1
              slash_notMem := fun hc => (hchars word hmem _ hc).2 rfl }
    · refine isName_of_length (fun c hc => ?_) ?_
      · rcases List.mem_append.mp hc with hc | hc
        · exact hchars _ (List.getLast_mem _) c hc
        · exact hext.isFileChar c hc
      · rw [List.length_append]
        have := hext.length
        omega

/-- Words of lower case letters and digits fit into a name. -/
theorem IsSlug.fitsName (h : IsSlug slug) : FitsName slug := by
  have hsep : ∀ c ∈ slug.toList, (c == '/' || c == '\\') = false := fun c hc => by
    obtain ⟨hchar, hslash⟩ := h.isFileChar c hc
    simp [hslash, ne_backslash_of_isFileChar hchar]
  refine ⟨fun c hc _ => (h.isFileChar c hc).1, ?_⟩
  rw [cut_of_forall_not hsep]
  simp

/-- A path below a folder. -/
def IsBelow (dir path : String) : Prop :=
  ∃ rest, rest ≠ "" ∧ path = dir ++ "/" ++ rest

theorem isPlain_dir (kind : ArtifactKind) : IsPlain kind.dir := by
  cases kind <;> decide +kernel

theorem isPlain_pathFor_iff {kind : ArtifactKind} {name : String} :
    IsPlain (Placement.pathFor kind name) ↔ ∀ word ∈ pathWords name, IsName word :=
  isPlain_joinPath_iff (isPlain_dir kind) name

theorem IsPlain.isName_pathWords {name : String} (h : IsPlain name) :
    ∀ word ∈ Path.pathWords name, IsName word := by
  rw [h.pathWords]
  exact isPlain_iff.mp h

/-- The path of a file with a name that is not blank is below the folder of its kind. -/
theorem isBelow_pathFor (kind : ArtifactKind) {name : String} (h : pathWords name ≠ []) :
    IsBelow kind.dir (Placement.pathFor kind name) := by
  refine ⟨String.ofList (join ['/'] (pathWords name)), fun hempty => ?_, ?_⟩
  · obtain ⟨first, others, hwords⟩ := List.exists_cons_of_ne_nil h
    have hfirst : first ≠ [] := by
      have hmem : first ∈ pathWords name := by simp [hwords]
      simpa using (List.mem_filter.mp hmem).2
    rw [hwords, join_singleton_cons] at hempty
    simp [hfirst] at hempty
  · have hjoin : join ['/'] ([kind.dir, name].flatMap pathWords) =
        kind.dir.toList ++ '/' :: join ['/'] (pathWords name) := by
      rw [List.flatMap_cons, List.flatMap_singleton, (isPlain_dir kind).pathWords,
        join_append '/' (segments_ne_nil _) h, join_segments]
    rw [Placement.pathFor, joinPath_eq, hjoin, ← String.toList_inj]
    simp

end Path

/-! ### Confined builds -/

/-- The paths that a build reports, each with the kind of its file. -/
def Build.reported (b : Build) : List (ArtifactKind × String) :=
  [(.component, b.componentFile)] ++ b.demoFile.toList.map (.demo, ·) ++
    b.dependencyFiles.map (.dependency, ·) ++ b.styleFiles.map (.style, ·) ++
    b.assetFiles.map (.asset, ·) ++ b.manifest.map fun artifact => (artifact.kind, artifact.path)

/-- A build is confined if it writes each file below the folder of its kind, under the plain path that
it reports, and leaves all other files as they were before. -/
structure Build.IsConfined (b : Build) (before : FileTree) : Prop where
  below : ∀ kind path, (kind, path) ∈ b.reported → IsBelow kind.dir path
  plain : ∀ kind path, (kind, path) ∈ b.reported → IsPlain path
  written : ∀ kind path, (kind, path) ∈ b.reported →
    ∃ place, FileTree.showPath place = path ∧ (b.tree.file? place).isSome
  frame : ∀ place, b.tree.file? place ≠ before.file? place →
    ∃ kind, (kind, FileTree.showPath place) ∈ b.reported

/-- The slug fits into a name, unless no file is named after it or it is made from the name of the
prompt. -/
def Prompt.SlugFits (p : Prompt) : Prop :=
  (given p.component.filename = none ∨ ∃ demo ∈ p.usableDemo?, given demo.filename = none) →
    ∀ slug ∈ given p.slug, FitsName slug

/-- A file is reported exactly if it is in the layout. -/
theorem Build.Reports.mem_reported_iff {p : Prompt} {l : Layout} {b : Build} (hl : l.IsOf p)
    (hb : b.Reports l) {kind : ArtifactKind} {path : String} :
    (kind, path) ∈ b.reported ↔ ∃ file ∈ l.part kind, file.path = path := by
  have hmanifest : (kind, path) ∈ b.manifest.map (fun artifact => (artifact.kind, artifact.path)) ↔
      ∃ file ∈ l.part kind, file.path = path := by
    rw [hb.manifest, List.map_map, List.mem_map]
    constructor
    · rintro ⟨file, hfile, heq⟩
      obtain ⟨kind', hpart⟩ := Layout.mem_files_iff.mp hfile
      obtain ⟨rfl, rfl⟩ := Prod.mk.inj heq
      exact ⟨file, by rwa [show file.artifact.kind = kind' from (hl.path hpart).1], rfl⟩
    · rintro ⟨file, hfile, rfl⟩
      refine ⟨file, Layout.mem_files_iff.mpr ⟨kind, hfile⟩, ?_⟩
      rw [Function.comp_apply, show file.artifact.kind = kind from (hl.path hfile).1]
      rfl
  rw [Build.reported, List.mem_append, hmanifest, or_iff_right_iff_imp, hb.componentFile,
    hb.demoFile, hb.dependencyFiles, hb.styleFiles, hb.assetFiles]
  intro h
  cases kind with
  | demo => simpa [Layout.part] using h
  | _ => simpa [Layout.part, eq_comm] using h

variable {p : Prompt} {l : Layout}

theorem Prompt.SlugFits.buildSlug (h : ∀ slug ∈ given p.slug, FitsName slug) :
    FitsName p.buildSlug := by
  rw [Prompt.buildSlug]
  cases hgiven : given p.slug with
  | none => exact (isSlug_kebab _).fitsName
  | some slug => exact h slug (by simp [hgiven])

/-- **The paths of a layout** are plain exactly if the slug fits. -/
theorem Layout.IsOf.isPlain_iff (h : l.IsOf p) :
    (∀ file ∈ l.files, IsPlain file.path) ↔ p.SlugFits := by
  constructor
  · intro hplain hnamed slug hslug
    have hbuild : p.buildSlug = slug := by
      rw [Prompt.buildSlug, show given p.slug = some slug from hslug]
      rfl
    rw [← hbuild]
    rcases hnamed with hnone | ⟨demo, hdemo, hnone⟩
    · obtain ⟨name, hname, hfile⟩ := Placement.ofText_eq_ok_iff.mp h.component
      rw [Placement.safeName_of_none hnone] at hname
      obtain rfl := Except.ok.inj hname
      have hcomponent := hplain l.component (mem_files_iff.mpr ⟨.component, by simp [part]⟩)
      rw [← hfile] at hcomponent
      exact (isName_pathWords_append_iff isExtension_tsx).mp (isPlain_pathFor_iff.mp hcomponent)
    · have hplaced := h.demo
      rw [show p.usableDemo? = some demo from hdemo] at hplaced
      obtain ⟨file, rest, hfile, -, hlist⟩ := List.forall₂_cons_left_iff.mp hplaced
      have hplainfile := hplain file (mem_files_iff.mpr ⟨.demo, by rw [part, hlist]; simp⟩)
      obtain ⟨name, hname, rfl⟩ := Placement.ofText_eq_ok_iff.mp hfile
      rw [Placement.safeName_of_none hnone] at hname
      obtain rfl := Except.ok.inj hname
      exact (isName_pathWords_append_iff isExtension_demo).mp (isPlain_pathFor_iff.mp hplainfile)
  · intro hfits file hfile
    obtain ⟨kind, hpart⟩ := mem_files_iff.mp hfile
    obtain ⟨-, name, hpath, hname⟩ := h.path hpart
    rw [hpath, isPlain_pathFor_iff]
    rcases hname with hplain | ⟨-, hnone, rfl⟩ | ⟨-, hnone, rfl⟩
    · exact hplain.isName_pathWords
    · exact (isName_pathWords_append_iff isExtension_tsx).mpr
        (Prompt.SlugFits.buildSlug (hfits (.inl hnone)))
    · exact (isName_pathWords_append_iff isExtension_demo).mpr
        (Prompt.SlugFits.buildSlug (hfits (.inr hnone)))

/-- Every file of a layout lies below the folder of its kind. -/
theorem Layout.IsOf.isBelow (h : l.IsOf p) {kind : ArtifactKind} {file : Placement}
    (hfile : file ∈ l.part kind) : IsBelow kind.dir file.path := by
  obtain ⟨-, name, hpath, hname⟩ := h.path hfile
  rw [hpath]
  refine isBelow_pathFor kind ?_
  rcases hname with hplain | ⟨-, -, rfl⟩ | ⟨-, -, rfl⟩
  · rw [hplain.pathWords]
    exact segments_ne_nil _
  · exact List.ne_nil_of_mem ((mem_pathWords_append isExtension_tsx).mpr (.inr rfl))
  · exact List.ne_nil_of_mem ((mem_pathWords_append isExtension_demo).mpr (.inr rfl))

/-- **Confinement.** A build that succeeds is confined exactly if the slug fits into a name, unless no
file is named after it. A slug that is made from the name of the prompt always fits. -/
theorem Prompt.isConfined_iff {tree : FileTree} {b : Build} (h : p.buildIn tree = .ok b) :
    b.IsConfined tree ↔ p.SlugFits := by
  obtain ⟨l, hl, -, hb, htree⟩ := Prompt.buildIn_eq_ok h
  rw [← hl.isPlain_iff]
  constructor
  -- every path of the layout is reported, so confinement says that all of them are plain
  · intro hconfined file hfile
    obtain ⟨kind, hpart⟩ := Layout.mem_files_iff.mp hfile
    exact hconfined.plain kind file.path ((hb.mem_reported_iff hl).mpr ⟨file, hpart, rfl⟩)
  -- plain paths are the places that they name
  · intro hplain
    have hkey : ∀ file ∈ l.files,
        FileTree.pathSegments file.path ∈ (l.files.map Placement.entry).map (·.1) := by
      intro file hfile
      rw [List.map_map]
      exact List.mem_map_of_mem hfile
    refine ⟨fun kind path hpath => ?_, fun kind path hpath => ?_, fun kind path hpath => ?_,
      fun place hplace => ?_⟩
    · obtain ⟨file, hpart, rfl⟩ := (hb.mem_reported_iff hl).mp hpath
      exact hl.isBelow hpart
    · obtain ⟨file, hpart, rfl⟩ := (hb.mem_reported_iff hl).mp hpath
      exact hplain file (Layout.mem_files_iff.mpr ⟨kind, hpart⟩)
    · obtain ⟨file, hpart, rfl⟩ := (hb.mem_reported_iff hl).mp hpath
      have hfile := Layout.mem_files_iff.mpr ⟨kind, hpart⟩
      refine ⟨FileTree.pathSegments file.path, FileTree.showPath_pathSegments (hplain file hfile), ?_⟩
      rw [htree hplain]
      exact FileTree.isSome_file?_putAll (hkey file hfile)
    · rw [htree hplain] at hplace
      have hmem : place ∈ (l.files.map Placement.entry).map (·.1) := by
        by_contra hnot
        exact hplace (FileTree.file?_putAll_of_notMem hnot)
      rw [List.map_map] at hmem
      obtain ⟨file, hfile, rfl⟩ := List.mem_map.mp hmem
      obtain ⟨kind, hpart⟩ := Layout.mem_files_iff.mp hfile
      exact ⟨kind, (hb.mem_reported_iff hl).mpr
        ⟨file, hpart, (FileTree.showPath_pathSegments (hplain file hfile)).symm⟩⟩

/-- A prompt with nothing but a component that is named after a slug. -/
def Prompt.slugged (slug : String) : Prompt where
  name := "Card"
  slug := some slug
  component := { code := "export {}" }

/-- A slug with a slash in it names a file in a folder of its own. -/
theorem Prompt.isConfined_slugged :
    ∃ b, (Prompt.slugged "lib/card").buildIn {} = .ok b ∧ b.IsConfined {} := by
  have hok : ((Prompt.slugged "lib/card").buildIn {}).toOption.isSome := by decide +kernel
  have hfits : (Prompt.slugged "lib/card").SlugFits := by
    rintro - slug hslug
    have hgiven : given (Prompt.slugged "lib/card").slug = some "lib/card" := by decide +kernel
    obtain rfl : "lib/card" = slug := by simpa [hgiven] using hslug
    decide +kernel
  obtain ⟨b, hbuild⟩ := Outcome.exists_of_isSome hok
  exact ⟨b, hbuild, (Prompt.isConfined_iff hbuild).mpr hfits⟩

/-- **A slug with `..` in it leaves the folder of components.** -/
theorem Prompt.not_isConfined_slugged :
    ¬ ∀ (p : Prompt) (tree : FileTree) (b : Build), p.buildIn tree = .ok b → b.IsConfined tree := by
  intro h
  have hfile : ((Prompt.slugged "../../card").buildIn {}).toOption.map (·.componentFile) =
      some "components/ui/../../card.tsx" := by decide +kernel
  obtain ⟨b, hbuild, hpath⟩ := Outcome.exists_of_map_toOption hfile
  have hplain := (h _ _ _ hbuild).plain .component b.componentFile (by simp [Build.reported])
  rw [hpath] at hplain
  exact absurd hplain (by decide +kernel)

end PromptPress
