import PromptPress.Proofs.Archive.Folder

/-!
# What is reported of an archive in a folder

The required files of an archive are looked for at its root and in a folder that wraps everything.
Everything else is looked for at the root only: the title is read from there, and pages and components
are told by folders there. So an archive in a folder, if it is accepted at all, has no title, and its
files are neither pages nor components, unless they climb out of the folder or the folder happens to be
one that counts (`Importer.inFolder_agrees_iff`).
-/

namespace PromptPress

open PromptPress.Path Text
open Digest (utf8)

variable {folder name : String} {archive : Archive} {entry : ArchiveEntry} {files : List PlannedFile}

/-! ### Titles, pages and components -/

/-- There is no schema at the root of an archive that is in a folder, whatever reads it. -/
theorem Archive.title_inFolder (reader : TitleReader) : (archive.inFolder folder).title reader = .ok none := by
  have hcontent : (archive.inFolder folder).content? "schema.json" = none := by
    rw [Archive.content?, Option.map_eq_none_iff, List.find?_eq_none]
    intro entry hentry
    obtain ⟨inner, -, rfl⟩ := List.mem_map.mp (List.mem_reverse.mp hentry)
    have hslash : '/' ∈ (inner.inFolder folder).name.toList := by
      simp [toList_inFolder]
    rw [beq_iff_eq]
    intro heq
    rw [heq] at hslash
    exact absurd hslash (by decide)
  rw [Archive.title, hcontent]
  rfl

/-- The last segment of a path does not depend on what stands before a slash. -/
theorem lastSegment_append_slash (s t : List Char) : lastSegment (s ++ '/' :: t) = lastSegment t := by
  have hlast (path : List Char) : lastSegment path =
      (((splitAtChar? (· == '/') path.reverse).map (·.1)).getD path.reverse).reverse := by
    rw [lastSegment, splitAtLast?]
    cases splitAtChar? (· == '/') path.reverse <;> simp
  have hreverse : (s ++ '/' :: t).reverse = t.reverse ++ '/' :: s.reverse := by simp
  rw [hlast, hlast, hreverse, splitAtChar?_append_cons (by rfl), Option.getD_some]

theorem fileStem_nameIn : fileStem (entry.nameIn folder) = fileStem entry.plainName := by
  rw [ArchiveEntry.nameIn]
  split
  · rw [fileStem, toList_inFolder, lastSegment_append_slash]
    rfl
  · rfl

/-- A file in a folder lies below no directory that begins with another folder. -/
theorem liesBelow_inFolder (hfolder : IsFolderName folder) {dir first : String}
    (hdir : (segments dir.toList).head? = some first.toList) (hne : folder ≠ first) :
    liesBelow dir (Path.inFolder folder name) = false := by
  rw [Bool.eq_false_iff]
  intro hbelow
  obtain ⟨rest, hrest⟩ := List.isPrefixOf_iff_prefix.mp hbelow
  rw [toList_inFolder, List.append_assoc, List.singleton_append] at hrest
  have hhead := congrArg (fun s => (segments s).head?) hrest
  simp only [segments_append_slash, segments_of_slash_notMem hfolder.slash_notMem,
    List.head?_append_of_ne_nil _ (segments_ne_nil _), hdir, List.singleton_append,
    List.head?_cons] at hhead
  exact hne (String.toList_inj.mp (Option.some.inj hhead)).symm

theorem isPageFile_inFolder (hfolder : IsFolderName folder) (hne : folder ≠ "pages") (name : String) :
    isPageFile (Path.inFolder folder name) = false := by
  have hdir : (segments pageDir.toList).head? = some "pages".toList := by decide
  rw [isPageFile, liesBelow_inFolder hfolder hdir hne, Bool.false_and]

theorem isComponentFile_inFolder (hfolder : IsFolderName folder) (hne : folder ≠ "components")
    (name : String) : isComponentFile (Path.inFolder folder name) = false := by
  have hdir : (segments componentDir.toList).head? = some "components".toList := by decide
  rw [isComponentFile, liesBelow_inFolder hfolder hdir hne, Bool.false_and]

/-- **Files of a kind that is not told in the folder**: they are the same as without it exactly if all of
them have climbed out. -/
theorem stems_eq_iff {counts : String → Bool}
    (hnone : ∀ name, counts (Path.inFolder folder name) = false) (entries : List ArchiveEntry) :
    ((entries.map (·.nameIn folder)).filter counts).map fileStem =
        ((entries.map (·.plainName)).filter counts).map fileStem ↔
      ∀ entry ∈ entries, counts entry.plainName = true → climbs entry.name ≠ 0 := by
  have hstem : (fileStem ∘ fun entry : ArchiveEntry => entry.nameIn folder) =
      fileStem ∘ fun entry => entry.plainName := funext fun entry => fileStem_nameIn
  have hcounts (entry : ArchiveEntry) : counts (entry.nameIn folder) = true ↔
      counts entry.plainName = true ∧ climbs entry.name ≠ 0 := by
    rw [ArchiveEntry.nameIn]
    split
    · next hzero => simp [hnone, hzero]
    · next hclimbs => simp [hclimbs]
  rw [List.filter_map, List.filter_map, List.map_map, List.map_map, hstem]
  constructor
  · intro heq entry hentry hplain
    have hsublist : (entries.filter (counts ∘ (·.nameIn folder))).Sublist
        (entries.filter (counts ∘ (·.plainName))) :=
      List.monotone_filter_right entries fun entry hentry => ((hcounts entry).mp hentry).1
    -- as many stems, so as many files
    have hfiles := hsublist.eq_of_length (by simpa using congrArg List.length heq)
    have hmem : entry ∈ entries.filter (counts ∘ (·.nameIn folder)) := by
      rw [hfiles]
      exact List.mem_filter.mpr ⟨hentry, hplain⟩
    exact ((hcounts entry).mp (List.mem_filter.mp hmem).2).2
  · intro hclimbs
    refine congrArg (List.map _) (List.filter_congr fun entry hentry => ?_)
    rw [Function.comp_apply, Function.comp_apply, Bool.eq_iff_iff, hcounts]
    exact and_iff_left_of_imp (hclimbs entry hentry)

/-! ### Agreement -/

/-- A run reports the title, the pages and the components of a result. -/
def ImportRun.Agrees {ρ : Type} (run : ImportRun ρ) (result : ImportResult) : Prop :=
  ∃ other, run.outcome = .ok other ∧ other.title = result.title ∧ other.pages = result.pages ∧
    other.components = result.components

namespace Importer

section InFolder

variable {importer : Importer Unit} {env : Environment} {request : ImportRequest}
  {store : ObjectStore} (hrequired : importer.required = defaultRequired)
  (hrecord : importer.record = fun _ rows => .ok rows)
  (hplan : importer.plan (.archive archive) = .ok (archive, files))
  (hroot : ∀ file ∈ defaultRequired, archive.HasAtRoot file.name) (hfolder : IsFolderName folder)
  (hupload : request.upload = .archive (archive.inFolder folder))
  (hconnect : importer.connect env = .ok ()) (hstore : store.Accepts (importer.bucketIn env))

include hrequired hrecord hplan hroot hfolder hupload hconnect hstore

/-- An archive in a folder is imported if no name in it climbs more than once. -/
theorem outcome_inFolder (result : ImportResult) :
    (importer.run env request store ()).outcome = .ok result ↔
      (∀ entry ∈ archive.files, climbs entry.name ≤ 1) ∧
        result = request.result (importer.bucketIn env) none
          (archive.files.map fun entry => ⟨entry.nameIn folder, entry.content⟩) := by
  constructor
  · intro h
    obtain ⟨archive', files', -, -, title, hplan', -, -, -, htitle, rfl⟩ := run_eq_ok h
    rw [hupload] at hplan'
    obtain ⟨-, rfl, -⟩ := plan_eq_ok_iff.mp hplan'
    obtain ⟨hclimbs, rfl⟩ := (plan_inFolder hrequired hplan hfolder hroot).mp hplan'
    obtain rfl : none = title := Except.ok.inj ((Archive.title_inFolder _).symm.trans htitle)
    exact ⟨hclimbs, rfl⟩
  · rintro ⟨hclimbs, rfl⟩
    have hplan' := (plan_inFolder hrequired hplan hfolder hroot).mpr ⟨hclimbs, rfl⟩
    rw [← hupload] at hplan'
    obtain ⟨after, -, -, hrun⟩ := run_of_plan hplan' hconnect hstore ()
    rw [hrun, conclude_of_title (Archive.title_inFolder _), finish, hrecord]

theorem agrees_inFolder_iff (result : ImportResult) :
    (importer.run env request store ()).Agrees result ↔
      result.title = none ∧ (∀ entry ∈ archive.files, climbs entry.name ≤ 1) ∧
        pageNames (archive.files.map (·.nameIn folder)) = result.pages ∧
        componentNames (archive.files.map (·.nameIn folder)) = result.components := by
  have houtcome :=
    outcome_inFolder hrequired hrecord hplan hroot hfolder hupload hconnect hstore
  have hnames : (archive.files.map fun entry =>
      (⟨entry.nameIn folder, entry.content⟩ : PlannedFile)).map (·.name) =
        archive.files.map (·.nameIn folder) := by
    rw [List.map_map]
    rfl
  rw [← hnames]
  constructor
  · rintro ⟨other, hother, htitle, hpages, hcomponents⟩
    obtain ⟨hclimbs, rfl⟩ := (houtcome other).mp hother
    exact ⟨htitle.symm, hclimbs, hpages, hcomponents⟩
  · rintro ⟨htitle, hclimbs, hpages, hcomponents⟩
    exact ⟨_, (houtcome _).mpr ⟨hclimbs, rfl⟩, htitle.symm, hpages, hcomponents⟩

end InFolder

/-- **Archives in a folder.** Let an archive with all required files at its root be imported. Put into
a folder, it is imported with the same title, pages and components exactly if it has no title, no name
in it climbs more than once, and the names in the folder tell the same pages and components. In a folder
that is not one of those that tell them, this means that all pages and components climb out of it. -/
theorem inFolder_agrees_iff (importer : Importer Unit) (env : Environment)
    (request request' : ImportRequest) (store store' : ObjectStore) (archive : Archive)
    (folder : String) (result : ImportResult) (hrequired : importer.required = defaultRequired)
    (hrecord : importer.record = fun _ rows => .ok rows) (hupload : request.upload = .archive archive)
    (haccepted : (importer.run env request store ()).outcome = .ok result)
    (hroot : ∀ file ∈ defaultRequired, archive.HasAtRoot file.name) (hfolder : IsFolderName folder)
    (hupload' : request'.upload = .archive (archive.inFolder folder))
    (hstore : store'.Accepts (importer.bucketIn env)) :
    let run := importer.run env request' store' ()
    (run.Agrees result ↔ result.title = none ∧ (∀ entry ∈ archive.files, climbs entry.name ≤ 1) ∧
      pageNames (archive.files.map (·.nameIn folder)) = result.pages ∧
      componentNames (archive.files.map (·.nameIn folder)) = result.components) ∧
    (folder ≠ "pages" → folder ≠ "components" → (run.Agrees result ↔ result.title = none ∧
      ∀ entry ∈ archive.files, climbs entry.name ≤ 1 ∧
        (isPageFile entry.plainName = true ∨ isComponentFile entry.plainName = true →
          climbs entry.name = 1))) := by
  intro run
  obtain ⟨archive', files, -, -, title, hplan, hconnect, -, -, -, rfl⟩ := run_eq_ok haccepted
  rw [hupload] at hplan
  obtain ⟨-, rfl, -⟩ := plan_eq_ok_iff.mp hplan
  have hagrees := agrees_inFolder_iff hrequired hrecord hplan hroot hfolder hupload' hconnect hstore
    (request.result (importer.bucketIn env) title files)
  refine ⟨hagrees, fun hpage hcomponent => hagrees.trans (and_congr_right fun _ => ?_)⟩
  have hnames : files.map (·.name) = archive'.files.map (·.plainName) := by
    rw [files_of_plan hplan, List.map_map]
    rfl
  have hpages := stems_eq_iff (isPageFile_inFolder hfolder hpage) archive'.files
  have hcomponents := stems_eq_iff (isComponentFile_inFolder hfolder hcomponent) archive'.files
  rw [← hnames] at hpages hcomponents
  rw [pageNames, componentNames]
  refine (and_congr_right fun _ => and_congr hpages hcomponents).trans ?_
  constructor
  · rintro ⟨hclimbs, hpages, hcomponents⟩ entry hentry
    refine ⟨hclimbs entry hentry, fun hcounts => ?_⟩
    have hle : climbs entry.name ≤ 1 := hclimbs entry hentry
    have hne : climbs entry.name ≠ 0 :=
      hcounts.elim (hpages entry hentry) (hcomponents entry hentry)
    omega
  · intro h
    refine ⟨fun entry hentry => (h entry hentry).1, ?_, ?_⟩
    · intro entry hentry hcounts
      simp [(h entry hentry).2 (.inl hcounts)]
    · intro entry hentry hcounts
      simp [(h entry hentry).2 (.inr hcounts)]

/-- The component of an archive without a title climbs out of the folder, which makes no difference. -/
theorem inFolder_agrees_iff_climbing :
    let archive : Archive := [⟨"schema.json", []⟩, ⟨"./Preview.HTML", []⟩,
      ⟨"/../components/ui/hero.tsx", []⟩]
    let request : ImportRequest := ⟨.archive archive, "u1", importIdOf 1, none, 0⟩
    let request' : ImportRequest := ⟨.archive (archive.inFolder "hero"), "u1", importIdOf 2, none, 0⟩
    let importer : Importer Unit := { bucket := some "b" }
    let key := "templates/u1/00000000000000000000000000000001"
    let objects := ["schema.json", "Preview.HTML", "components/ui/hero.tsx"].map fun name =>
      s!"{key}/{name}"
    let result : ImportResult := ⟨importIdOf 1, "u1", "b", key, objects, [], ["hero"], none, 0, none⟩
    (importer.run [] request {} ()).outcome = .ok result ∧
      (∀ file ∈ defaultRequired, archive.HasAtRoot file.name) ∧ IsFolderName "hero" ∧
      (importer.run [] request' {} ()).Agrees result := by
  intro archive request request' importer key objects result
  have haccepted : (importer.run [] request {} ()).outcome = .ok result := by decide +kernel
  have hroot : ∀ file ∈ defaultRequired, archive.HasAtRoot file.name := by decide +kernel
  have hfolder : IsFolderName "hero" := by decide
  have hstore : ({} : ObjectStore).Accepts (importer.bucketIn []) := ⟨⟨_, rfl⟩, fun _ => rfl⟩
  obtain ⟨-, hiff⟩ := inFolder_agrees_iff importer [] request request' {} {} archive "hero" result
    rfl rfl rfl haccepted hroot hfolder rfl hstore
  exact ⟨haccepted, hroot, hfolder,
    (hiff (by decide) (by decide)).mpr ⟨rfl, by decide +kernel⟩⟩

/-- An archive with a title and a component is accepted in a folder, but reports neither. -/
theorem not_inFolder_agrees_titled :
    let archive : Archive := [⟨"schema.json", utf8 "\x7b\"title\": \"Hero\"\x7d"⟩,
      ⟨"preview.html", []⟩, ⟨"components/ui/hero.tsx", utf8 "x"⟩]
    let request : ImportRequest := ⟨.archive archive, "u1", importIdOf 1, none, 0⟩
    let request' : ImportRequest := ⟨.archive (archive.inFolder "hero"), "u1", importIdOf 2, none, 0⟩
    let importer : Importer Unit := { bucket := some "b" }
    ∃ result, (importer.run [] request {} ()).outcome = .ok result ∧
      (∀ file ∈ defaultRequired, archive.HasAtRoot file.name) ∧ IsFolderName "hero" ∧
      ({} : ObjectStore).Accepts (importer.bucketIn []) ∧
      ¬ (importer.run [] request' {} ()).Agrees result := by
  intro archive request request' importer
  have htitle : (importer.run [] request {} ()).outcome.toOption.map (·.title) =
      some (some (.ofString "Hero")) := by decide +kernel
  have htitle' : (importer.run [] request' {} ()).outcome.toOption.map (·.title) = some none := by
    decide +kernel
  have hroot : ∀ file ∈ defaultRequired, archive.HasAtRoot file.name := by decide +kernel
  obtain ⟨result, haccepted, hresult⟩ := Outcome.exists_of_map_toOption htitle
  refine ⟨result, haccepted, hroot, by decide, ⟨⟨_, rfl⟩, fun _ => rfl⟩, ?_⟩
  rintro ⟨other, hother, hagrees, -, -⟩
  rw [hother] at htitle'
  have hother' : other.title = none := Option.some.inj htitle'
  rw [hother', hresult] at hagrees
  cases hagrees

end Importer

end PromptPress
