import PromptPress.Proofs.Archive.Import
import PromptPress.Proofs.Archive.Required
import PromptPress.Proofs.Path.Climbing
import PromptPress.Proofs.Path.Slug
import PromptPress.Proofs.Text.Lower

/-!
# Archives in a folder

An archive may come in one folder that wraps everything. The required files are found there as they are
at the root (`Archive.missing_inFolder`), and the other files are stored below the folder, except that a
name that climbs once takes the folder away, and one that climbs further is refused
(`Importer.plan_inFolder`).
-/

namespace PromptPress

open PromptPress.Path Text

/-- An entry in a folder. -/
def ArchiveEntry.inFolder (folder : String) (entry : ArchiveEntry) : ArchiveEntry :=
  { entry with name := Path.inFolder folder entry.name }

/-- An archive in a folder that wraps everything. -/
def Archive.inFolder (folder : String) (archive : Archive) : Archive :=
  archive.map (·.inFolder folder)

/-- Whether a file is among those at the root of an archive. -/
def Archive.HasAtRoot (archive : Archive) (file : String) : Prop :=
  normalEntryName file ∈ normalNames (archive.map (·.name))

instance (archive : Archive) (file : String) : Decidable (archive.HasAtRoot file) :=
  inferInstanceAs (Decidable (_ ∈ _))

/-- The normal form of the name of an entry. -/
def ArchiveEntry.plainName (entry : ArchiveEntry) : String :=
  String.ofList (join ['/'] (normalSegments entry.name.toList))

/-- The normal form of the name of an entry in a folder: a climb takes the folder away. -/
def ArchiveEntry.nameIn (folder : String) (entry : ArchiveEntry) : String :=
  if climbs entry.name = 0 then Path.inFolder folder entry.plainName else entry.plainName

variable {folder name : String} {archive : Archive} {entry : ArchiveEntry} {file : PlannedFile}
  {files : List PlannedFile}

@[simp]
theorem ArchiveEntry.name_inFolder :
    (entry.inFolder folder).name = Path.inFolder folder entry.name := rfl

/-! ### Required files -/

/-- The segments of an entry in a folder are the folder and those of the entry. -/
theorem entrySegments_inFolder (h : IsFolderName folder) :
    entrySegments (Path.inFolder folder name) = folder.toList :: entrySegments name := by
  have hcounts : (!folder.toList.isEmpty && folder.toList != ['.']) = true := by
    simp [h.isProper.ne_nil, h.isProper.ne_here]
  simp only [entrySegments]
  rw [filter_cut_dropWhile (by rfl), filter_cut_dropWhile (by rfl)]
  have hcut : cut (· == '/') (toSlashes (Path.inFolder folder name).toList) =
      folder.toList :: cut (· == '/') (toSlashes name.toList) := segments_inFolder h
  rw [hcut]
  exact List.filter_cons_of_pos hcounts

theorem normalEntryName_inFolder (h : IsFolderName folder) (hne : normalEntryName name ≠ "") :
    (normalEntryName (Path.inFolder folder name)).toList =
      lower folder.toList ++ '/' :: (normalEntryName name).toList := by
  have hsegments : entrySegments name ≠ [] := by
    intro hnil
    rw [normalEntryName, hnil] at hne
    exact hne rfl
  rw [normalEntryName, normalEntryName, entrySegments_inFolder h, join_cons _ _ hsegments,
    List.append_assoc, List.singleton_append, lower_append_slash, String.toList_ofList,
    String.toList_ofList]

/-- A file at the root is one folder deep when everything is put into a folder. -/
theorem isOneFolderDeep_inFolder (hfolder : IsFolderName folder) (hne : normalEntryName name ≠ "") :
    IsOneFolderDeep (normalEntryName name).toList
      (normalEntryName (Path.inFolder folder name)).toList :=
  ⟨lower folder.toList, lower_ne_nil hfolder.ne_nil, slash_notMem_lowerAfter hfolder.slash_notMem [],
    normalEntryName_inFolder hfolder hne⟩

/-- A file at the root is found when everything is put into a folder. -/
theorem holdsFile_inFolder (hfolder : IsFolderName folder) {names : List String} {file : String}
    (hne : normalEntryName file ≠ "") (hslash : '/' ∉ (normalEntryName file).toList)
    (h : normalEntryName file ∈ normalNames names) :
    holdsFile (normalNames (names.map (Path.inFolder folder))) file = true := by
  obtain ⟨name, hname, heq⟩ := List.mem_map.mp h
  obtain ⟨hmem, hlast⟩ := List.mem_filter.mp hname
  rw [← heq] at hne hslash
  -- a name that is empty would have an empty normal form
  have hnonempty : name.toList ≠ [] := by
    intro hnil
    rw [String.toList_eq_nil_iff] at hnil
    rw [hnil] at hne
    exact hne (by decide)
  have hlast' : (Path.inFolder folder name).toList.getLast? ≠ some '/' := by
    rw [getLast?_inFolder hnonempty]
    simpa using hlast
  have hmem' : Path.inFolder folder name ∈ (names.map (Path.inFolder folder)).filter
      (fun name => name.toList.getLast? != some '/') :=
    List.mem_filter.mpr ⟨List.mem_map_of_mem hmem, by simpa using hlast'⟩
  have hdeep := isOneFolderDeep_inFolder hfolder hne
  rw [heq] at hslash hdeep
  exact holdsFile_iff.mpr (.inr ⟨hslash, _, List.mem_map_of_mem hmem', hdeep⟩)

/-- **The required files at the root** are found when the archive is put into a folder. -/
theorem Archive.missing_inFolder (hfolder : IsFolderName folder)
    (hroot : ∀ file ∈ defaultRequired, archive.HasAtRoot file.name) :
    (archive.inFolder folder).missing defaultRequired = [] := by
  have hnames : (archive.inFolder folder).map (·.name) =
      (archive.map (·.name)).map (Path.inFolder folder) := by
    simp [Archive.inFolder, ArchiveEntry.inFolder]
  have hspelt : ∀ file ∈ defaultRequired,
      normalEntryName file.name ≠ "" ∧ '/' ∉ (normalEntryName file.name).toList := by decide +kernel
  rw [Archive.missing, hnames, missingFiles, List.map_eq_nil_iff, List.filter_eq_nil_iff]
  intro file hfile
  obtain ⟨hne, hslash⟩ := hspelt file hfile
  rw [holdsFile_inFolder hfolder hne hslash (hroot file hfile)]
  decide

/-! ### Stored names -/

/-- The name of an entry with slashes only. -/
def slashedName (entry : ArchiveEntry) : String :=
  String.ofList (toSlashes entry.name.toList)

theorem toSlashes_slashedName :
    toSlashes (slashedName entry).toList = toSlashes entry.name.toList := by
  rw [slashedName, String.toList_ofList, toSlashes_toSlashes]

theorem slashedName_inFolder (h : IsFolderName folder) :
    slashedName (entry.inFolder folder) = Path.inFolder folder (slashedName entry) := by
  rw [← String.toList_inj, slashedName, String.toList_ofList, toList_inFolder]
  rw [ArchiveEntry.name_inFolder, toList_inFolder, toSlashes_append_slash,
    toSlashes_of_notMem h.backslash_notMem, slashedName, String.toList_ofList]

/-- An entry is stored under the normal form of its name, if that is safe. -/
theorem storedName_eq : storedName entry =
    match safeSegments (slashedName entry) with
    | .ok pieces => .ok ⟨String.ofList (join ['/'] pieces), entry.content⟩
    | .error e => .error (.unsafeName e) := by
  rw [storedName, ensureRelative, slashedName]
  cases safeSegments (String.ofList (toSlashes entry.name.toList)) <;> rfl

theorem safeSegments_of_storedName (h : storedName entry = .ok file) :
    safeSegments (slashedName entry) = .ok (normalSegments entry.name.toList) ∧
      file = ⟨entry.plainName, entry.content⟩ := by
  rw [storedName_eq] at h
  split at h
  · next pieces hpieces =>
    have hnormal : normalSegments entry.name.toList = pieces := by
      rw [← normalSegments_of_safeSegments hpieces, normalSegments, normalSegments,
        toSlashes_slashedName]
    rw [ArchiveEntry.plainName, hnormal]
    exact ⟨hpieces, (Except.ok.inj h).symm⟩
  · cases h

/-- **A file in a folder** is stored if its name climbs at most once. -/
theorem storedName_inFolder (hfolder : IsFolderName folder) (h : storedName entry = .ok file) :
    storedName (entry.inFolder folder) =
      if climbs entry.name ≤ 1 then .ok ⟨entry.nameIn folder, entry.content⟩
      else .error (.unsafeName (.escapes (Path.inFolder folder (slashedName entry)))) := by
  obtain ⟨hsafe, -⟩ := safeSegments_of_storedName h
  have hclimbs : climbs (slashedName entry) = climbs entry.name := by
    rw [climbs, climbs, toSlashes_slashedName]
  have hwithin := safeSegments_inFolder hfolder hsafe
  rw [hclimbs] at hwithin
  have hname : String.ofList (join ['/'] (folder.toList :: normalSegments entry.name.toList)) =
      Path.inFolder folder entry.plainName := by
    obtain ⟨hne, -⟩ := safeSegments_spec hsafe
    rw [← String.toList_inj, toList_inFolder, String.toList_ofList, join_cons _ _ hne,
      ArchiveEntry.plainName, String.toList_ofList, List.append_assoc, List.singleton_append]
  rw [storedName_eq, slashedName_inFolder hfolder, hwithin, ArchiveEntry.nameIn]
  -- below the folder, in its place, or out of reach
  rcases climbs entry.name with _ | _ | n
  · simp only [hname]
    rfl
  · rfl
  · simp

/-- An entry without a name is not stored. -/
theorem toList_name_ne_nil (h : archive.files.mapM storedName = .ok files) :
    ∀ entry ∈ archive, entry.name.toList ≠ [] := by
  intro entry hentry hnil
  have hfile : entry ∈ archive.files :=
    List.mem_filter.mpr ⟨hentry, by simp [ArchiveEntry.isFolder, hnil]⟩
  obtain ⟨file, -, hstored⟩ :=
    Outcome.exists_of_mem_left (Outcome.mapM_eq_ok_iff.mp h) entry hfile
  obtain ⟨hsafe, -⟩ := safeSegments_of_storedName hstored
  obtain ⟨hne, -⟩ := safeSegments_spec hsafe
  rw [hnil] at hne
  exact hne (by decide)

theorem files_inFolder (h : ∀ entry ∈ archive, entry.name.toList ≠ []) :
    (archive.inFolder folder).files = archive.files.map (·.inFolder folder) := by
  rw [Archive.inFolder, Archive.files, List.filter_map, Archive.files]
  refine congrArg (List.map _) (List.filter_congr fun entry hentry => ?_)
  rw [Function.comp_apply, ArchiveEntry.isFolder, ArchiveEntry.isFolder, ArchiveEntry.name_inFolder,
    getLast?_inFolder (h entry hentry)]

namespace Importer

variable {ρ : Type} {importer : Importer ρ}

theorem files_of_plan (h : importer.plan (.archive archive) = .ok (archive, files)) :
    files = archive.files.map fun entry => ⟨entry.plainName, entry.content⟩ := by
  obtain ⟨-, -, hfiles⟩ := plan_eq_ok_iff.mp h
  have hstored : ∀ entry ∈ archive.files,
      storedName entry = .ok ⟨entry.plainName, entry.content⟩ := by
    intro entry hentry
    obtain ⟨file, -, hfile⟩ :=
      Outcome.exists_of_mem_left (Outcome.mapM_eq_ok_iff.mp hfiles) entry hentry
    rw [hfile, (safeSegments_of_storedName hfile).2]
  rw [Outcome.mapM_eq_ok_map_iff.mpr hstored] at hfiles
  exact (Except.ok.inj hfiles).symm

/-- **The plan of an archive in a folder**: it is accepted if no name climbs more than once. -/
theorem plan_inFolder (hrequired : importer.required = defaultRequired)
    (hplan : importer.plan (.archive archive) = .ok (archive, files)) (hfolder : IsFolderName folder)
    (hroot : ∀ file ∈ defaultRequired, archive.HasAtRoot file.name) {files' : List PlannedFile} :
    importer.plan (.archive (archive.inFolder folder)) = .ok (archive.inFolder folder, files') ↔
      (∀ entry ∈ archive.files, climbs entry.name ≤ 1) ∧
        files' = archive.files.map fun entry => ⟨entry.nameIn folder, entry.content⟩ := by
  obtain ⟨-, -, hfiles⟩ := plan_eq_ok_iff.mp hplan
  have hstored : ∀ entry ∈ archive.files, storedName (entry.inFolder folder) =
      if climbs entry.name ≤ 1 then .ok ⟨entry.nameIn folder, entry.content⟩
      else .error (.unsafeName (.escapes (Path.inFolder folder (slashedName entry)))) := by
    intro entry hentry
    obtain ⟨file, -, hfile⟩ :=
      Outcome.exists_of_mem_left (Outcome.mapM_eq_ok_iff.mp hfiles) entry hentry
    exact storedName_inFolder hfolder hfile
  -- if no name climbs further, the files are stored under the names in the folder, all of them
  have hall (hclimbs : ∀ entry ∈ archive.files, climbs entry.name ≤ 1) :
      (archive.files.map (·.inFolder folder)).mapM storedName =
        .ok (archive.files.map fun entry => ⟨entry.nameIn folder, entry.content⟩) := by
    rw [Outcome.mapM_eq_ok_iff, List.forall₂_map_left_iff, List.forall₂_map_right_iff,
      List.forall₂_same]
    intro entry hentry
    rw [hstored entry hentry, if_pos (hclimbs entry hentry)]
  rw [plan_eq_ok_iff, hrequired, files_inFolder (toList_name_ne_nil hfiles)]
  constructor
  · rintro ⟨-, -, hfiles'⟩
    have hclimbs : ∀ entry ∈ archive.files, climbs entry.name ≤ 1 := by
      intro entry hentry
      obtain ⟨file, -, hfile⟩ := Outcome.exists_of_mem_left (Outcome.mapM_eq_ok_iff.mp hfiles')
        (entry.inFolder folder) (List.mem_map_of_mem hentry)
      -- a name that climbs further would have been refused
      rw [hstored entry hentry] at hfile
      split at hfile
      · assumption
      · cases hfile
    rw [hall hclimbs] at hfiles'
    exact ⟨hclimbs, (Except.ok.inj hfiles').symm⟩
  · rintro ⟨hclimbs, rfl⟩
    exact ⟨Archive.missing_inFolder hfolder hroot, rfl, hall hclimbs⟩

end Importer

end PromptPress
