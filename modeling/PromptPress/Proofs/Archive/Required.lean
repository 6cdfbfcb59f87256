import PromptPress.Archive.Required
import PromptPress.Proofs.Path.Relative
import PromptPress.Proofs.Text.Lower

/-!
# Where required files are found

A required file should be found at the root of an archive or in one folder (`IsFound`). A file whose
normal form is a single segment is; one with a longer path is found at the root only, because the one
slash that a name may hold is then part of the file itself (`isWrapped_iff`, `holdsFile_iff`). So the
files reported as missing are those that are not found exactly if each file with a longer path that is in
one folder is at the root too (`missingFiles_spec`); this is so for the files that a template needs
(`reportsUnfound_defaultRequired`).
-/

namespace PromptPress

open PromptPress.Path Text

/-- Whether a name is that of a file in a folder: a segment, a slash and the name of the file. -/
def IsOneFolderDeep (file name : List Char) : Prop :=
  ∃ folder : List Char, folder ≠ [] ∧ '/' ∉ folder ∧ name = folder ++ '/' :: file

/-- Whether a required file is at the root of an archive with the names. -/
def IsAtRoot (names : List String) (file : String) : Prop :=
  normalEntryName file ∈ normalNames names

/-- Whether a required file is in one folder. -/
def IsInFolder (names : List String) (file : String) : Prop :=
  ∃ name ∈ normalNames names, IsOneFolderDeep (normalEntryName file).toList name.toList

/-- Whether a required file is at the root or exactly one folder deep. -/
def IsFound (names : List String) (file : String) : Prop :=
  IsAtRoot names file ∨ IsInFolder names file

/-- What is reported about a required file that is missing. -/
def RequiredFile.report (file : RequiredFile) : MissingFile :=
  ⟨file.name, file.description⟩

variable {required name : List Char} {names : List String} {file : String}

theorem isOneFolderDeep_iff : IsOneFolderDeep required name ↔
    name.takeWhile (· != '/') ≠ [] ∧ name.takeWhile (· != '/') ++ '/' :: required = name := by
  constructor
  · rintro ⟨folder, hne, hslash, rfl⟩
    have htake : (folder ++ '/' :: required).takeWhile (· != '/') = folder :=
      takeWhile_append_of_stops (fun c hc => by simpa using ne_of_mem_of_not_mem hc hslash) (by simp)
    rw [htake]
    exact ⟨hne, rfl⟩
  · rintro ⟨hne, heq⟩
    refine ⟨_, hne, fun hmem => ?_, heq.symm⟩
    simpa using List.mem_takeWhile_imp hmem

instance : Decidable (IsOneFolderDeep required name) :=
  decidable_of_iff' _ isOneFolderDeep_iff

instance : Decidable (IsAtRoot names file) :=
  inferInstanceAs (Decidable (_ ∈ _))

instance : Decidable (IsInFolder names file) :=
  inferInstanceAs (Decidable (∃ _ ∈ _, _))

instance : Decidable (IsFound names file) :=
  inferInstanceAs (Decidable (_ ∨ _))

/-- Whether an archive is accepted if all required files are found, and the report lists the others, each
once and in the order in which they are required. -/
structure ReportsUnfound (names : List String) (required : List RequiredFile) : Prop where
  accepts : missingFiles names required = [] ↔ ∀ file ∈ required, IsFound names file.name
  lists : missingFiles names required =
    (required.filter fun file => ¬ IsFound names file.name).map RequiredFile.report

/-! ### Normal forms -/

/-- The segments of a name are not empty and hold no slash. -/
theorem entrySegments_spec {segment : List Char} (h : segment ∈ entrySegments file) :
    segment ≠ [] ∧ '/' ∉ segment := by
  obtain ⟨hmem, hkeeps⟩ := List.mem_filter.mp h
  rw [Bool.and_eq_true, Bool.not_eq_true', List.isEmpty_eq_false_iff] at hkeeps
  exact ⟨hkeeps.1, slash_notMem_of_mem_segments hmem⟩

/-- A normal form does not begin with a slash. -/
theorem head?_normalEntryName (file : String) : (normalEntryName file).toList.head? ≠ some '/' := by
  rw [normalEntryName, String.toList_ofList]
  rcases hsegments : entrySegments file with _ | ⟨segment, segments⟩
  · decide
  · have hspec := entrySegments_spec (hsegments ▸ List.mem_cons_self)
    obtain ⟨hne, hslash⟩ := hspec
    obtain ⟨c, s, rfl⟩ := List.exists_cons_of_ne_nil hne
    obtain ⟨d, rest, hlower, hd, -⟩ :=
      exists_lowerAfter_cons (fun heq : c = '/' => hslash (heq ▸ List.mem_cons_self)) []
        (join ['/'] ((c :: s) :: segments)).tail
    have hjoin : join ['/'] ((c :: s) :: segments) =
        c :: (join ['/'] ((c :: s) :: segments)).tail := by
      cases segments <;> rfl
    rw [hjoin, lower, hlower]
    simpa using hd

theorem head?_of_mem_normalNames {name : String} (h : name ∈ normalNames names) :
    name.toList.head? ≠ some '/' := by
  obtain ⟨entry, -, rfl⟩ := List.mem_map.mp h
  exact head?_normalEntryName entry

/-! ### The search -/

/-- **A wrapped file** is one folder deep, but the one slash counted has to be the one after the folder:
a file with a slash of its own is never wrapped. -/
theorem isWrapped_iff (hname : name.head? ≠ some '/') :
    isWrapped required name = true ↔ '/' ∉ required ∧ IsOneFolderDeep required name := by
  rw [isWrapped, Bool.and_eq_true, List.isSuffixOf_iff_suffix, beq_iff_eq]
  constructor
  · rintro ⟨⟨folder, rfl⟩, hcount⟩
    rw [List.count_append, List.count_cons_self] at hcount
    refine ⟨List.count_eq_zero.mp (by omega), folder, ?_, List.count_eq_zero.mp (by omega), rfl⟩
    rintro rfl
    exact hname rfl
  · rintro ⟨hrequired, folder, -, hfolder, rfl⟩
    refine ⟨List.suffix_append _ _, ?_⟩
    rw [List.count_append, List.count_cons_self, List.count_eq_zero.mpr hfolder,
      List.count_eq_zero.mpr hrequired]

/-- **What the search finds**: files at the root, and single segments in one folder. -/
theorem holdsFile_iff : holdsFile (normalNames names) file = true ↔
    IsAtRoot names file ∨ '/' ∉ (normalEntryName file).toList ∧ IsInFolder names file := by
  have hany : ((normalNames names).any fun name =>
      isWrapped (normalEntryName file).toList name.toList) = true ↔
      '/' ∉ (normalEntryName file).toList ∧ IsInFolder names file := by
    rw [List.any_eq_true]
    constructor
    · rintro ⟨name, hname, hwrapped⟩
      obtain ⟨hslash, hdeep⟩ := (isWrapped_iff (head?_of_mem_normalNames hname)).mp hwrapped
      exact ⟨hslash, name, hname, hdeep⟩
    · rintro ⟨hslash, name, hname, hdeep⟩
      exact ⟨name, hname, (isWrapped_iff (head?_of_mem_normalNames hname)).mpr ⟨hslash, hdeep⟩⟩
  rw [holdsFile, Bool.or_eq_true, List.contains_iff_mem, hany]
  exact Iff.rfl

/-! ### The report -/

theorem missingFiles_eq (names : List String) (required : List RequiredFile) :
    missingFiles names required =
      (required.filter fun file => ¬ (IsAtRoot names file.name ∨
        '/' ∉ (normalEntryName file.name).toList ∧ IsInFolder names file.name)).map
          RequiredFile.report := by
  rw [missingFiles]
  refine congrArg (List.map _) (List.filter_congr fun file _ => ?_)
  simp only [← holdsFile_iff, decide_not, Bool.decide_eq_true]

theorem report_injective : Function.Injective RequiredFile.report := by
  rintro ⟨name, description⟩ ⟨name', description'⟩ h
  cases h
  rfl

theorem reportsUnfound_iff {names : List String} {required : List RequiredFile} :
    ReportsUnfound names required ↔ ∀ file ∈ required, '/' ∈ (normalEntryName file.name).toList →
      IsInFolder names file.name → IsAtRoot names file.name := by
  constructor
  · intro h file hfile hslash hfolder
    have hlists := h.lists
    rw [missingFiles_eq, report_injective.list_map.eq_iff] at hlists
    -- a file that is found is not reported, so it is at the root
    have hnot : file ∉ required.filter fun file => ¬ IsFound names file.name :=
      fun hmem => of_decide_eq_true (List.mem_filter.mp hmem).2 (.inr hfolder)
    rw [← hlists, List.mem_filter] at hnot
    by_contra hroot
    exact hnot ⟨hfile, decide_eq_true fun hheld =>
      hheld.elim hroot fun hsingle => hsingle.1 hslash⟩
  · intro h
    have hlists : missingFiles names required =
        (required.filter fun file => ¬ IsFound names file.name).map RequiredFile.report := by
      rw [missingFiles_eq]
      refine congrArg (List.map _) (List.filter_congr fun file hfile => decide_eq_decide.mpr ?_)
      refine not_congr ⟨Or.imp_right And.right, ?_⟩
      rintro (hroot | hfolder)
      · exact .inl hroot
      · by_cases hslash : '/' ∈ (normalEntryName file.name).toList
        · exact .inl (h file hfile hslash hfolder)
        · exact .inr ⟨hslash, hfolder⟩
    refine ⟨?_, hlists⟩
    rw [hlists, List.map_eq_nil_iff, List.filter_eq_nil_iff]
    simp

/-- The files that a template needs are found at the root or exactly one folder deep. -/
theorem reportsUnfound_defaultRequired (names : List String) :
    ReportsUnfound names defaultRequired := by
  have hsingle : ∀ file ∈ defaultRequired, '/' ∉ (normalEntryName file.name).toList := by
    decide +kernel
  exact reportsUnfound_iff.mpr fun file hfile hslash => absurd hslash (hsingle file hfile)

/-- **The files reported as missing** are those that are neither at the root nor, if the normal form is a
single segment, in one folder. So a file in one folder is found, whatever its path, exactly if each file
with a longer path that is in one folder is at the root too. -/
theorem missingFiles_spec (names : List String) (required : List RequiredFile) :
    missingFiles names required =
        (required.filter fun file => ¬ (IsAtRoot names file.name ∨
          '/' ∉ (normalEntryName file.name).toList ∧ IsInFolder names file.name)).map
            RequiredFile.report ∧
      (ReportsUnfound names required ↔ ∀ file ∈ required,
        '/' ∈ (normalEntryName file.name).toList →
          IsInFolder names file.name → IsAtRoot names file.name) :=
  ⟨missingFiles_eq names required, reportsUnfound_iff⟩

/-- A page in the folder that wraps everything is in one folder, and is reported as missing. -/
theorem not_reportsUnfound_page :
    IsInFolder ["hero/pages/index.tsx"] "pages/index.tsx" ∧
      missingFiles ["hero/pages/index.tsx"] [⟨"pages/index.tsx", "The start page"⟩] =
        [⟨"pages/index.tsx", "The start page"⟩] ∧
      ¬ ReportsUnfound ["hero/pages/index.tsx"] [⟨"pages/index.tsx", "The start page"⟩] := by
  refine ⟨by decide +kernel, by decide +kernel, fun h => ?_⟩
  exact absurd h.lists (by decide +kernel)

end PromptPress
