import Mathlib.Tactic.Common
import PromptPress.Archive.Import
import PromptPress.Proofs.Path.Relative

/-!
# Imports that are carried out

An archive of plain names is planned as it is: no entry is a folder, and every file is stored under its
own name. A store that accepts the import takes the files in the order of the archive, one put for each.
So all files of an import of plain names with all required files are stored, and what is left is to read the
title of the archive and to record the result (`Importer.run_eq_conclude`).
-/

namespace PromptPress

open PromptPress.Path Text

/-! ### Stores -/

namespace ObjectStore

variable {store ready : ObjectStore} {bucket : String}

/-- A store that accepts an import: its bucket is there or can be made, and no put fails. -/
structure Accepts (store : ObjectStore) (bucket : String) : Prop where
  ensured : ∃ ready, store.ensureBucket bucket = .ok ready
  put_ok : ∀ n, store.faults.putFails n = false

/-- Making sure that there is a bucket puts nothing. -/
theorem ensureBucket_eq_ok (h : store.ensureBucket bucket = .ok ready) :
    ready.objects = store.objects ∧ ready.puts = store.puts ∧ ready.faults = store.faults := by
  unfold ensureBucket at h
  repeat' split at h
  all_goals cases h
  all_goals exact ⟨rfl, rfl, rfl⟩

/-- **A run of puts** that do not fail adds all objects in order. -/
theorem putAll_eq_ok (h : ∀ n, store.faults.putFails n = false) (objects : List StoredObject) :
    store.putAll objects =
      ({ store with objects := store.objects ++ objects, puts := store.puts + objects.length },
        .ok ()) := by
  induction objects generalizing store with
  | nil => simp [putAll]
  | cons object objects ih =>
    have hput : store.put object =
        ({ store with objects := store.objects ++ [object], puts := store.puts + 1 }, .ok ()) := by
      simp [put, countPut, h]
    have hrest := @ih { store with objects := store.objects ++ [object], puts := store.puts + 1 } h
    rw [List.append_assoc, Nat.add_assoc, Nat.add_comm 1] at hrest
    rw [putAll, hput]
    exact hrest

end ObjectStore

/-! ### Plans -/

namespace Path

variable {path : String}

/-- **A plain path is its own normal form.** -/
theorem IsPlain.ensureRelative (h : IsPlain path) : ensureRelative path = .ok path := by
  rw [Path.ensureRelative, h.safeSegments, Except.map, join_segments, String.ofList_toList]

/-- A plain path does not name a folder. -/
theorem IsPlain.getLast?_ne (h : IsPlain path) : path.toList.getLast? ≠ some '/' := by
  intro hlast
  obtain ⟨before, hpath⟩ := List.getLast?_eq_some_iff.mp hlast
  -- what follows the last slash would be an empty segment
  have hempty : ([] : List Char) ∈ segments path.toList := by
    rw [hpath, segments, cut_append_cons rfl]
    exact List.mem_append_right _ (List.mem_singleton_self [])
  exact (h.isProper _ hempty).ne_nil rfl

end Path

namespace Archive

variable {archive : Archive}

/-- The file that an entry is stored as if its name is left as it is. -/
def asPlanned (archive : Archive) : List PlannedFile :=
  archive.map fun entry => ⟨entry.name, entry.content⟩

theorem files_of_isPlain (h : ∀ entry ∈ archive, IsPlain entry.name) : archive.files = archive := by
  rw [files, List.filter_eq_self]
  intro entry hentry
  simpa [ArchiveEntry.isFolder] using (h entry hentry).getLast?_ne

theorem storedName_of_isPlain {entry : ArchiveEntry} (h : IsPlain entry.name) :
    storedName entry = .ok ⟨entry.name, entry.content⟩ := by
  rw [storedName, toSlashes_of_notMem h.backslash_notMem, String.ofList_toList, h.ensureRelative]

theorem storedName_eq_ok_iff {entry : ArchiveEntry} {file : PlannedFile} :
    storedName entry = .ok file ↔
      ∃ name, ensureRelative (String.ofList (toSlashes entry.name.toList)) = .ok name ∧
        (⟨name, entry.content⟩ : PlannedFile) = file := by
  rw [storedName]
  cases ensureRelative (String.ofList (toSlashes entry.name.toList)) <;> simp

theorem mapM_storedName (h : ∀ entry ∈ archive, IsPlain entry.name) :
    List.mapM storedName archive = .ok archive.asPlanned :=
  Outcome.mapM_eq_ok_map_iff.mpr fun entry hentry => storedName_of_isPlain (h entry hentry)

end Archive

namespace Importer

variable {ρ : Type} {importer : Importer ρ} {archive : Archive} {env : Environment}
  {request : ImportRequest} {store : ObjectStore}

/-- What is planned of an archive that has all required files. -/
theorem plan_eq_ok_iff {archive' : Archive} {files : List PlannedFile} :
    importer.plan (.archive archive) = .ok (archive', files) ↔
      archive.missing importer.required = [] ∧ archive' = archive ∧
        archive.files.mapM storedName = .ok files := by
  rw [plan]
  split
  · next hmissing =>
    rw [Outcome.map_eq_ok_iff]
    constructor
    · rintro ⟨planned, hplanned, hpair⟩
      obtain ⟨rfl, rfl⟩ := Prod.mk.inj hpair
      exact ⟨hmissing, rfl, hplanned⟩
    · rintro ⟨-, rfl, hplanned⟩
      exact ⟨files, hplanned, rfl⟩
  · next hmissing => exact iff_of_false nofun fun h => hmissing h.1

theorem plan_eq_ok (hplain : ∀ entry ∈ archive, IsPlain entry.name)
    (hmissing : archive.missing importer.required = []) :
    importer.plan (.archive archive) = .ok (archive, archive.asPlanned) := by
  rw [plan_eq_ok_iff, Archive.files_of_isPlain hplain, Archive.mapM_storedName hplain]
  exact ⟨hmissing, rfl, rfl⟩

theorem conclude_of_title {bucket : String} {title : Option RawText}
    (h : archive.title importer.readTitle = .ok title) (files : List PlannedFile) (rows : ρ) :
    importer.conclude request bucket archive files store rows =
      importer.finish (request.result bucket title files) store rows := by
  rw [conclude, h]

/-- **An import that succeeds** has passed the checks, signed in, made sure of the bucket, put all files and
read the title; its result tells what was planned. -/
theorem run_eq_ok {rows : ρ} {result : ImportResult}
    (h : (importer.run env request store rows).outcome = .ok result) :
    ∃ archive files ready after title, importer.plan request.upload = .ok (archive, files) ∧
      importer.connect env = .ok () ∧ store.ensureBucket (importer.bucketIn env) = .ok ready ∧
      ready.putAll (files.map (request.object (importer.bucketIn env))) = (after, .ok ()) ∧
      archive.title importer.readTitle = .ok title ∧
      result = request.result (importer.bucketIn env) title files := by
  rw [run] at h
  split at h
  · cases h
  · next archive files hplan =>
    split at h
    · cases h
    · next hconnect =>
      rw [upload] at h
      split at h
      · cases h
      · next ready hready =>
        split at h
        · cases h
        · next after hputs =>
          rw [conclude] at h
          split at h
          · cases h
          · next title htitle =>
            rw [finish] at h
            split at h
            · exact ⟨archive, files, ready, after, title, hplan, hconnect, hready, hputs, htitle,
                (Except.ok.inj h).symm⟩
            · cases h

/-- **An import is carried out** if what was planned can be stored: every file is put once, in order, and
what is left is to read the title and to record the result. -/
theorem run_of_plan {files : List PlannedFile}
    (hplan : importer.plan request.upload = .ok (archive, files))
    (hconnect : importer.connect env = .ok ()) (hstore : store.Accepts (importer.bucketIn env))
    (rows : ρ) :
    ∃ after : ObjectStore,
      after.objects = store.objects ++ files.map (request.object (importer.bucketIn env)) ∧
      after.puts = store.puts + files.length ∧
      importer.run env request store rows =
        importer.conclude request (importer.bucketIn env) archive files after rows := by
  obtain ⟨ready, hready⟩ := hstore.ensured
  obtain ⟨hobjects, hputs, hfaults⟩ := ObjectStore.ensureBucket_eq_ok hready
  have hput := ObjectStore.putAll_eq_ok (hfaults ▸ hstore.put_ok)
    (files.map (request.object (importer.bucketIn env)))
  have hrun : importer.run env request store rows =
      importer.conclude request (importer.bucketIn env) archive files
        (ready.putAll (files.map (request.object (importer.bucketIn env)))).1 rows := by
    simp only [run, hplan, hconnect, upload, hready, hput]
  refine ⟨_, ?_, ?_, hrun⟩
  · rw [hput, hobjects]
  · rw [hput, hputs, List.length_map]

/-- An import of plain names is carried out if no required file is missing and the store accepts it. -/
theorem run_eq_conclude (hupload : request.upload = .archive archive)
    (hplain : ∀ entry ∈ archive, IsPlain entry.name)
    (hmissing : archive.missing importer.required = []) (hconnect : importer.connect env = .ok ())
    (hstore : store.Accepts (importer.bucketIn env)) (rows : ρ) :
    ∃ after : ObjectStore,
      after.objects = store.objects ++
        archive.asPlanned.map (request.object (importer.bucketIn env)) ∧
      after.puts = store.puts + archive.length ∧
      importer.run env request store rows =
        importer.conclude request (importer.bucketIn env) archive archive.asPlanned after rows := by
  have hplan : importer.plan request.upload = .ok (archive, archive.asPlanned) := by
    rw [hupload]
    exact plan_eq_ok hplain hmissing
  have hlength : archive.asPlanned.length = archive.length := by
    rw [Archive.asPlanned, List.length_map]
  rw [← hlength]
  exact run_of_plan hplan hconnect hstore rows

end Importer

end PromptPress
