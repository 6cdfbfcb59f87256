import PromptPress.Proofs.Archive.Import
import PromptPress.Proofs.Path.KeySegment

/-!
# Keys of imported objects

Users and entries of archives are named by whoever sends them. The keys of the objects that an import
puts into a bucket all have one form: three segments that name the user and the import, then a path of
segments that are names (`IsConfinedKey`). The third segment tells imports apart, so no key is used by
two of them (`Importer.uploaded_isConfined`).
-/

namespace PromptPress

open PromptPress.Path Text

/-! ### Confined keys -/

/-- The number of an import: 32 digits in base sixteen. -/
def IsImportId (id : String) : Prop :=
  id.toList.length = 32 ∧ ∀ c ∈ id.toList, (hexValue? c).isSome = true

/-- A key in the place of an import: it names a user, the import, and a path of names below. -/
def IsConfinedKey (importId key : String) : Prop :=
  ∃ user rest : String, IsKeyName user ∧ (∀ segment ∈ segments rest.toList, IsProper segment) ∧
    key = s!"templates/{user}/{importId}/{rest}"

variable {id user key : String}

instance (id : String) : Decidable (IsImportId id) :=
  decidable_of_iff (id.toList.length = 32 ∧ id.toList.all (fun c => (hexValue? c).isSome) = true)
    (and_congr_right fun _ => List.all_eq_true)

/-- A digit in base sixteen is a letter or a digit. -/
theorem isAlphanum_of_hexValue? {c : Char} (h : (hexValue? c).isSome = true) :
    c.isAlphanum = true := by
  have htoNat {d : Char} (hcd : c ≤ d) : c.toNat ≤ d.toNat := UInt32.le_iff_toNat_le.mp hcd
  have hle : c.toNat ≤ 'f'.toNat := by
    simp only [hexValue?, Bool.and_eq_true, decide_eq_true_eq] at h
    split at h
    · next hc => exact Nat.le_trans (htoNat hc.2) (by decide)
    · split at h
      · next hc => exact htoNat hc.2
      · split at h
        · next hc => exact Nat.le_trans (htoNat hc.2) (by decide)
        · cases h
  have hascii : ∀ c : Char, c.toNat < 128 → (hexValue? c).isSome = true → c.isAlphanum = true :=
    forall_ascii (by decide +kernel)
  exact hascii c (Nat.lt_of_le_of_lt hle (by decide)) h

theorem IsImportId.isAlphanum (h : IsImportId id) : ∀ c ∈ id.toList, c.isAlphanum = true :=
  fun c hc => isAlphanum_of_hexValue? (h.2 c hc)

theorem IsImportId.slash_notMem (h : IsImportId id) : '/' ∉ id.toList :=
  fun hc => absurd (h.isAlphanum _ hc) (by decide)

/-- The keys of an import begin with the names of its user and of itself. -/
theorem exists_importPrefix (user : String) (h : IsImportId id) :
    ∃ name, IsKeyName name ∧ importPrefix user id = s!"templates/{name}/{id}" := by
  have hne : id.toList ≠ [] := by
    intro hnil
    have hlength := h.1
    rw [hnil] at hlength
    cases hlength
  refine ⟨keySegment user "user", isKeyName_keySegment user (by decide), ?_⟩
  rw [importPrefix, keySegment_of_isAlphanum hne h.isAlphanum]

/-- **The third segment** of a confined key is the number of the import. -/
theorem IsConfinedKey.getElem?_segments (hid : IsImportId id) (h : IsConfinedKey id key) :
    (segments key.toList)[2]? = some id.toList := by
  obtain ⟨user, rest, huser, -, rfl⟩ := h
  have hkey : (s!"templates/{user}/{id}/{rest}").toList =
      "templates".toList ++ '/' :: (user.toList ++ '/' :: (id.toList ++ '/' :: rest.toList)) := by
    simp [toString]
  rw [hkey, segments_append_slash, segments_append_slash, segments_append_slash,
    segments_of_slash_notMem (by decide), segments_of_slash_notMem huser.slash_notMem,
    segments_of_slash_notMem hid.slash_notMem]
  rfl

/-- Different imports have no key in common. -/
theorem IsConfinedKey.ne {id' key' : String} (hid : IsImportId id) (hid' : IsImportId id')
    (hne : id' ≠ id) (h : IsConfinedKey id key) (h' : IsConfinedKey id' key') : key' ≠ key := by
  rintro rfl
  have hthird := h.getElem?_segments hid
  rw [h'.getElem?_segments hid'] at hthird
  exact hne (String.toList_inj.mp (Option.some.inj hthird))

/-! ### What a run uploads -/

namespace ObjectStore

variable {store : ObjectStore}

/-- Objects that are put one after another are there afterwards, up to the one that failed. -/
theorem exists_objects_putAll (objects : List StoredObject) :
    ∃ n, (store.putAll objects).1.objects = store.objects ++ objects.take n := by
  induction objects generalizing store with
  | nil => exact ⟨0, by simp [putAll]⟩
  | cons object objects ih =>
    rw [putAll, put]
    split
    · next hput =>
      split at hput
      · cases hput
      · obtain ⟨rfl, -⟩ := Prod.mk.inj hput
        obtain ⟨n, hn⟩ := @ih { store.countPut with objects := store.objects ++ [object] }
        refine ⟨n + 1, ?_⟩
        rw [hn, List.take_succ_cons, List.append_assoc, List.singleton_append]
    · next hput =>
      split at hput
      · obtain ⟨rfl, -⟩ := Prod.mk.inj hput
        exact ⟨0, by simp [countPut]⟩
      · cases hput

end ObjectStore

/-- The objects that a run has added to a store. -/
def ImportRun.uploaded {ρ : Type} (run : ImportRun ρ) (before : ObjectStore) : List StoredObject :=
  run.store.objects.drop before.objects.length

namespace Importer

variable {ρ : Type} {importer : Importer ρ} {env : Environment} {request : ImportRequest}
  {store : ObjectStore} {rows : ρ}

theorem store_finish {result : ImportResult} :
    (importer.finish result store rows).store = store := by
  rw [finish]
  split <;> rfl

theorem store_conclude {bucket : String} {archive : Archive} {files : List PlannedFile} :
    (importer.conclude request bucket archive files store rows).store = store := by
  rw [conclude]
  split
  · rfl
  · exact store_finish

/-- Once the bucket is there, the store is changed by the puts alone. -/
theorem store_upload {archive : Archive} {files : List PlannedFile} {ready : ObjectStore}
    (h : store.ensureBucket (importer.bucketIn env) = .ok ready) :
    (importer.upload env request archive files store rows).store =
      (ready.putAll (files.map (request.object (importer.bucketIn env)))).1 := by
  simp only [upload, h]
  split
  · next hput => rw [hput]
  · next hput => rw [hput, store_conclude]

/-- A run adds objects of planned files to the store, and leaves those that were there. -/
theorem exists_objects_run (importer : Importer ρ) (env : Environment) (request : ImportRequest)
    (store : ObjectStore) (rows : ρ) :
    ∃ new, (importer.run env request store rows).store.objects = store.objects ++ new ∧
      ∀ object ∈ new, ∃ archive files, importer.plan request.upload = .ok (archive, files) ∧
        ∃ file ∈ files, object = request.object (importer.bucketIn env) file := by
  cases hplan : importer.plan request.upload with
  | error e => exact ⟨[], by simp [run_of_plan_error hplan]⟩
  | ok planned =>
    obtain ⟨archive, files⟩ := planned
    cases hconnect : importer.connect env with
    | error e => exact ⟨[], by simp [run, hplan, hconnect]⟩
    | ok _ =>
      have hrun : importer.run env request store rows =
          importer.upload env request archive files store rows := by
        simp only [run, hplan, hconnect]
      cases hready : store.ensureBucket (importer.bucketIn env) with
      | error e => exact ⟨[], by simp [hrun, upload, hready]⟩
      | ok ready =>
        obtain ⟨n, hn⟩ := ready.exists_objects_putAll
          (files.map (request.object (importer.bucketIn env)))
        obtain ⟨hobjects, -, -⟩ := ObjectStore.ensureBucket_eq_ok hready
        refine ⟨(files.map (request.object (importer.bucketIn env))).take n, ?_, ?_⟩
        · rw [hrun, store_upload hready, hn, hobjects]
        · intro object hobject
          obtain ⟨file, hfile, rfl⟩ := List.mem_map.mp (List.mem_of_mem_take hobject)
          exact ⟨archive, files, rfl, file, hfile, rfl⟩

theorem objects_run :
    let run := importer.run env request store rows
    run.store.objects = store.objects ++ run.uploaded store := by
  intro run
  obtain ⟨new, hnew, -⟩ := exists_objects_run importer env request store rows
  rw [ImportRun.uploaded, hnew, List.drop_left]

/-- A planned file has a name in normal form. -/
theorem isProper_of_plan {upload : Upload} {archive : Archive} {files : List PlannedFile}
    (h : importer.plan upload = .ok (archive, files)) :
    ∀ file ∈ files, ∀ segment ∈ segments file.name.toList, IsProper segment := by
  intro file hfile
  cases upload with
  | damaged => cases h
  | archive entries =>
    obtain ⟨-, -, hplanned⟩ := plan_eq_ok_iff.mp h
    obtain ⟨entry, -, hstored⟩ :=
      Outcome.exists_of_mem_right (Outcome.mapM_eq_ok_iff.mp hplanned) file hfile
    obtain ⟨name, hname, rfl⟩ := Archive.storedName_eq_ok_iff.mp hstored
    exact fun segment hsegment => (ensureRelative_spec hname segment hsegment).1

theorem isConfinedKey_uploaded (hid : IsImportId request.importId) :
    ∀ object ∈ (importer.run env request store rows).uploaded store,
      IsConfinedKey request.importId object.name := by
  intro object hobject
  obtain ⟨new, hnew, hfiles⟩ := exists_objects_run importer env request store rows
  rw [ImportRun.uploaded, hnew, List.drop_left] at hobject
  obtain ⟨archive, files, hplan, file, hfile, rfl⟩ := hfiles object hobject
  obtain ⟨user, huser, hprefix⟩ := exists_importPrefix request.userId hid
  refine ⟨user, file.name, huser, isProper_of_plan hplan file hfile, ?_⟩
  rw [ImportRequest.object, ImportRequest.keyPrefix, hprefix]
  rfl

/-- **Keys are confined, and imports never collide.** A run leaves the objects of the store where they
were and adds objects after them, each under a key in the place of its import; so two imports with
different numbers use no key twice, whoever they are for and whatever is in their archives. -/
theorem uploaded_isConfined (importer : Importer ρ) (env : Environment) (request : ImportRequest)
    (store : ObjectStore) (rows : ρ) (hid : IsImportId request.importId) :
    let run := importer.run env request store rows
    run.store.objects = store.objects ++ run.uploaded store ∧
      (∀ object ∈ run.uploaded store, IsConfinedKey request.importId object.name) ∧
      ∀ (ρ' : Type) (importer' : Importer ρ') (env' : Environment) (request' : ImportRequest)
        (store' : ObjectStore) (rows' : ρ'),
        IsImportId request'.importId → request'.importId ≠ request.importId →
        List.Disjoint ((run.uploaded store).map (·.name))
          (((importer'.run env' request' store' rows').uploaded store').map (·.name)) := by
  intro run
  refine ⟨objects_run, isConfinedKey_uploaded hid, ?_⟩
  intro ρ' importer' env' request' store' rows' hid' hne key hkey hkey'
  obtain ⟨object, hobject, rfl⟩ := List.mem_map.mp hkey
  obtain ⟨object', hobject', heq⟩ := List.mem_map.mp hkey'
  have hconfined := isConfinedKey_uploaded hid object hobject
  have hconfined' := isConfinedKey_uploaded hid' object' hobject'
  exact hconfined.ne hid hid' hne hconfined' heq

/-- Two users whose names come to the same segment import the same archive, in which a name climbs above
its root. -/
theorem uploaded_isConfined_climbing :
    let archive : Archive := [⟨"schema.json", []⟩, ⟨"preview.html", []⟩, ⟨"\\..\\x/./y", []⟩]
    let run := ({} : Importer Unit).run [] ⟨.archive archive, "../guest ", importIdOf 1, none, 0⟩ {} ()
    let run' := ({} : Importer Unit).run [] ⟨.archive archive, "guest", importIdOf 2, none, 0⟩ {} ()
    IsImportId (importIdOf 1) ∧ IsImportId (importIdOf 2) ∧ importIdOf 2 ≠ importIdOf 1 ∧
      (run.uploaded {}).map (·.name) =
        ["templates/guest/00000000000000000000000000000001/schema.json",
          "templates/guest/00000000000000000000000000000001/preview.html",
          "templates/guest/00000000000000000000000000000001/x/y"] ∧
      (∀ object ∈ run.uploaded {}, IsConfinedKey (importIdOf 1) object.name) ∧
      List.Disjoint ((run.uploaded {}).map (·.name)) ((run'.uploaded {}).map (·.name)) := by
  intro archive run run'
  have hid : IsImportId (importIdOf 1) := by decide +kernel
  have hid' : IsImportId (importIdOf 2) := by decide +kernel
  have hne : importIdOf 2 ≠ importIdOf 1 := by decide +kernel
  obtain ⟨-, hconfined, hdisjoint⟩ := uploaded_isConfined ({} : Importer Unit) []
    ⟨.archive archive, "../guest ", importIdOf 1, none, 0⟩ {} () hid
  exact ⟨hid, hid', hne, by decide +kernel, hconfined,
    hdisjoint Unit {} [] ⟨.archive archive, "guest", importIdOf 2, none, 0⟩ {} () hid' hne⟩

end Importer

end PromptPress
