import PromptPress.Archive.Layout
import PromptPress.Archive.Required
import PromptPress.Archive.Title
import PromptPress.Event.Payload
import PromptPress.Interpreter
import PromptPress.Storage.Connection
import PromptPress.Text.Digit

/-!
# Importing archives

An archive is checked first; only then are its files put into a bucket, in the order of the archive, each
under the prefix of the import.  In the end the title of the archive is read, and the import is recorded.  `Importer.run` gives what the store
and the records are afterwards and what came of it, and `ImportRun.event` what is reported: one event for
each run.  `run_of_plan_error` says that an archive that does not pass the checks changes nothing.
-/

namespace PromptPress

open Text

/-- What an import has brought. -/
structure ImportResult where
  importId : String
  userId : String
  bucket : String
  /-- The common beginning of the names of the objects. -/
  keyPrefix : String
  objects : List String
  pages : List String
  components : List String
  title : Option RawText
  /-- Milliseconds that the import took. -/
  duration : Int
  requestId : Option String
deriving DecidableEq, Inhabited

/-- The record of a result. -/
def ImportResult.toJson (r : ImportResult) : RawJson :=
  .obj [(.ofString "importId", .str r.importId), (.ofString "userId", .str r.userId),
        (.ofString "bucket", .str r.bucket), (.ofString "prefix", .str r.keyPrefix),
        (.ofString "objects", Json.ofStrings r.objects), (.ofString "pages", Json.ofStrings r.pages),
        (.ofString "components", Json.ofStrings r.components),
        (.ofString "title", (r.title.map RawJson.str).getD .null),
        (.ofString "durationMs", .int r.duration), (.ofString "requestId", Json.ofString? r.requestId)]

/-- Why an import is not recorded. -/
inductive RecordError where
  /-- A row with the same slug is there already. -/
  | duplicateSlug
  /-- A text of a row cannot be encoded. -/
  | unencodable (fault : EncodeFault)
  | refused (reason : String)
deriving DecidableEq, Inhabited

/-- Why an import fails. -/
inductive ImportError where
  /-- What was handed in is no archive. -/
  | damaged
  | missing (files : List MissingFile)
  | unsafeName (cause : Path.Unsafe)
  | connection (cause : ConnectionError)
  | storage (cause : StorageError)
  /-- The title cannot be read. -/
  | title (reason : String)
  | record (cause : RecordError)
deriving DecidableEq, Inhabited

namespace ImportError

/-- What is said about an error on the bus. -/
def reason : ImportError → String
  | damaged => damagedMessage
  | missing _ => missingFilesMessage
  | unsafeName cause => cause.message
  | connection cause => cause.message
  | storage cause => cause.message
  | title reason => reason
  | record .duplicateSlug => "<sql error>"
  | record (.unencodable fault) => fault.message
  | record (.refused reason) => reason

/-- The message of an error to the caller; errors of the archive itself are said to be such. -/
def message (e : ImportError) : String :=
  match e with
  | damaged | unsafeName _ => s!"Invalid template archive: {e.reason}"
  | _ => e.reason

/-- The details of an error. -/
def details : ImportError → Json
  | missing files => .arr (files.map MissingFile.toJson)
  | _ => .null

end ImportError

/-- What is to be imported, for whom, and under which number. -/
structure ImportRequest where
  upload : Upload
  userId : String
  importId : String
  requestId : Option String := none
  /-- Milliseconds that pass until the import ends. -/
  elapsed : Int := 0

/-- How archives are imported, and how imports are recorded. -/
structure Importer (ρ : Type) where
  /-- The bucket; none if the environment names it. -/
  bucket : Option String := none
  required : List RequiredFile := defaultRequired
  /-- Whether the environment has to tell how to sign in to the store. -/
  signsIn : Bool := false
  /-- How titles are read. -/
  readTitle : TitleReader := .ofLevels (Interpreter.usual.levels .readTitle)
  record : ImportResult → ρ → Except RecordError ρ := fun _ rows => .ok rows

/-- What a run of an import leaves, and what came of it. -/
structure ImportRun (ρ : Type) where
  store : ObjectStore
  rows : ρ
  outcome : Except ImportError ImportResult

/-- A file of an archive, under the name that it is stored with. -/
structure PlannedFile where
  name : String
  content : List UInt8
deriving DecidableEq, Inhabited

/-- The name that a file is stored with. -/
def storedName (entry : ArchiveEntry) : Except ImportError PlannedFile :=
  match Path.ensureRelative (String.ofList (Path.toSlashes entry.name.toList)) with
  | .ok name => .ok ⟨name, entry.content⟩
  | .error e => .error (.unsafeName e)

namespace Importer

variable {ρ : Type}

/-- The checks before anything is stored: an archive, with all required files, and only names that stay
inside. -/
def plan (importer : Importer ρ) : Upload → Except ImportError (Archive × List PlannedFile)
  | .damaged => .error .damaged
  | .archive archive =>
    match archive.missing importer.required with
    | [] => (archive.files.mapM storedName).map (archive, ·)
    | missing => .error (.missing missing)

/-- The bucket that an importer puts objects into. -/
def bucketIn (importer : Importer ρ) (env : Environment) : String :=
  match importer.bucket with
  | some name => if name = "" then templateBucket env else name
  | none => templateBucket env

/-- Signs in to the store. -/
def connect (importer : Importer ρ) (env : Environment) : Except ImportError Unit :=
  if importer.signsIn then
    match StoreConnection.ofEnvironment env with
    | .ok _ => .ok ()
    | .error e => .error (.connection e)
  else .ok ()

end Importer

/-- The common beginning of the names of the objects of a request. -/
def ImportRequest.keyPrefix (request : ImportRequest) : String :=
  importPrefix request.userId request.importId

/-- The object that a file becomes. -/
def ImportRequest.object (request : ImportRequest) (bucket : String) (file : PlannedFile) :
    StoredObject :=
  ⟨bucket, s!"{request.keyPrefix}/{file.name}", file.content, mediaType file.name⟩

/-- The result of an import whose objects were all stored. -/
def ImportRequest.result (request : ImportRequest) (bucket : String) (title : Option RawText)
    (files : List PlannedFile) : ImportResult :=
  let names := files.map (·.name)
  { importId := request.importId
    userId := request.userId
    bucket := bucket
    keyPrefix := request.keyPrefix
    objects := files.map fun file => (request.object bucket file).name
    pages := pageNames names
    components := componentNames names
    title := title
    duration := request.elapsed
    requestId := request.requestId }

namespace Importer

variable {ρ : Type}

/-- Records a result. -/
def finish (importer : Importer ρ) (result : ImportResult) (store : ObjectStore) (rows : ρ) :
    ImportRun ρ :=
  match importer.record result rows with
  | .ok rows => ⟨store, rows, .ok result⟩
  | .error e => ⟨store, rows, .error (.record e)⟩

/-- Reads the title of an archive whose files are all stored, and records the result. -/
def conclude (importer : Importer ρ) (request : ImportRequest) (bucket : String) (archive : Archive)
    (files : List PlannedFile) (store : ObjectStore) (rows : ρ) : ImportRun ρ :=
  match archive.title importer.readTitle with
  | .error reason => ⟨store, rows, .error (.title reason)⟩
  | .ok title => importer.finish (request.result bucket title files) store rows

/-- Puts the files of an archive that passed the checks into the store, and concludes the import. -/
def upload (importer : Importer ρ) (env : Environment) (request : ImportRequest) (archive : Archive)
    (files : List PlannedFile) (store : ObjectStore) (rows : ρ) : ImportRun ρ :=
  let bucket := importer.bucketIn env
  match store.ensureBucket bucket with
  | .error e => ⟨store, rows, .error (.storage e)⟩
  | .ok store =>
    match store.putAll (files.map (request.object bucket)) with
    | (store, .error e) => ⟨store, rows, .error (.storage e)⟩
    | (store, .ok ()) => importer.conclude request bucket archive files store rows

/-- Imports an archive. -/
def run (importer : Importer ρ) (env : Environment) (request : ImportRequest) (store : ObjectStore)
    (rows : ρ) : ImportRun ρ :=
  match importer.plan request.upload with
  | .error e => ⟨store, rows, .error e⟩
  | .ok (archive, files) =>
    match importer.connect env with
    | .error e => ⟨store, rows, .error e⟩
    | .ok () => importer.upload env request archive files store rows

theorem run_of_plan_error {importer : Importer ρ} {env : Environment} {request : ImportRequest}
    {store : ObjectStore} {rows : ρ} {e : ImportError} (h : importer.plan request.upload = .error e) :
    importer.run env request store rows = ⟨store, rows, .error e⟩ := by
  simp [run, h]

end Importer

/-! ### What is reported -/

/-- The report of a result. -/
def ImportResult.report (r : ImportResult) : Event.Imported :=
  { importId := r.importId
    userId := r.userId
    pages := r.pages
    components := r.components
    duration := r.duration
    assetsBase := some r.keyPrefix
    requestId := r.requestId }

/-- The report of an error. -/
def ImportError.report (e : ImportError) (request : ImportRequest) : Event.ImportFailed :=
  { importId := request.importId
    userId := request.userId
    error := .str e.reason
    duration := request.elapsed
    details := e.details
    requestId := request.requestId }

/-- The event that a run is reported with. -/
def ImportRun.event {ρ : Type} (run : ImportRun ρ) (request : ImportRequest) : Event.Payload :=
  match run.outcome with
  | .ok result => .imported result.report
  | .error e => .importFailed (e.report request)

/-- The number of an import as it is written: 32 digits in base sixteen. -/
def importIdOf (n : Nat) : String :=
  String.ofList (showHex 32 n)

end PromptPress
