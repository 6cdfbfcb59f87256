import PromptPress.Archive.Basic
import PromptPress.Build
import PromptPress.Metrics.Basic
import PromptPress.Patch
import PromptPress.Preview
import PromptPress.Schema

/-!
# Pipeline runs

A run packages a prompt: it builds the component, adds the schema with its defaults and the preview, and
reconciles the package with a host project.  The package may then be handed to an importer.  Each stage
that was begun leaves one event.
-/

namespace PromptPress

open Text Digest

/-! ### Packages -/

/-- The name of the file that holds the schema. -/
def schemaFilename : String := "schema.json"

/-- The name of the file that holds the defaults. -/
def defaultsFilename : String := "defaults.json"

/-- The path of a style that comes without a name. -/
def defaultStylePath : String := "styles/generated.css"

/-- A packaged component. -/
structure Package where
  slug : String
  /-- The files of the package. -/
  tree : FileTree
  patch : PackagePatch
  warnings : List String

/-- The files that every package holds beside those of the component. -/
def Package.metaPaths : List String :=
  [schemaFilename, defaultsFilename, previewFilename]

/-- The names and contents of the entries of a package, in order. -/
def Package.entries (p : Package) : List (String × List UInt8) :=
  p.tree.entries

/-- A package as an archive. -/
def Package.archive (p : Package) : Archive :=
  p.entries.map fun (name, content) => ⟨name, content⟩

/-- The project that a package is for, and where its manifest and its theme are. -/
structure HostProject where
  read : FileReader := fun _ => .error .missing
  manifestPath : Option String := none
  themePath : Option String := none

/-- Why there is no package. -/
inductive PackageError where
  | build (cause : BuildError)
  /-- The default of a field is nested too deep to be read. -/
  | schema (overflow : Overflow)
  /-- The schema or the defaults cannot be written. -/
  | unwritable (fault : WriteFault)
  | host (cause : HostError)
deriving DecidableEq, Inhabited

/-- The message of an error. -/
def PackageError.message : PackageError → String
  | build cause => cause.message
  | schema overflow => overflow.message
  | unwritable fault => fault.message
  | host cause => cause.message

/-- The content of a file that holds a value. -/
def recordFile [Interpreter] (value : RawJson) : Except PackageError (List UInt8) :=
  match value.written (Interpreter.levels .writeFile) [] 0 with
  | .ok value => .ok (utf8 value.pretty)
  | .error fault => .error (.unwritable fault)

/-- The style sheets of a build as entries of a host project. -/
def styleEntriesOf (styles : List SourceFile) : List StyleEntry :=
  styles.map fun style =>
    ⟨if style.filename = "" then defaultStylePath else style.filename, style.content⟩

/-- Writes a file at the root of a tree. -/
def writeAtRoot (tree : FileTree) (name : String) (content : List UInt8) : Except PackageError FileTree :=
  (tree.write [name] content).mapError fun e => .build (.write e)

/-- Packages a prompt for a host project. -/
def Prompt.package [Interpreter] (prompt : Prompt) (host : HostProject) : Except PackageError Package := do
  let build ← prompt.build.mapError .build
  let schema ← (Schema.ofPrompt prompt).mapError .schema
  let tree ← writeAtRoot build.tree schemaFilename (← recordFile schema.toJson)
  let tree ← writeAtRoot tree defaultsFilename (← recordFile schema.defaults)
  let preview := Preview.page build.slug build.componentFile build.demoFile
  let tree ← writeAtRoot tree previewFilename (utf8 preview)
  let patch ← (PackagePatch.create Npm.Range.parse host.read host.manifestPath host.themePath build.npmPackages
    (styleEntriesOf build.styleEntries)).mapError .host
  return { slug := build.slug
           tree := tree
           patch := patch
           warnings := build.warnings ++ schema.warnings ++ Preview.warnings build.demoFile ++
             patch.warnings }

/-! ### Runs -/

/-- The stage of packaging. -/
def packageStage : String := "package"

/-- The stage of importing. -/
def importStage : String := "import"

/-- What a run is asked to do; a run without a prompt fails like one without code. -/
structure RunRequest where
  prompt : Option Prompt
  userId : Option String
  requestId : Option String := none
  autoImport : Bool := false
  host : HostProject := {}

/-- The readings of the clock that a run takes. -/
structure RunClock where
  /-- Milliseconds since 1970. -/
  now : Int
  /-- Milliseconds that each stage takes. -/
  elapsed : Int

/-- Why a run fails. -/
inductive RunError (ε : Type) where
  | userRequired
  | importerRequired
  | package (cause : PackageError)
  | importer (cause : ε)
deriving Inhabited

/-- The message of an error, given the message of an importer's error. -/
def RunError.message {ε : Type} (importerMessage : ε → String) : RunError ε → String
  | userRequired => "user_id required"
  | importerRequired => "Importer function is required for auto_import"
  | package cause => cause.message
  | importer cause => importerMessage cause

/-- What an importer does with a package for a user, and how its errors are named in events. -/
structure PackageImporter (σ ε β : Type) where
  run : Package → (userId : String) → (requestId : Option String) → σ → σ × Except ε β
  reason : ε → String

/-- What a run leaves, its events, and what came of it. -/
structure PipelineRun (σ ε β : Type) where
  state : σ
  events : List Metrics.Event
  outcome : Except (RunError ε) (Package × Option β)

namespace RunRequest

variable {σ ε β : Type}

/-- The event of a stage that succeeded. -/
def success (request : RunRequest) (clock : RunClock) (stage slug : String) : Metrics.Event :=
  { timestamp := clock.now
    status := .success
    stage := stage
    requestId := request.requestId
    templateSlug := some slug
    duration := .int clock.elapsed }

/-- The event of a stage that failed. -/
def failure (request : RunRequest) (clock : RunClock) (stage reason : String)
    (metadata : Json := .null) : Metrics.Event :=
  { timestamp := clock.now
    status := .failure
    stage := stage
    requestId := request.requestId
    reason := some reason
    metadata := metadata }

/-- The package of a request. -/
def package [Interpreter] (request : RunRequest) : Except PackageError Package :=
  match request.prompt with
  | none => .error (.build .noCode)
  | some prompt => prompt.package request.host

/-- The import stage: hands a package to an importer. -/
def importPackage (request : RunRequest) (clock : RunClock) (importer : PackageImporter σ ε β)
    (userId : String) (package : Package) (state : σ) : PipelineRun σ ε β :=
  let packaged := request.success clock packageStage package.slug
  match importer.run package userId request.requestId state with
  | (state, .ok result) =>
    ⟨state, [packaged, request.success clock importStage package.slug], .ok (package, some result)⟩
  | (state, .error e) =>
    ⟨state,
      [packaged, request.failure clock importStage (importer.reason e)
        (.obj [("slug", .str package.slug)])],
      .error (.importer e)⟩

/-- Runs the pipeline. -/
def run [Interpreter] (request : RunRequest) (clock : RunClock) (importer : Option (PackageImporter σ ε β))
    (state : σ) : PipelineRun σ ε β :=
  match given request.userId with
  | none => ⟨state, [], .error .userRequired⟩
  | some userId =>
    if request.autoImport && importer.isNone then ⟨state, [], .error .importerRequired⟩
    else
      match request.package with
      | .error e =>
        ⟨state, [request.failure clock packageStage e.message], .error (.package e)⟩
      | .ok package =>
        match importer with
        | some importer =>
          if request.autoImport then request.importPackage clock importer userId package state
          else ⟨state, [request.success clock packageStage package.slug], .ok (package, none)⟩
        | none => ⟨state, [request.success clock packageStage package.slug], .ok (package, none)⟩

end RunRequest

end PromptPress
