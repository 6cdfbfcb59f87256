import PromptPress.Command.Basic
import PromptPress.Metrics.Report
import PromptPress.Patch.Form
import PromptPress.Pipeline
import PromptPress.Prompt.Reading

/-!
# Carrying out commands

A command reads files, prints a text and perhaps writes an archive.  Faults of the input end it
with exit code 1; the report notes them and goes on.  What no command expects is a `Crash`; a record that is
nested too deep to be printed, or that has a loose surrogate, leads to one.
-/

namespace PromptPress

open Text

/-- What a command leaves: its exit code, what it prints, and the archive that it writes. -/
structure CommandResult where
  exitCode : Nat
  /-- What is printed, if anything is. -/
  output : Option String := none
  /-- The record that is printed, of a command that packages. -/
  summary : Option Json := none
  written : Option (String × Archive) := none
  /-- What is at fault if the command was not carried out. -/
  complaint : Option String := none

/-- The files that a command finds: how they are read, and where one may be written. -/
structure Disk where
  read : FileReader
  accepts : String → Bool := fun _ => true

/-- The files of a tree. -/
def FileTree.disk (tree : FileTree) : Disk :=
  ⟨tree.read, tree.acceptsFile⟩

/-- Why a command ends before its time. -/
inductive Crash where
  | undecodable (fault : Utf8Fault)
  | prompt (cause : Prompt.ReadError)
  | package (cause : PackageError)
  | snapshot (cause : Metrics.SnapshotError)
  /-- The record that is to be printed is nested too deep. -/
  | tooDeep (overflow : Overflow)
  /-- The record that is to be printed has a loose surrogate. -/
  | unencodable
deriving Inhabited

/-- The message of a crash. -/
def Crash.message : Crash → String
  | undecodable fault => fault.message
  | prompt cause => cause.message
  | package cause => cause.message
  | snapshot cause => cause.message
  | tooDeep overflow => overflow.message
  | unencodable => "surrogates not allowed"

/-- The paths that packaging may read beside the prompt. -/
def PackagingOptions.inputs (options : PackagingOptions) : List String :=
  (given options.packageJson).getD PackagePatch.manifestName :: (given options.tailwindConfig).toList

namespace Command

/-- The result of a command whose input is at fault. -/
def rejected (complaint : String) : CommandResult :=
  { exitCode := 1, complaint := some complaint }

/-- The paths that a command may read. -/
def inputs : Command → List String
  | build path _ options => [path] ++ options.inputs
  | parse path => [path]
  | report paths options => paths ++ options.inputs

/-! ### Reading prompts -/

/-- What reading the file of a prompt can meet. -/
inductive Fault where
  | expected (reason : String)
  | crash (cause : Crash)
deriving Inhabited

/-- Whether commands expect an error of reading. -/
def isExpected : Prompt.ReadError → Bool
  | .unreadable _ | .slugFromNonText => false
  | _ => true

/-- The text of a file. -/
def readText (disk : Disk) (path : String) : Except Fault String :=
  match disk.read path with
  | .error fault => .error (.expected (fault.message (FileTree.shownPath path)))
  | .ok bytes => (decodeFile bytes).mapError fun fault => .crash (.undecodable fault)

/-- The prompt in a file, with the remarks on it. -/
def readPrompt [Interpreter] (disk : Disk) (path : String) :
    Except Fault (Prompt × List Prompt.Warning) := do
  match Prompt.read (← readText disk path) with
  | .ok result => return result
  | .error e => throw (if isExpected e then .expected e.message else .crash (.prompt e))

/-! ### Packaging -/

/-- Whether commands expect an error of packaging. -/
def expectsPackageError : PackageError → Bool
  | .build (.unsafePath .nul) => false
  | .build _ => true
  | .schema _ | .unwritable _ | .host _ => false

/-- The run that packages a prompt. -/
def packagingRun [Interpreter] (disk : Disk) (options : PackagingOptions) (prompt : Prompt)
    (requestId : Option String) (clock : RunClock) : PipelineRun Unit Empty Unit :=
  let request : RunRequest :=
    { prompt := some prompt
      userId := some options.user
      requestId := requestId
      host := ⟨disk.read, options.packageJson, options.tailwindConfig⟩ }
  request.run clock none ()

/-- A remark as it is printed. -/
def remarkText (warning : Prompt.Warning) : String :=
  s!"[{warning.kind.name}] {warning.message}"

/-- The record that is printed about a package. -/
def summaryOf (package : Package) (out : String) (warnings : List Prompt.Warning) : RawJson :=
  .obj [(.ofString "slug", .str package.slug), (.ofString "zip", .str (FileTree.shownPath out)),
        (.ofString "packagePatch", package.patch.toBriefJson),
        (.ofString "warnings", Json.ofStrings (warnings.map remarkText ++ package.warnings))]

/-- The text of a record that can be printed, a surrogate being loose in it or not. -/
def printed [Interpreter] (isLoose : Bool) (value : Json) : Except Crash String :=
  if !(RawJson.ofJson value).fits (Interpreter.levels .print) then .error (.tooDeep .call)
  else if isLoose then .error .unencodable
  else .ok value.pretty

/-- Packages a prompt and writes the archive. -/
def runBuild [Interpreter] (disk : Disk) (clock : RunClock) (path : String) (out : Option String)
    (options : PackagingOptions) : Except Crash CommandResult :=
  match readPrompt disk path with
  | .error (.crash cause) => .error cause
  | .error (.expected reason) => .ok (rejected reason)
  | .ok (prompt, warnings) =>
    match (packagingRun disk options prompt none clock).outcome with
    | .error (.package cause) =>
      if expectsPackageError cause then .ok (rejected cause.message) else .error (.package cause)
    | .error e => .ok (rejected (e.message nofun))
    | .ok (package, _) =>
      let out := (given out).getD s!"{package.slug}.zip"
      if disk.accepts out then
        let summary := summaryOf package out warnings
        (printed summary.isLoose summary.replaced).map fun output =>
          { exitCode := 0
            output := some output
            summary := some summary.replaced
            written := some (out, package.archive) }
      else .ok (rejected s!"cannot write {Text.quotedString (FileTree.shownPath out)}")

/-- Whether a surrogate is loose in the prompt in a file. -/
def holdsLoose [Interpreter] (disk : Disk) (path : String) : Bool :=
  (readText disk path).toOption.any Prompt.isLoose

/-- Prints a prompt as a record. -/
def runParse [Interpreter] (disk : Disk) (path : String) : Except Crash CommandResult :=
  match readPrompt disk path with
  | .error (.crash cause) => .error cause
  | .error (.expected reason) => .ok (rejected reason)
  | .ok (prompt, _) =>
    (printed (holdsLoose disk path) prompt.toBriefJson).map fun output =>
      { exitCode := 0, output := some output }

/-! ### The report -/

/-- The stage of reading a prompt. -/
def parseStage : String := "parse"

/-- How many milliseconds the report looks back: a week. -/
def reportWindow : Int := 7 * 24 * 60 * 60 * 1000

/-- The event of a prompt that could not be read. -/
def unreadEvent (clock : RunClock) (path reason : String) : Metrics.Event :=
  { timestamp := clock.now
    status := .failure
    stage := parseStage
    reason := some reason
    metadata := .obj [("path", .str path)] }

/-- The events of one prompt of a report. -/
def eventsOf [Interpreter] (disk : Disk) (clock : RunClock) (options : PackagingOptions) (path : String) :
    Except Crash (List Metrics.Event) :=
  match readPrompt disk path with
  | .error (.crash cause) => .error cause
  | .error (.expected reason) => .ok [unreadEvent clock path reason]
  | .ok (prompt, _) =>
    let run := packagingRun disk options prompt (some path) clock
    match run.outcome with
    | .error (.package cause) =>
      if expectsPackageError cause then .ok run.events else .error (.package cause)
    | _ => .ok run.events

/-- Reports on the packaging of prompts. -/
def runReport [Interpreter] (disk : Disk) (clock : RunClock) (paths : List String)
    (options : PackagingOptions) : Except Crash CommandResult := do
  let events ← paths.mapM (eventsOf disk clock options)
  let collector : Metrics.Collector := events.flatten.foldl .record {}
  let snapshot ← (collector.snapshot clock.now reportWindow).mapError .snapshot
  return { exitCode := if snapshot.failure = 0 then 0 else 1
           output := some (Metrics.report snapshot collector.statusBreakdown) }

/-- Carries out a command on the files of a disk. -/
def run [Interpreter] (disk : Disk) (clock : RunClock) : Command → Except Crash CommandResult
  | .build path out options => runBuild disk clock path out options
  | .parse path => runParse disk path
  | .report paths options => runReport disk clock paths options

end Command

end PromptPress
