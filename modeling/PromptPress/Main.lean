import PromptPress.Archive.Zip
import PromptPress.Command.Run
import Std.Time.DateTime.Timestamp

/-!
# The program

The command line: it reads the files that a command may need, carries the command out, prints what it
says and writes the archive that it leaves.
-/

namespace PromptPress.Program

open PromptPress

/-- What is printed if the arguments fit no command or help is asked for. -/
def usage : String :=
  "usage: promptpress [--log-level LEVEL] build PROMPT [--out ZIP] [PACKAGING]\n" ++
  "       promptpress [--log-level LEVEL] parse PROMPT\n" ++
  "       promptpress [--log-level LEVEL] report PROMPT... [PACKAGING]\n" ++
  "packaging: [--package-json FILE] [--tailwind-config FILE] [--user USER]"

/-- The exit code of a program whose arguments do not fit. -/
def usageExitCode : UInt32 := 2

/-- The readings of the clock for a command.  Stages are not timed, so that a report shows no average
duration. -/
def readClock : IO RunClock := do
  let now ← Std.Time.Timestamp.now
  return ⟨now.toMillisecondsSinceUnixEpoch.val, 0⟩

/-- Why a file cannot be read. -/
def readFault : IO.Error → ReadFault
  | .inappropriateType _ 20 _ => .notFolder
  | .inappropriateType _ _ _ => .isFolder
  | .invalidArgument _ 36 _ => .nameTooLong
  | _ => .missing

/-- Reads a file. -/
def readFile (path : String) : IO (Except ReadFault (List UInt8)) := do
  try
    return .ok (← IO.FS.readBinFile path).toList
  catch e =>
    return .error (readFault e)

/-- Reads the files at some paths. -/
def readDisk (paths : List String) : IO Disk := do
  let contents ← paths.mapM readFile
  let files := paths.zip contents
  return { read := fun path => (files.lookup path).getD (.error .missing) }

/-- Writes an archive; the answer is whether that succeeded. -/
def writeArchive (path : String) (archive : Archive) : IO Bool := do
  try
    IO.FS.writeBinFile path archive.toBytes.toByteArray
    return true
  catch e =>
    IO.eprintln (toString e)
    return false

/-- Shows what a command leaves and writes its archive; the answer is the exit code. -/
def finish (result : CommandResult) : IO UInt32 := do
  if let some complaint := result.complaint then
    IO.eprintln complaint
  if let some (path, archive) := result.written then
    unless ← writeArchive path archive do
      return 1
  if let some output := result.output then
    IO.println output
  return result.exitCode.toUInt32

end PromptPress.Program

open PromptPress Program in
/-- Carries out the command that the arguments ask for. -/
def main (arguments : List String) : IO UInt32 := do
  match Command.ofArguments arguments with
  | .error .help =>
    IO.println usage
    return 0
  | .error .usage =>
    IO.eprintln usage
    return usageExitCode
  | .ok command =>
    let disk ← readDisk command.inputs
    match command.run disk (← readClock) with
    | .ok result => finish result
    | .error crash =>
      IO.eprintln crash.message
      return 1
