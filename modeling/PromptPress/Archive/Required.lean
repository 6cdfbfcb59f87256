import PromptPress.Archive.Basic
import PromptPress.Json.Value

/-!
# Required files

An archive can be imported only if it holds certain files, at its root or in one folder that wraps
everything.  All that are missing are reported together.
-/

namespace PromptPress

open Text

/-- A file that an archive has to hold. -/
structure RequiredFile where
  name : String
  description : String
deriving DecidableEq, Inhabited

/-- The files that a template archive has to hold. -/
def defaultRequired : List RequiredFile :=
  [⟨"schema.json", "Template schema.json is missing"⟩,
   ⟨"preview.html", "Template preview preview.html is missing"⟩]

/-- What is reported about a missing file. -/
structure MissingFile where
  file : String
  description : String
deriving DecidableEq, Inhabited

/-- The code of the report. -/
def MissingFile.code : String := "missing-file"

/-- The message of the report. -/
def MissingFile.message (m : MissingFile) : String :=
  s!"Required file \"{m.file}\" not found in archive"

/-- The record of the report. -/
def MissingFile.toJson (m : MissingFile) : Json :=
  .obj [("code", .str MissingFile.code), ("file", .str m.file), ("message", .str m.message),
        ("description", .str m.description)]

/-- The message on an archive in which files are missing. -/
def missingFilesMessage : String := "Template ZIP validation failed"

/-- The normal forms of the names that are not names of folders. -/
def normalNames (names : List String) : List String :=
  (names.filter fun name => name.toList.getLast? != some '/').map normalEntryName

/-- Whether a name is that of a required file in a folder that wraps everything. -/
def isWrapped (required name : List Char) : Bool :=
  ('/' :: required).isSuffixOf name && name.count '/' == 1

/-- Whether names hold a required file. -/
def holdsFile (normal : List String) (required : String) : Bool :=
  let wanted := normalEntryName required
  normal.contains wanted || normal.any fun name => isWrapped wanted.toList name.toList

/-- The required files that names do not hold. -/
def missingFiles (names : List String) (required : List RequiredFile) : List MissingFile :=
  let normal := normalNames names
  (required.filter fun file => !holdsFile normal file.name).map fun file => ⟨file.name, file.description⟩

/-- The required files that an archive does not hold. -/
def Archive.missing (archive : Archive) (required : List RequiredFile) : List MissingFile :=
  missingFiles (archive.map (·.name)) required

end PromptPress
