import PromptPress.Digest.Md5
import PromptPress.FileTree
import PromptPress.Json.Parser
import PromptPress.Json.Printer
import PromptPress.Npm.Inclusion
import PromptPress.Prompt.Basic
import PromptPress.Text.Decoding

/-!
# Patches for a host project

What a project has to take over from a component: the packages that its manifest does not name, and
the styles that its theme does not hold yet.  A package that the manifest names under a range that
does not satisfy the component is a conflict.  How ranges are read is a parameter of the reconciliation.
-/

namespace PromptPress

open Text Digest

/-- A style sheet that a component brings along. -/
structure StyleEntry where
  path : String
  content : String
deriving DecidableEq, Inhabited

/-- Why the files of a host project stop the reconciliation. -/
inductive HostError where
  /-- A file holds no text. -/
  | undecodable (fault : Utf8Fault)
  /-- A whole number in the manifest is too long to be read, or the manifest is nested too deep. -/
  | unreadable (error : Json.ReadError)
deriving DecidableEq, Inhabited

/-- The message of an error. -/
def HostError.message : HostError → String
  | undecodable fault => fault.message
  | unreadable error => error.message

/-- A package that a component needs and that is named under another range. -/
structure Conflict where
  name : String
  /-- The range that is there. -/
  range : RawText
deriving DecidableEq, Inhabited

/-- What a project has to take over. -/
structure PackagePatch where
  additions : List NpmPackage := []
  conflicts : List Conflict := []
  styles : List StyleEntry := []
  warnings : List String := []

namespace PackagePatch

variable {ν : Type} [Ord ν]

/-- The sections of a manifest that name packages, in the order in which they count. -/
def manifestSections : List String := ["dependencies", "devDependencies"]

/-- The ranges that a manifest names; a package in a later section counts as named there. -/
def manifestRanges (manifest : RawJson) : Record RawText RawText :=
  match manifest with
  | .obj fields =>
    manifestSections.foldl (fun ranges name =>
      match RawJson.field fields name with
      | .obj packages => ranges.merge (packages.map fun (name, range) => (name, range.plainText))
      | _ => ranges) []
  | _ => []

/-- The ranges named by the text of a manifest; a text that is not well formed names none. -/
def rangesOfText [Interpreter] (text : String) : Except HostError (Record RawText RawText) :=
  match Json.parse (Interpreter.levels .readManifest) text with
  | .ok manifest => .ok (manifestRanges manifest)
  | .error (.malformed ..) => .ok []
  | .error e => .error (.unreadable e)

/-- The text of a file of the host project, if there is such a file. -/
def hostText (file : Except ReadFault (List UInt8)) : Except HostError (Option String) :=
  match file with
  | .error _ => .ok none
  | .ok bytes => ((decodeFile bytes).map some).mapError .undecodable

/-- What becomes of one package that a component needs. -/
inductive Outcome where
  | add (package : NpmPackage)
  | conflict (conflict : Conflict)
  | remark (text : String)

/-- The text of a range, if it satisfies one that is asked for. A range with a loose surrogate in it is no
valid one, and is not the text of another. -/
def satisfying? (reader : Npm.RangeReader ν) (range : RawText) (wanted : String) : Option String :=
  range.toString?.filter (Npm.rangeSatisfied reader · wanted)

/-- Decides on a package, given the ranges that the manifest names. -/
def decide (reader : Npm.RangeReader ν) (existing : Record RawText RawText) (package : NpmPackage) :
    Outcome :=
  match existing.get? package.name with
  | none => .add package
  | some range =>
    match given package.version with
    | none => .remark s!"Dependency {package.name} version comparison skipped"
    | some wanted =>
      if range = .ofString "" then .remark s!"Dependency {package.name} version comparison skipped"
      else
        match satisfying? reader range wanted with
        | some current => .remark s!"Dependency {package.name}@{wanted} already satisfied by {current}"
        | none => .conflict ⟨package.name, range⟩

/-- Decides on all packages that have a name, in order. -/
def outcomes (reader : Npm.RangeReader ν) (existing : Record RawText RawText) (packages : List NpmPackage) :
    List Outcome :=
  (packages.filter (·.name != "")).map (decide reader existing)

/-- What identifies a style: its path and the hash of its content. -/
def styleKey (style : StyleEntry) : String × String :=
  (style.path, contentHash (utf8 style.content))

/-- Whether a theme holds the content of a style already. -/
def themeHolds (theme : Option String) (style : StyleEntry) : Bool :=
  match theme with
  | some theme => occursIn (trim style.content.toList) theme.toList
  | none => false

/-- The styles that are neither blank, nor the same as an earlier one, nor held by the theme. -/
def newStyles (theme : Option String) (seen : List (String × String)) :
    List StyleEntry → List StyleEntry
  | [] => []
  | style :: rest =>
    if (trim style.content.toList).isEmpty || seen.contains (styleKey style) then
      newStyles theme seen rest
    else if themeHolds theme style then newStyles theme (styleKey style :: seen) rest
    else style :: newStyles theme (styleKey style :: seen) rest

/-- The patch for a project that names some ranges and has a theme. -/
def ofHost (reader : Npm.RangeReader ν) (existing : Record RawText RawText) (theme : Option String)
    (packages : List NpmPackage) (styles : List StyleEntry) : PackagePatch :=
  let decided := outcomes reader existing packages
  { additions := decided.filterMap fun | .add p => some p | _ => none
    conflicts := decided.filterMap fun | .conflict c => some c | _ => none
    styles := newStyles theme [] styles
    warnings := decided.filterMap fun | .remark text => some text | _ => none }

/-- The name of the manifest of a project. -/
def manifestName : String := "package.json"

/-- The patch for a project whose files can be read, given the paths of its manifest and of its theme. -/
def create [Interpreter] (reader : Npm.RangeReader ν) (read : FileReader)
    (manifestPath themePath : Option String) (packages : List NpmPackage) (styles : List StyleEntry) :
    Except HostError PackagePatch := do
  let manifest ← hostText (read ((given manifestPath).getD manifestName))
  let existing ← (manifest.map rangesOfText).getD (.ok [])
  let theme ← ((given themePath).map fun path => hostText (read path)).getD (.ok none)
  return ofHost reader existing theme packages styles

end PackagePatch

end PromptPress
