import PromptPress.Text.Pieces
import PromptPress.Text.Quoted

/-!
# Relative paths

A path that is used below a root directory.  Backslashes count as slashes; empty and `.` segments are
dropped, and a `..` takes the last kept segment away.  A path that would leave the root is refused.
-/

namespace PromptPress.Path

open PromptPress.Text

/-- Why a path is refused; the text is the path as it was given. -/
inductive Unsafe where
  | empty (path : String)
  | escapes (path : String)
  /-- The path holds a character that no file name can hold. -/
  | nul
deriving DecidableEq, Inhabited

/-- The message of a refusal. -/
def Unsafe.message : Unsafe → String
  | empty path => s!"Empty path is not allowed: {quotedString path}"
  | escapes path => s!"Path escapes output root: {quotedString path}"
  | nul => "embedded null byte"

/-- A slash for every backslash. -/
def toSlashes (s : List Char) : List Char :=
  s.map fun c => if c == '\\' then '/' else c

/-- The segments between slashes, empty ones included. -/
def segments (s : List Char) : List (List Char) :=
  cut (· == '/') s

/-- The segment that stands for the directory above. -/
def parent : List Char := ['.', '.']

/-- Walks along segments; `kept` holds the kept ones, last first.  A `..` that finds nothing to take
away is kept, except in a path that begins at the root. -/
def walk (rooted : Bool) (kept : List (List Char)) : List (List Char) → List (List Char)
  | [] => kept
  | segment :: rest =>
    if segment == [] || segment == ['.'] then walk rooted kept rest
    else if segment == parent then
      match kept with
      | [] => if rooted then walk rooted [] rest else walk rooted [parent] rest
      | last :: before =>
        if last == parent then walk rooted (parent :: kept) rest else walk rooted before rest
    else walk rooted (segment :: kept) rest

/-- The segments that are left of a path. -/
def normalSegments (s : List Char) : List (List Char) :=
  let slashed := toSlashes s
  (walk (slashed.head? == some '/') [] (segments slashed)).reverse

/-- The segments of a path below the root, or why it is refused. -/
def safeSegments (path : String) : Except Unsafe (List (List Char)) :=
  match normalSegments path.toList with
  | [] => .error (.empty path)
  | segment :: rest => if segment == parent then .error (.escapes path) else .ok (segment :: rest)

/-- A path below the root in normal form. -/
def ensureRelative (path : String) : Except Unsafe String :=
  (safeSegments path).map fun segments => String.ofList (join ['/'] segments)

/-- Whether a character may stand in the name of a file that is written. -/
def isFileChar (c : Char) : Bool :=
  c.isAlphanum || c == '-' || c == '_' || c == '.' || c == '/'

/-- The name of a file to write: hyphens for foreign characters, in normal form. -/
def sanitizeFilename (name : String) : Except Unsafe String :=
  let pieces := words (· == '/') (toSlashes name.toList)
  ensureRelative (String.ofList ((join ['/'] pieces).map fun c => if isFileChar c then c else '-'))

/-- Puts paths together with single slashes. -/
def joinPath (paths : List String) : String :=
  String.ofList (join ['/'] (paths.flatMap fun path => words (fun c => c == '/' || c == '\\') path.toList))

/-- The segments of a file below a root directory, or why the path is refused. -/
def resolveInside (path : String) : Except Unsafe (List String) := do
  let segments ← safeSegments path
  if segments.any (·.contains '\x00') then .error .nul
  else .ok (segments.map String.ofList)

end PromptPress.Path
