import PromptPress.Prompt.Basic
import PromptPress.Text.Digit
import PromptPress.Text.Pieces

/-!
# Lines that name a package

A line names a package and the versions it may have, in one of three notations: `name: version`,
`name version` and `name@version`.  A list mark before the name, a `v` before the version and one
comma or semicolon after either are dropped.
-/

namespace PromptPress

open Text

namespace PackageLine

/-- Characters that may stand before the name of a package in a list. -/
def isListMark (c : Char) : Bool :=
  isBlank c || c == '-' || c == '*' || c == '+' || c == '.' || isDigit c

/-- One blank for each run of two or more blanks. -/
def squeeze : List Char → List Char
  | c :: d :: rest =>
    if isBlank c && isBlank d then
      ' ' :: squeezeRun rest
    else c :: squeeze (d :: rest)
  | s => s
where
  /-- Drops the blanks that are left of a run. -/
  squeezeRun : List Char → List Char
    | c :: rest => if isBlank c then squeezeRun rest else
        match rest with
        | [] => [c]
        | d :: more => c :: squeeze (d :: more)
    | [] => []

/-- Drops a comma or semicolon at the end. -/
def dropMark (s : List Char) : List Char :=
  match s.reverse with
  | c :: rest => if c == ',' || c == ';' then rest.reverse else s
  | [] => []

/-- Drops a `v` at the start. -/
def dropV : List Char → List Char
  | 'v' :: rest => rest
  | s => s

/-- A version without the marks around it. -/
def cleanVersion (s : List Char) : List Char :=
  dropMark (dropV s)

/-- The name and the version that a line without list marks gives. -/
def nameAndVersion (s : List Char) : List Char × Option (List Char) :=
  match splitAtChar? (· == ':') s with
  | some (name, version) => (trim name, some (trim version))
  | none =>
    match words isBlank s with
    | name :: next :: rest => (name, some (join [' '] (next :: rest)))
    | _ =>
      match splitAtLast? (· == '@') s with
      | some (c :: name, version) => (trim (c :: name), some (trim version))
      | _ => (s, none)

/-- The text of a line that names the package: without list marks, and with single blanks. -/
def subject (line : List Char) : List Char :=
  trim (squeeze ((trim line).dropWhile isListMark))

end PackageLine

/-- The package that a line names, if it names one. -/
def NpmPackage.ofLine? (line : List Char) : Option NpmPackage :=
  let (name, version) := PackageLine.nameAndVersion (PackageLine.subject line)
  match PackageLine.dropMark name with
  | [] => none
  | name =>
    let version := version.map fun v => String.ofList (PackageLine.cleanVersion v)
    some { name := String.ofList name, version := given version }

end PromptPress
