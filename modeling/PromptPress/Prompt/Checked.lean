import PromptPress.Json.Value

/-!
# Checking records

A record is checked field by field, and all flaws of a record are reported, each with the path to the
place where it is.  A field may be known by a second name; the first one counts if both are there, and
the value under the other is then kept like any field that is not known.
-/

namespace PromptPress

/-- A step on the way to a value inside a record. -/
inductive PathStep where
  | key (name : String)
  | index (n : Nat)
deriving DecidableEq, Inhabited

/-- What is wrong with a value. -/
inductive Flaw.Kind where
  | missing
  | notText
  | notList
  | notObject
  | notListed
  /-- A name in a record has a loose surrogate. -/
  | notUnicode
deriving DecidableEq, Inhabited

/-- A flaw of a record, and where it is. -/
structure Flaw where
  path : List PathStep
  kind : Flaw.Kind
deriving DecidableEq, Inhabited

/-- The code of a kind of flaw. -/
def Flaw.Kind.code : Flaw.Kind → String
  | missing => "missing"
  | notText => "string_type"
  | notList => "list_type"
  | notObject => "model_type"
  | notListed => "literal_error"
  | notUnicode => "string_unicode"

/-- A step of a path as a value. -/
def PathStep.toJson : PathStep → Json
  | key name => .str name
  | index n => .int n

/-- The record of a flaw. -/
def Flaw.toJson (flaw : Flaw) : Json :=
  .obj [("loc", .arr (flaw.path.map PathStep.toJson)), ("type", .str flaw.kind.code)]

/-- A value that was checked, or all its flaws. -/
abbrev Checked (α : Type) := Except (List Flaw) α

namespace Checked

variable {α β : Type}

/-- The flaws that were found. -/
def flaws : Checked α → List Flaw
  | .ok _ => []
  | .error fs => fs

/-- Puts a step in front of the paths of all flaws. -/
def under (step : PathStep) (c : Checked α) : Checked α :=
  c.mapError fun fs => fs.map fun f => { f with path := step :: f.path }

/-- Joins two checks: both values, or the flaws of both. -/
def both (c : Checked α) (d : Checked β) : Checked (α × β) :=
  match c, d with
  | .ok a, .ok b => .ok (a, b)
  | c, d => .error (flaws c ++ flaws d)

/-- Checks the items of a list, each at its index. -/
def items (check : Json → Checked α) (start : Nat) : List Json → Checked (List α)
  | [] => .ok []
  | item :: rest =>
    (both (under (.index start) (check item)) (items check (start + 1) rest)).map fun (a, as) => a :: as

/-- A text. -/
def text : Json → Checked String
  | .str s => .ok s
  | _ => .error [⟨[], .notText⟩]

/-- A list of values that pass a check. -/
def list (check : Json → Checked α) : Json → Checked (List α)
  | .arr values => items check 0 values
  | _ => .error [⟨[], .notList⟩]

/-- An object whose fields pass a check. -/
def object (check : Record Json → Checked α) : Json → Checked α
  | .obj fields => check fields
  | _ => .error [⟨[], .notObject⟩]

/-- Null, or a value that passes a check. -/
def nullable (check : Json → Checked α) : Json → Checked (Option α)
  | .null => .ok none
  | value => (check value).map some

end Checked

/-- A field of a record: its name, and the second name that it may have. -/
structure FieldName where
  name : String
  other : Option String := none

namespace FieldName

variable {α : Type}

/-- The name under which a record holds the field, if it holds it. -/
def usedIn? (field : FieldName) (fields : Record Json) : Option String :=
  if fields.has field.name then some field.name else field.other.filter fields.has

/-- Checks a field that has to be there. -/
def required (field : FieldName) (check : Json → Checked α) (fields : Record Json) : Checked α :=
  match field.usedIn? fields with
  | some name => Checked.under (.key name) (check (Json.field fields name))
  | none => .error [⟨[.key field.name], .missing⟩]

/-- Checks a field that may be left out. -/
def optional (field : FieldName) (absent : α) (check : Json → Checked α) (fields : Record Json) :
    Checked α :=
  match field.usedIn? fields with
  | some name => Checked.under (.key name) (check (Json.field fields name))
  | none => .ok absent

/-- The fields of a record that none of the known fields uses. -/
def others (known : List FieldName) (fields : Record Json) : Record Json :=
  let used := known.filterMap (·.usedIn? fields)
  fields.filter fun field => !used.contains field.1

end FieldName

end PromptPress
