import PromptPress.Number.Binary64
import PromptPress.Record

/-!
# JSON values

Values of the data format in which prompts, schemas and reports are exchanged.  Whole numbers are
kept apart from floating point numbers, and the fields of an object keep their order.
-/

namespace PromptPress

/-- A value of the data format. -/
inductive Json where
  | null
  | bool (value : Bool)
  | int (value : Int)
  | float (value : Binary64)
  | str (value : String)
  | arr (items : List Json)
  | obj (fields : List (String × Json))
deriving Inhabited

namespace Json

/-- The value of an optional text. -/
def ofString? : Option String → Json
  | some s => str s
  | none => null

/-- A list of texts. -/
def ofStrings (texts : List String) : Json :=
  arr (texts.map str)

/-- The value of an optional whole number. -/
def ofInt? : Option Int → Json
  | some n => int n
  | none => null

/-- The text that a value is, if it is one. -/
def string? : Json → Option String
  | str s => some s
  | _ => none

/-- The fields that a value has, if it is an object. -/
def fields? : Json → Option (Record Json)
  | obj fields => some fields
  | _ => none

/-- Whether a value says something: it is not null, false, zero or empty. -/
def isFilled : Json → Bool
  | null => false
  | bool b => b
  | int n => n != 0
  | float x => !x.isZero
  | str s => s != ""
  | arr items => !items.isEmpty
  | obj fields => !fields.isEmpty

/-- The value of a field, null if there is none. -/
def field (fields : Record Json) (name : String) : Json :=
  (fields.get? name).getD null

end Json

end PromptPress
