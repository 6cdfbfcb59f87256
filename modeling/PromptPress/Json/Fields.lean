import PromptPress.Json.Value

/-!
# Reading fields

Lenient access to the fields of an object: a field that is missing, or of another kind than the one that
is asked for, reads as none, or as a default.
-/

namespace PromptPress

namespace Json

/-- The fields of an object; other values have none. -/
def object (value : Json) : Record Json :=
  value.fields?.getD []

/-- The items of a list; other values have none. -/
def items : Json → List Json
  | arr items => items
  | _ => []

/-- The texts in a list. -/
def texts (value : Json) : List String :=
  value.items.filterMap string?

/-- The value of something that may be missing. -/
def ofOption {α : Type} (form : α → Json) : Option α → Json
  | some x => form x
  | none => null

end Json

namespace Record

/-- The value of a field, null if it is missing. -/
abbrev json (fields : Record Json) (name : String) : Json :=
  Json.field fields name

/-- The text of a field. -/
def text? (fields : Record Json) (name : String) : Option String :=
  (fields.json name).string?

/-- The text of a field, or a default. -/
def text (fields : Record Json) (name : String) (absent : String := "") : String :=
  (fields.text? name).getD absent

/-- The whole number of a field. -/
def int? (fields : Record Json) (name : String) : Option Int :=
  match fields.json name with
  | .int n => some n
  | _ => none

/-- The whole number of a field, or a default. -/
def int (fields : Record Json) (name : String) (absent : Int := 0) : Int :=
  (fields.int? name).getD absent

/-- The truth value of a field. -/
def flag? (fields : Record Json) (name : String) : Option Bool :=
  match fields.json name with
  | .bool b => some b
  | _ => none

/-- The truth value of a field, or a default. -/
def flag (fields : Record Json) (name : String) (absent : Bool := false) : Bool :=
  (fields.flag? name).getD absent

/-- The items of a field. -/
def items (fields : Record Json) (name : String) : List Json :=
  (fields.json name).items

/-- The texts of a field. -/
def texts (fields : Record Json) (name : String) : List String :=
  (fields.json name).texts

/-- The fields of the object of a field. -/
def object (fields : Record Json) (name : String) : Record Json :=
  (fields.json name).object

end Record

end PromptPress
