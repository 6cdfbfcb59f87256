import PromptPress.Json.Value
import PromptPress.Text.Raw

/-!
# Values as they are read

What a reader gives is a value whose texts may hold loose surrogates, in names as well. Every value of the
data format is such a value (`RawJson.ofJson`). `RawJson.replaced` is the value with a mark in place of each
loose surrogate, for whoever has no use for them.
-/

namespace PromptPress

/-- A value whose texts may hold loose surrogates. -/
inductive RawJson where
  | null
  | bool (value : Bool)
  | int (value : Int)
  | float (value : Binary64)
  | str (value : RawText)
  | arr (items : List RawJson)
  | obj (fields : List (RawText × RawJson))
deriving Inhabited

namespace RawJson

mutual

/-- A value of the data format as one that could have been read. -/
def ofJson : Json → RawJson
  | .null => null
  | .bool b => bool b
  | .int n => int n
  | .float x => float x
  | .str s => str s
  | .arr items => arr (ofItems items)
  | .obj fields => obj (ofFields fields)

/-- The values of a list as ones that could have been read. -/
def ofItems : List Json → List RawJson
  | [] => []
  | item :: items => ofJson item :: ofItems items

/-- The fields of an object as ones that could have been read. -/
def ofFields : List (String × Json) → List (RawText × RawJson)
  | [] => []
  | (name, value) :: fields => (.ofString name, ofJson value) :: ofFields fields

end

instance : Coe Json RawJson := ⟨ofJson⟩

mutual

/-- The value with a mark in place of each loose surrogate. -/
def replaced : RawJson → Json
  | null => .null
  | bool b => .bool b
  | int n => .int n
  | float x => .float x
  | str t => .str t.replaced
  | arr items => .arr (replacedItems items)
  | obj fields => .obj (replacedFields fields)

/-- The items of an array with a mark in place of each loose surrogate. -/
def replacedItems : List RawJson → List Json
  | [] => []
  | item :: items => replaced item :: replacedItems items

/-- The fields of an object with a mark in place of each loose surrogate. -/
def replacedFields : List (RawText × RawJson) → List (String × Json)
  | [] => []
  | (name, value) :: fields => (name.replaced, replaced value) :: replacedFields fields

end

mutual

/-- Whether a surrogate is loose, in a text or a name at any depth. -/
def isLoose : RawJson → Bool
  | str t => t.isLoose
  | arr items => isLooseItem items
  | obj fields => isLooseField fields
  | _ => false

/-- Whether a surrogate is loose in an item of an array. -/
def isLooseItem : List RawJson → Bool
  | [] => false
  | item :: items => isLoose item || isLooseItem items

/-- Whether a surrogate is loose in a name or a value of the fields of an object. -/
def isLooseField : List (RawText × RawJson) → Bool
  | [] => false
  | (name, value) :: fields => name.isLoose || isLoose value || isLooseField fields

end

/-! ### Values of the data format -/

theorem ofItems_eq_map (items : List Json) : ofItems items = items.map ofJson := by
  induction items with
  | nil => rfl
  | cons item items ih => rw [ofItems, ih, List.map_cons]

theorem ofFields_eq_map (fields : List (String × Json)) :
    ofFields fields = fields.map fun field => (.ofString field.1, ofJson field.2) := by
  induction fields with
  | nil => rfl
  | cons field fields ih => rw [ofFields, ih, List.map_cons]

mutual

@[simp]
theorem replaced_ofJson : (value : Json) → (ofJson value).replaced = value
  | .null | .bool _ | .int _ | .float _ => rfl
  | .str s => by rw [ofJson, replaced, RawText.replaced_ofString]
  | .arr items => by rw [ofJson, replaced, replacedItems_ofItems]
  | .obj fields => by rw [ofJson, replaced, replacedFields_ofFields]

theorem replacedItems_ofItems : (items : List Json) → replacedItems (ofItems items) = items
  | [] => rfl
  | item :: items => by rw [ofItems, replacedItems, replaced_ofJson, replacedItems_ofItems]

theorem replacedFields_ofFields : (fields : List (String × Json)) → replacedFields (ofFields fields) = fields
  | [] => rfl
  | (name, value) :: fields => by
    rw [ofFields, replacedFields, replaced_ofJson, RawText.replaced_ofString, replacedFields_ofFields]

end

@[simp]
theorem ofJson_inj {value other : Json} : ofJson value = ofJson other ↔ value = other :=
  ⟨fun h => by simpa using congrArg replaced h, congrArg ofJson⟩

mutual

@[simp]
theorem isLoose_ofJson : (value : Json) → (ofJson value).isLoose = false
  | .null | .bool _ | .int _ | .float _ => rfl
  | .str s => RawText.isLoose_ofString s
  | .arr items => isLooseItem_ofItems items
  | .obj fields => isLooseField_ofFields fields

theorem isLooseItem_ofItems : (items : List Json) → isLooseItem (ofItems items) = false
  | [] => rfl
  | item :: items => by rw [ofItems, isLooseItem, isLoose_ofJson, isLooseItem_ofItems, Bool.or_self]

theorem isLooseField_ofFields : (fields : List (String × Json)) → isLooseField (ofFields fields) = false
  | [] => rfl
  | (name, value) :: fields => by
    rw [ofFields, isLooseField, RawText.isLoose_ofString, isLoose_ofJson, isLooseField_ofFields]
    rfl

end

mutual

theorem ofJson_replaced : (value : RawJson) → value.isLoose = false → ofJson value.replaced = value
  | null, _ | bool _, _ | int _, _ | float _, _ => rfl
  | str _, h => congrArg str (RawText.ofString_replaced h)
  | arr items, h => congrArg arr (ofItems_replacedItems items h)
  | obj fields, h => congrArg obj (ofFields_replacedFields fields h)

theorem ofItems_replacedItems : (items : List RawJson) → isLooseItem items = false →
    ofItems (replacedItems items) = items
  | [], _ => rfl
  | item :: items, h => by
    obtain ⟨hitem, hitems⟩ := Bool.or_eq_false_iff.mp h
    rw [replacedItems, ofItems, ofJson_replaced item hitem, ofItems_replacedItems items hitems]

theorem ofFields_replacedFields : (fields : List (RawText × RawJson)) → isLooseField fields = false →
    ofFields (replacedFields fields) = fields
  | [], _ => rfl
  | (name, value) :: fields, h => by
    obtain ⟨hfield, hfields⟩ := Bool.or_eq_false_iff.mp h
    obtain ⟨hname, hvalue⟩ := Bool.or_eq_false_iff.mp hfield
    rw [replacedFields, ofFields, RawText.ofString_replaced hname, ofJson_replaced value hvalue,
      ofFields_replacedFields fields hfields]

end

/-- A value without loose surrogates is a value of the data format. -/
theorem isLoose_eq_false_iff {value : RawJson} : value.isLoose = false ↔ ∃ w, value = ofJson w :=
  ⟨fun h => ⟨value.replaced, (ofJson_replaced value h).symm⟩, fun ⟨w, hw⟩ => hw ▸ isLoose_ofJson w⟩

/-- The text that a value is, if it is one. -/
def text? : RawJson → Option RawText
  | str t => some t
  | _ => none

/-- The items of a list; other values have none. -/
def items : RawJson → List RawJson
  | arr items => items
  | _ => []

/-- The fields of an object; other values have none. -/
def object : RawJson → Record RawJson RawText
  | obj fields => fields
  | _ => []

/-- The value of a field, null if there is none. -/
def field (fields : Record RawJson RawText) (name : String) : RawJson :=
  (fields.get? name).getD null

end RawJson

end PromptPress
