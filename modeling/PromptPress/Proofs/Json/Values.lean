import Mathlib.Tactic.Common
import PromptPress.Json.Parser
import PromptPress.Proofs.Number.Shortest
import PromptPress.Proofs.Record

/-!
# Values that are read and written

What readers give: whole numbers that are not too long, canonical floating point numbers, and objects with
different names for their fields (`RawJson.IsReadable`). A value is bounded if none of its numbers is infinite
or undefined, at any depth (`RawJson.isBounded_iff`), and its depth is the number of levels that it takes
while it is read.
-/

namespace PromptPress.RawJson

open PromptPress.Text PromptPress.Number

variable {x : Binary64} {value : RawJson} {items : List RawJson} {fields : List (RawText × RawJson)}

/-- The values that readers give. -/
inductive IsReadable : RawJson → Prop
  | null : IsReadable null
  | bool (value : Bool) : IsReadable (bool value)
  | int (n : Int) (hlength : (showNat n.natAbs).length ≤ maxDigits) : IsReadable (int n)
  | float (x : Binary64) (hcanonical : x.IsCanonical) : IsReadable (float x)
  | str (text : RawText) : IsReadable (str text)
  | arr (items : List RawJson) (hitems : ∀ item ∈ items, IsReadable item) : IsReadable (arr items)
  | obj (fields : List (RawText × RawJson)) (hnodup : (Record.keys fields).Nodup)
      (hfields : ∀ field ∈ fields, IsReadable field.2) : IsReadable (obj fields)

/-! ### Numbers at any depth -/

/-- A floating point number stands in a value, at some depth. -/
inductive Holds (x : Binary64) : RawJson → Prop
  | self : Holds x (float x)
  | item {items : List RawJson} {item : RawJson} (hmem : item ∈ items) (h : Holds x item) : Holds x (arr items)
  | field {fields : List (RawText × RawJson)} {name : RawText} {value : RawJson}
      (hmem : (name, value) ∈ fields) (h : Holds x value) : Holds x (obj fields)

mutual

/-- Whether all numbers of a value are finite. -/
def isBounded : RawJson → Bool
  | float x => x.isFinite
  | arr items => areBounded items
  | obj fields => hasBounded fields
  | _ => true

/-- Whether all numbers of the items of an array are finite. -/
def areBounded : List RawJson → Bool
  | [] => true
  | item :: items => isBounded item && areBounded items

/-- Whether all numbers of the fields of an object are finite. -/
def hasBounded : List (RawText × RawJson) → Bool
  | [] => true
  | (_, value) :: fields => isBounded value && hasBounded fields

end

theorem areBounded_iff : areBounded items = true ↔ ∀ item ∈ items, item.isBounded = true := by
  induction items with
  | nil => simp [areBounded]
  | cons item items ih => simp [areBounded, ih]

theorem hasBounded_iff : hasBounded fields = true ↔ ∀ field ∈ fields, field.2.isBounded = true := by
  induction fields with
  | nil => simp [hasBounded]
  | cons field fields ih => simp [hasBounded, ih]

theorem Holds.isFinite (h : Holds x value) (hvalue : value.isBounded = true) : x.isFinite = true := by
  induction h with
  | self => exact hvalue
  | item hmem _ ih => exact ih (areBounded_iff.mp hvalue _ hmem)
  | field hmem _ ih => exact ih (hasBounded_iff.mp hvalue _ hmem)

mutual

theorem isBounded_of_holds : (value : RawJson) → (∀ x, Holds x value → x.isFinite = true) →
    value.isBounded = true
  | null, _ | bool _, _ | int _, _ | str _, _ => rfl
  | float x, h => h x .self
  | arr items, h => areBounded_of_holds items fun _ hmem x hx => h x (.item hmem hx)
  | obj fields, h => hasBounded_of_holds fields fun _ hmem x hx => h x (.field hmem hx)

theorem areBounded_of_holds : (items : List RawJson) →
    (∀ item ∈ items, ∀ x, Holds x item → x.isFinite = true) → areBounded items = true
  | [], _ => rfl
  | item :: items, h => by
    obtain ⟨hitem, hitems⟩ := List.forall_mem_cons.mp h
    rw [areBounded, isBounded_of_holds item hitem, areBounded_of_holds items hitems, Bool.and_self]

theorem hasBounded_of_holds : (fields : List (RawText × RawJson)) →
    (∀ field ∈ fields, ∀ x, Holds x field.2 → x.isFinite = true) → hasBounded fields = true
  | [], _ => rfl
  | (_, value) :: fields, h => by
    obtain ⟨hvalue, hfields⟩ := List.forall_mem_cons.mp h
    rw [hasBounded, isBounded_of_holds value hvalue, hasBounded_of_holds fields hfields, Bool.and_self]

end

/-- **A value is bounded** if all its numbers are finite, at any depth. -/
theorem isBounded_iff : value.isBounded = true ↔ ∀ x, Holds x value → x.isFinite = true :=
  ⟨fun hvalue _ h => h.isFinite hvalue, isBounded_of_holds value⟩

/-! ### Loose surrogates -/

theorem isLooseField_eq_false_iff :
    isLooseField fields = false ↔ ∀ field ∈ fields, field.1.isLoose = false ∧ field.2.isLoose = false := by
  induction fields with
  | nil => simp [isLooseField]
  | cons field fields ih => simp [isLooseField, ih]

/-! ### Levels -/

mutual

/-- How many levels a value takes while it is read: each container takes one, and so does the call that
makes a number of a constant. -/
def depth : RawJson → Nat
  | float x => if x.isFinite then 0 else 1
  | arr items => depthItems items + 1
  | obj fields => depthFields fields + 1
  | _ => 0

/-- How many levels the items of an array take. -/
def depthItems : List RawJson → Nat
  | [] => 0
  | item :: items => max (depth item) (depthItems items)

/-- How many levels the values of the fields of an object take. -/
def depthFields : List (RawText × RawJson) → Nat
  | [] => 0
  | (_, value) :: fields => max (depth value) (depthFields fields)

end

theorem depthItems_le_iff {levels : Nat} : depthItems items ≤ levels ↔ ∀ item ∈ items, item.depth ≤ levels := by
  induction items with
  | nil => simp [depthItems]
  | cons item items ih => simp [depthItems, ih]

theorem depthFields_le_iff {levels : Nat} :
    depthFields fields ≤ levels ↔ ∀ field ∈ fields, field.2.depth ≤ levels := by
  induction fields with
  | nil => simp [depthFields]
  | cons field fields ih => simp [depthFields, ih]

/-! ### Values of the data format -/

theorem nodup_keys_ofFields {fields : List (String × Json)} :
    (Record.keys (ofFields fields)).Nodup ↔ (Record.keys fields).Nodup := by
  have hkeys : Record.keys (ofFields fields) = (Record.keys fields).map RawText.ofString := by
    simp [ofFields_eq_map, Record.keys, Function.comp_def]
  rw [hkeys]
  exact List.nodup_map_iff fun _ _ h => RawText.ofString_inj.mp h

theorem forall_mem_ofItems {items : List Json} {P : RawJson → Prop} :
    (∀ item ∈ ofItems items, P item) ↔ ∀ item ∈ items, P (ofJson item) := by
  rw [ofItems_eq_map, List.forall_mem_map]

theorem forall_mem_ofFields {fields : List (String × Json)} {P : RawJson → Prop} :
    (∀ field ∈ ofFields fields, P field.2) ↔ ∀ field ∈ fields, P (ofJson field.2) := by
  rw [ofFields_eq_map, List.forall_mem_map]

end PromptPress.RawJson
