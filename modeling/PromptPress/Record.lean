/-!
# Records

A record holds values under names, in the order in which the names were first written.  Writing a
name again replaces its value in place.  `get?_set` says what a record holds after a write, and
`keys_set` that the write keeps the order of the names.  Names are strings unless another type is given.
-/

namespace PromptPress

/-- Values under names, in the order of first writing. -/
abbrev Record (α : Type) (κ : Type := String) := List (κ × α)

namespace Record

variable {α κ : Type} [DecidableEq κ]

/-- The value under a name. -/
def get? (r : Record α κ) (name : κ) : Option α :=
  match r with
  | [] => none
  | (key, value) :: rest => if key = name then some value else get? rest name

/-- Writes a value under a name: in place if the name is there, else at the end. -/
def set (r : Record α κ) (name : κ) (value : α) : Record α κ :=
  match r with
  | [] => [(name, value)]
  | (key, old) :: rest => if key = name then (key, value) :: rest else (key, old) :: set rest name value

/-- The names of a record, in order. -/
def keys (r : Record α κ) : List κ :=
  r.map (·.1)

/-- Whether a name has a value. -/
def has (r : Record α κ) (name : κ) : Bool :=
  (r.get? name).isSome

/-- Writes all fields of a second record into a first one. -/
def merge (r s : Record α κ) : Record α κ :=
  s.foldl (fun acc field => acc.set field.1 field.2) r

/-- The record that the fields give when they are written one after another. -/
def ofFields (fields : List (κ × α)) : Record α κ :=
  merge [] fields

theorem get?_set (r : Record α κ) (name other : κ) (value : α) :
    (r.set name value).get? other = if name = other then some value else r.get? other := by
  induction r with
  | nil => simp [set, get?]
  | cons field rest ih =>
    obtain ⟨key, old⟩ := field
    by_cases h : key = name
    · subst h
      by_cases h' : key = other <;> simp [set, get?, h']
    · by_cases h' : key = other
      · subst h'
        simp [set, get?, h, Ne.symm h]
      · simp [set, get?, h, h', ih]

theorem keys_set (r : Record α κ) (name : κ) (value : α) :
    (r.set name value).keys = if name ∈ r.keys then r.keys else r.keys ++ [name] := by
  induction r with
  | nil => simp [set, keys]
  | cons field rest ih =>
    obtain ⟨key, old⟩ := field
    by_cases h : key = name
    · subst h
      simp [set, keys]
    · have h' : ¬ name = key := fun e => h e.symm
      simp only [set, if_neg h, keys, List.map_cons, List.mem_cons, h', false_or] at ih ⊢
      rw [ih]
      split <;> simp_all

end Record

end PromptPress
