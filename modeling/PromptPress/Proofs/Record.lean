import Mathlib.Data.List.Induction
import Mathlib.Data.List.Nodup
import PromptPress.Record

/-!
# Laws of records

A name that a record does not hold is written at its end; so fields with new and different names are
taken over as they are (`merge_of_fresh`), and a record is its own list of fields (`ofFields_of_nodup`).
In general the last value that was written under a name is the one that a merge gives (`get?_merge`).
-/

namespace PromptPress.Record

variable {α β κ : Type} [DecidableEq κ] {r s : Record α κ} {name : κ} {value : α}

/-! ### Names -/

omit [DecidableEq κ] in
theorem keys_cons (field : κ × α) (r : Record α κ) :
    Record.keys (field :: r) = field.1 :: r.keys := rfl

omit [DecidableEq κ] in
theorem keys_append (r s : Record α κ) : Record.keys (r ++ s) = r.keys ++ s.keys :=
  List.map_append

/-! ### Look-up -/

theorem get?_eq_none_iff : r.get? name = none ↔ name ∉ r.keys := by
  induction r with
  | nil => simp [get?, keys]
  | cons field rest ih =>
    obtain ⟨key, old⟩ := field
    rw [keys_cons, List.mem_cons, not_or, get?, ← ih]
    split
    · next h => simp [h]
    · next h => simp [Ne.symm h]

theorem mem_keys_of_get? (h : r.get? name = some value) : name ∈ r.keys := by
  by_contra hnew
  rw [get?_eq_none_iff.mpr hnew] at h
  cases h

theorem get?_reverse_eq_none_iff : Record.get? r.reverse name = none ↔ name ∉ r.keys := by
  rw [get?_eq_none_iff, keys, List.map_reverse, List.mem_reverse, ← keys]

theorem get?_append (r s : Record α κ) (name : κ) :
    Record.get? (r ++ s) name = (r.get? name).or (s.get? name) := by
  induction r with
  | nil => rfl
  | cons field rest ih =>
    rw [List.cons_append, get?, get?, ih]
    split <;> rfl

theorem get?_map (f : α → β) (r : Record α κ) (name : κ) :
    Record.get? (r.map fun (key, value) => (key, f value)) name = (r.get? name).map f := by
  induction r with
  | nil => rfl
  | cons field rest ih =>
    rw [List.map_cons, get?, get?, ih]
    split <;> rfl

/-- A record under other names, which are different if the names are. -/
theorem get?_map_names {κ' : Type} [DecidableEq κ'] {named : κ → κ'}
    (hnamed : ∀ name other, named name = named other → name = other) (f : α → β) (r : Record α κ) (name : κ) :
    Record.get? (r.map fun field => (named field.1, f field.2)) (named name) = (r.get? name).map f := by
  induction r with
  | nil => rfl
  | cons field rest ih =>
    obtain ⟨key, value⟩ := field
    by_cases h : key = name
    · subst h
      simp [get?]
    · have h' : named key ≠ named name := fun heq => h (hnamed _ _ heq)
      simp only [List.map_cons, get?, if_neg h, if_neg h', ih]

/-- Looking up a key is finding the first element that has it. -/
theorem get?_map_key (key : β → κ) (f : β → α) (items : List β) (name : κ) :
    Record.get? (items.map fun item => (key item, f item)) name =
      (items.find? fun item => key item == name).map f := by
  induction items with
  | nil => rfl
  | cons item items ih =>
    rw [List.map_cons, get?, ih]
    by_cases h : key item = name
    · rw [if_pos h, List.find?_cons_of_pos (by simpa using h)]
      rfl
    · rw [if_neg h, List.find?_cons_of_neg (by simpa using h)]

/-- If the names are different, the fields are what is found under them. -/
theorem mem_iff_get? (h : r.keys.Nodup) : (name, value) ∈ r ↔ r.get? name = some value := by
  induction r with
  | nil => simp [get?]
  | cons field rest ih =>
    obtain ⟨key, old⟩ := field
    rw [keys_cons, List.nodup_cons] at h
    rw [List.mem_cons, get?, ih h.2]
    by_cases hkey : key = name
    · subst hkey
      have hrest : Record.get? rest key ≠ some value := fun hget => h.1 (mem_keys_of_get? hget)
      simp [hrest, eq_comm]
    · simp [hkey, Ne.symm hkey]

/-! ### Writing -/

/-- A value that is there already makes no difference. -/
theorem set_eq_self (h : r.get? name = some value) : r.set name value = r := by
  induction r with
  | nil => simp [get?] at h
  | cons field rest ih =>
    obtain ⟨key, old⟩ := field
    by_cases hkey : key = name
    · simp only [get?, if_pos hkey, Option.some.injEq] at h
      simp [set, hkey, h]
    · simp only [get?, if_neg hkey] at h
      simp [set, hkey, ih h]

/-- A new name is written at the end. -/
theorem set_of_notMem (h : name ∉ r.keys) (value : α) : r.set name value = r ++ [(name, value)] := by
  induction r with
  | nil => rfl
  | cons field rest ih =>
    obtain ⟨key, old⟩ := field
    rw [keys_cons, List.mem_cons, not_or] at h
    rw [set, if_neg (Ne.symm h.1), ih h.2, List.cons_append]

theorem length_set_of_get?_eq_none (h : r.get? name = none) (value : α) :
    (r.set name value).length = r.length + 1 := by
  rw [set_of_notMem (get?_eq_none_iff.mp h), List.length_append, List.length_singleton]

/-- **New and different names** are taken over as they are, behind the old ones. -/
theorem merge_of_fresh (hnodup : s.keys.Nodup) (hfresh : ∀ name ∈ s.keys, name ∉ r.keys) :
    r.merge s = r ++ s := by
  induction s generalizing r with
  | nil => simp [merge]
  | cons field rest ih =>
    obtain ⟨key, value⟩ := field
    rw [keys_cons, List.nodup_cons] at hnodup
    rw [keys_cons, List.forall_mem_cons] at hfresh
    have hrest : ∀ name ∈ Record.keys rest, name ∉ Record.keys (r ++ [(key, value)]) := by
      intro name hname hmem
      rw [keys_append, List.mem_append] at hmem
      rcases hmem with hmem | hmem
      · exact hfresh.2 name hname hmem
      · obtain rfl : name = key := List.mem_singleton.mp hmem
        exact hnodup.1 hname
    rw [merge, List.foldl_cons, ← merge, set_of_notMem hfresh.1, ih hnodup.2 hrest, List.append_assoc]
    rfl

/-- Fields with different names are the record that they give. -/
theorem ofFields_of_nodup {fields : List (κ × α)} (h : Record.keys fields |>.Nodup) :
    ofFields fields = fields :=
  merge_of_fresh h (by simp [keys])

/-- A merge keeps the names apart. -/
theorem nodup_keys_merge (h : r.keys.Nodup) (s : Record α κ) : (r.merge s).keys.Nodup := by
  induction s generalizing r with
  | nil => exact h
  | cons field rest ih =>
    refine ih ?_
    rw [keys_set]
    split
    · exact h
    · next hnew => exact List.concat_eq_append ▸ h.concat hnew

theorem nodup_keys_ofFields (fields : List (κ × α)) : (ofFields fields).keys.Nodup :=
  nodup_keys_merge (r := []) List.nodup_nil fields

theorem mem_of_mem_set {field : κ × α} (h : field ∈ r.set name value) :
    field = (name, value) ∨ field ∈ r := by
  induction r with
  | nil => exact .inl (List.mem_singleton.mp h)
  | cons first rest ih =>
    obtain ⟨key, old⟩ := first
    rw [set] at h
    split_ifs at h with hkey
    · obtain rfl := hkey
      rcases List.mem_cons.mp h with h | h
      · exact .inl h
      · exact .inr (.tail _ h)
    · rcases List.mem_cons.mp h with h | h
      · exact .inr (h ▸ .head _)
      · exact (ih h).imp_right (.tail _)

theorem mem_of_mem_merge {field : κ × α} (h : field ∈ r.merge s) : field ∈ r ∨ field ∈ s := by
  induction s generalizing r with
  | nil => exact .inl h
  | cons first rest ih =>
    rcases ih h with h | h
    · rcases mem_of_mem_set h with rfl | h
      · exact .inr (.head _)
      · exact .inl h
    · exact .inr (.tail _ h)

/-- A record holds no other fields than those that it was put together from. -/
theorem mem_of_mem_ofFields {fields : List (κ × α)} {field : κ × α}
    (h : field ∈ ofFields fields) : field ∈ fields :=
  (mem_of_mem_merge h).resolve_left nofun

/-- **The last value counts.** After a merge a name has the last value that was written under it, or
the value that it had before. -/
theorem get?_merge (r s : Record α κ) (name : κ) :
    (r.merge s).get? name = (Record.get? s.reverse name).or (r.get? name) := by
  induction s generalizing r with
  | nil => rfl
  | cons field rest ih =>
    obtain ⟨key, value⟩ := field
    rw [merge, List.foldl_cons, ← merge, ih, List.reverse_cons, get?_append, get?_set, Option.or_assoc]
    -- what comes after the first field counts more than it, and the first field more than the record
    congr 1
    by_cases h : key = name <;> simp [get?, h]

theorem get?_ofFields (fields : List (κ × α)) (name : κ) :
    (ofFields fields).get? name = Record.get? fields.reverse name := by
  rw [ofFields, get?_merge]
  simp [get?]

end PromptPress.Record
