import PromptPress.Prompt.Checked
import PromptPress.Proofs.Outcome
import PromptPress.Proofs.Record

/-!
# Checks and forms

A form restores a check if what passed the check, written in this form, passes it as what it was
(`Restores`). The checks of texts, lists and objects have such forms. A record restores its fields if it
holds each of them under its first name, and in front of the fields that are not known
(`FieldName.others_append_others`); the second names do not matter then.
-/

namespace PromptPress

variable {ι α β ε : Type}

/-- A form restores what is read: what was read, written in this form, is read as what it was. -/
def Restores (read : ι → Except ε α) (form : α → ι) : Prop :=
  ∀ i a, read i = .ok a → read (form a) = .ok a

/-! ### Values -/

namespace Checked

variable {check : Json → Checked α} {form : α → Json} {step : PathStep} {c : Checked α}

theorem under_eq_ok_iff {a : α} : under step c = .ok a ↔ c = .ok a :=
  Outcome.mapError_eq_ok_iff

theorem both_eq_ok_iff {d : Checked β} {x : α × β} :
    both c d = .ok x ↔ c = .ok x.1 ∧ d = .ok x.2 := by
  obtain ⟨a, b⟩ := x
  cases c <;> cases d <;> simp [both]

theorem both_eq_ok {d : Checked β} {a : α} {b : β} (hc : c = .ok a) (hd : d = .ok b) :
    both c d = .ok (a, b) :=
  both_eq_ok_iff.mpr ⟨hc, hd⟩

theorem items_eq_ok_iff {start : Nat} {values : List Json} {as : List α} :
    items check start values = .ok as ↔
      List.Forall₂ (fun value a => check value = .ok a) values as := by
  induction values generalizing start as with
  | nil => cases as <;> simp [items]
  | cons value values ih =>
    rw [items, Outcome.map_eq_ok_iff]
    constructor
    · rintro ⟨⟨a, rest⟩, hboth, rfl⟩
      obtain ⟨hvalue, hvalues⟩ := both_eq_ok_iff.mp hboth
      exact .cons (under_eq_ok_iff.mp hvalue) (ih.mp hvalues)
    · rintro (_ | @⟨_, a, _, rest, hvalue, hvalues⟩)
      exact ⟨(a, rest), both_eq_ok (under_eq_ok_iff.mpr hvalue) (ih.mpr hvalues), rfl⟩

theorem text_eq_ok_iff {value : Json} {s : String} : text value = .ok s ↔ value = .str s := by
  cases value <;> simp [text]

theorem nullable_text_ofString? (text : Option String) :
    nullable Checked.text (.ofString? text) = .ok text := by
  cases text <;> rfl

/-- Texts are restored by a list of them. -/
theorem list_text_ofStrings (texts : List String) : list text (.ofStrings texts) = .ok texts := by
  refine items_eq_ok_iff.mpr ?_
  rw [List.forall₂_map_left_iff, List.forall₂_same]
  exact fun _ _ => rfl

theorem object_eq_ok_iff {check : Record Json → Checked α} {value : Json} {a : α} :
    object check value = .ok a ↔ ∃ fields, value = .obj fields ∧ check fields = .ok a := by
  cases value <;> simp [object]

/-- An object is restored by its fields. -/
theorem restores_object {check : Record Json → Checked α} {toFields : α → Record Json}
    (h : Restores check toFields) : Restores (object check) fun item => .obj (toFields item) := by
  intro value item hvalue
  obtain ⟨fields, -, hitem⟩ := object_eq_ok_iff.mp hvalue
  exact h fields item hitem

/-- A list of objects is restored item by item. -/
theorem restores_objects {check : Record Json → Checked α} {toFields : α → Record Json}
    (h : Restores check toFields) :
    Restores (list (object check)) fun items => .arr (items.map fun item => .obj (toFields item)) := by
  intro value items hvalue
  cases value with
  | arr values =>
    refine items_eq_ok_iff.mpr ?_
    rw [List.forall₂_map_left_iff, List.forall₂_same]
    intro item hitem
    obtain ⟨source, -, hsource⟩ :=
      Outcome.exists_of_mem_right (items_eq_ok_iff.mp hvalue) item hitem
    exact restores_object h source item hsource
  | _ => cases hvalue

/-- An object that may be missing is restored by null or by its fields. -/
theorem restores_nullable_object {check : Record Json → Checked α} {toFields : α → Record Json}
    (h : Restores check toFields) :
    Restores (nullable (object check)) fun item =>
      (item.map fun item => .obj (toFields item)).getD .null := by
  intro value item hvalue
  cases value with
  | null =>
    obtain rfl : none = item := Except.ok.inj hvalue
    rfl
  | obj fields =>
    obtain ⟨a, ha, rfl⟩ := Outcome.map_eq_ok_iff.mp hvalue
    exact Outcome.map_eq_ok_iff.mpr ⟨a, h fields a ha, rfl⟩
  | _ => cases hvalue

end Checked

/-! ### Fields -/

namespace FieldName

variable {field : FieldName} {known : List FieldName} {fields written extra : Record Json}
  {check : Json → Checked α} {value : Json} {a : α}

/-- The first name of a field is used wherever it is there. -/
theorem usedIn?_of_mem (h : field.name ∈ fields.keys) : field.usedIn? fields = some field.name := by
  have hhas : fields.has field.name = true := by
    rw [Record.has, Option.isSome_iff_ne_none, ne_eq, Record.get?_eq_none_iff, not_not]
    exact h
  rw [usedIn?, if_pos hhas]

theorem required_of_get? (h : fields.get? field.name = some value) (hcheck : check value = .ok a) :
    field.required check fields = .ok a := by
  simp only [required, usedIn?_of_mem (Record.mem_keys_of_get? h), Json.field, h]
  exact Checked.under_eq_ok_iff.mpr hcheck

theorem optional_of_get? {absent : α} (h : fields.get? field.name = some value)
    (hcheck : check value = .ok a) : field.optional absent check fields = .ok a := by
  simp only [optional, usedIn?_of_mem (Record.mem_keys_of_get? h), Json.field, h]
  exact Checked.under_eq_ok_iff.mpr hcheck

/-- A required field with one name passed its check under it. -/
theorem check_of_required (hother : field.other = none) (h : field.required check fields = .ok a) :
    check (Json.field fields field.name) = .ok a := by
  rw [required, usedIn?, hother] at h
  split at h
  · next name hname =>
    obtain ⟨-, rfl⟩ : fields.has field.name ∧ field.name = name := by simpa using hname
    exact Checked.under_eq_ok_iff.mp h
  · cases h

/-- A required field of one record is restored by another that holds it under its first name. -/
theorem required_of_restores {form : α → Json} (hcheck : Restores check form)
    (h : field.required check fields = .ok a) (hget : written.get? field.name = some (form a)) :
    field.required check written = .ok a := by
  rw [required] at h
  split at h
  · exact required_of_get? hget (hcheck _ a (Checked.under_eq_ok_iff.mp h))
  · cases h

/-- So is a field that may be left out, if the form of what stands for it then restores it. -/
theorem optional_of_restores {form : α → Json} {absent : α} (hcheck : Restores check form)
    (habsent : check (form absent) = .ok absent) (h : field.optional absent check fields = .ok a)
    (hget : written.get? field.name = some (form a)) :
    field.optional absent check written = .ok a := by
  rw [optional] at h
  split at h
  · exact optional_of_get? hget (hcheck _ a (Checked.under_eq_ok_iff.mp h))
  · obtain rfl : absent = a := Except.ok.inj h
    exact optional_of_get? hget habsent

/-- The fields that are not known have none of the first names of known ones. -/
theorem name_notMem_others (h : field ∈ known) : field.name ∉ Record.keys (others known fields) := by
  intro hmem
  obtain ⟨entry, hentry, hname⟩ := List.mem_map.mp hmem
  obtain ⟨hin, hunused⟩ := List.mem_filter.mp hentry
  have hused : field.usedIn? fields = some field.name :=
    usedIn?_of_mem (List.mem_map.mpr ⟨entry, hin, hname⟩)
  have hmem : entry.1 ∈ known.filterMap (·.usedIn? fields) :=
    List.mem_filterMap.mpr ⟨field, h, hname ▸ hused⟩
  simp [hmem] at hunused

/-- **Fields that are not known stay so** behind the known ones under their first names. -/
theorem others_append_others (hwritten : written.keys = known.map (·.name)) :
    others known (written ++ others known fields) = others known fields := by
  have hused : known.filterMap (·.usedIn? (written ++ others known fields)) = written.keys := by
    rw [hwritten, ← List.filterMap_eq_map]
    refine List.filterMap_congr fun field hfield => usedIn?_of_mem ?_
    rw [Record.keys_append, hwritten]
    exact List.mem_append_left _ (List.mem_map_of_mem hfield)
  rw [others, hused, List.filter_append]
  have hdropped : written.filter (fun entry => !written.keys.contains entry.1) = [] := by
    refine List.filter_eq_nil_iff.mpr fun entry hentry => ?_
    simp [Record.keys, List.mem_map_of_mem hentry]
  have hkept : (others known fields).filter (fun entry => !written.keys.contains entry.1) =
      others known fields := by
    refine List.filter_eq_self.mpr fun entry hentry => ?_
    have hnew : entry.1 ∉ written.keys := by
      rw [hwritten]
      intro hmem
      obtain ⟨field, hfield, hname⟩ := List.mem_map.mp hmem
      exact name_notMem_others hfield (List.mem_map.mpr ⟨entry, hentry, hname.symm⟩)
    simp [hnew]
  rw [hdropped, hkept, List.nil_append]

end FieldName

end PromptPress
