import PromptPress.Proofs.Json.Digits
import PromptPress.Proofs.Json.Reading
import PromptPress.Proofs.Text.Decoding

/-!
# What readers give

Every value that is read from a text is one that could be read back from a text of its own
(`isReadable_of_parseStrict`): readers round floating point numbers to canonical ones, take whole numbers
up to a length, and put the fields of an object into a record. The text of a value over several lines has no
carriage returns, so a file keeps it as it is (`decodeFile_pretty`).
-/

namespace PromptPress.Json

open PromptPress.Text PromptPress.Number PromptPress.RawJson

variable {unbounded : Bool} {levels fuel : Nat} {s rest digits : List Char} {value : RawJson}

/-! ### Numbers that are read -/

theorem natOf_lt (h : AreDigits digits) : natOf digits < 10 ^ digits.length := by
  induction digits using List.reverseRecOn with
  | nil => simp [natOf, ofDigits]
  | append_singleton digits c ih =>
    obtain ⟨hdigits, hc⟩ := List.forall_mem_append.mp h
    have hdigit : natOf [c] < 10 := by
      have hlast : c.toNat ≤ 57 := (Char.isDigit_iff_toNat.mp (hc c (.head _))).2
      simp only [natOf, ofDigits, List.map_cons, List.map_nil, List.foldl_cons, List.foldl_nil]
      omega
    have hlt := ih hdigits
    rw [natOf_append, List.length_append, pow_add]
    simp only [List.length_singleton, pow_one]
    omega

theorem isReadable_int {n : Int} (h : n.natAbs < 10 ^ maxDigits) : IsReadable (.int n) := by
  refine .int n ?_
  rw [showNat, Nat.length_toDigits_le_iff (by norm_num) (by decide)]
  exact h

theorem isReadable_of_readNumber {negative : Bool} (h : readNumber negative s = .ok (value, rest)) :
    IsReadable value := by
  obtain ⟨-, hdigits⟩ := takeWhole_digits s
  have hsmall : ¬ maxDigits < (takeWhole s).1.length → natOf (takeWhole s).1 < 10 ^ maxDigits := fun hlong =>
    (natOf_lt hdigits).trans_le (Nat.pow_le_pow_right (by norm_num) (not_lt.mp hlong))
  dsimp only [readNumber] at h
  split_ifs at h with hnone hkind hlong hsign hdown
  all_goals obtain ⟨rfl, -⟩ := Prod.mk.inj (Except.ok.inj h)
  · exact isReadable_int (by simpa using hsmall hlong)
  · exact isReadable_int (by simpa using hsmall hlong)
  all_goals exact .float _ Binary64.isCanonical_ofDecimal

/-- What is read for the name of a constant is the value of that name. -/
theorem of_named {α : Type} {P : α → Prop} {text : String} {a b : α} (ha : P a)
    (h : (dropStart? text.toList s).map (a, ·) = some (b, rest)) : P b := by
  obtain ⟨_, -, heq⟩ := Option.map_eq_some_iff.mp h
  obtain ⟨rfl, -⟩ := Prod.mk.inj heq
  exact ha

theorem isReadable_of_constantOf? (h : constantOf? s = some (value, rest)) : value.IsReadable := by
  simp only [constantOf?, Option.orElse_eq_orElse, Option.orElse_eq_or, Option.or_eq_some_iff] at h
  obtain hnull | ⟨-, htrue | ⟨-, hfalse⟩⟩ := h
  · exact of_named .null hnull
  · exact of_named (.bool true) htrue
  · exact of_named (.bool false) hfalse

theorem isCanonical_of_numberConstantOf? {x : Binary64} (h : numberConstantOf? s = some (x, rest)) :
    x.IsCanonical := by
  simp only [numberConstantOf?, Option.orElse_eq_orElse, Option.orElse_eq_or, Option.or_eq_some_iff] at h
  obtain hnan | ⟨-, hinfinite | ⟨-, hnegative⟩⟩ := h
  · exact of_named (show Binary64.undefined.IsCanonical from trivial) hnan
  · exact of_named (show (Binary64.infinite false).IsCanonical from trivial) hinfinite
  · exact of_named (show (Binary64.infinite true).IsCanonical from trivial) hnegative

theorem isReadable_of_readScalar (h : readScalar unbounded levels s = .ok (value, rest)) :
    value.IsReadable := by
  unfold readScalar at h
  split at h
  · next hconstant =>
    cases h
    exact isReadable_of_constantOf? hconstant
  · split at h
    · next hconstant =>
      unfold readNumberConstant at h
      split_ifs at h
      cases h
      exact .float _ (isCanonical_of_numberConstantOf? hconstant)
    · split at h
      · exact isReadable_of_readNumber h
      · exact isReadable_of_readNumber h

/-! ### Values that are read -/

/-- The readers of values, items and fields give readable ones, as deep as the fuel allows. -/
structure ReadersGive (unbounded : Bool) (fuel : Nat) : Prop where
  value : ∀ levels s value rest, readValue unbounded levels fuel s = .ok (value, rest) → value.IsReadable
  items : ∀ levels s items rest, readItems unbounded levels fuel s = .ok (items, rest) →
    ∀ item ∈ items, item.IsReadable
  fields : ∀ levels s fields rest, readFields unbounded levels fuel s = .ok (fields, rest) →
    ∀ field ∈ fields, field.2.IsReadable

namespace ReadersGive

theorem value_succ (h : ReadersGive unbounded fuel)
    (hread : readValue unbounded levels (fuel + 1) s = .ok (value, rest)) : value.IsReadable := by
  rw [readValue.eq_def] at hread
  dsimp only at hread
  split at hread
  · cases hread
  · split at hread
    · cases hread
      exact .str _
    · cases hread
  · split at hread
    · cases hread
    · split at hread
      · cases hread
        exact .arr [] (List.forall_mem_nil _)
      · split at hread
        · next hitems =>
          cases hread
          exact .arr _ (h.items _ _ _ _ hitems)
        · cases hread
  · split at hread
    · cases hread
    · split at hread
      · cases hread
        exact .obj [] List.nodup_nil (List.forall_mem_nil _)
      · split at hread
        · next hfields =>
          -- the record has no other values than the fields that were read
          cases hread
          exact .obj _ (Record.nodup_keys_ofFields _) fun field hfield =>
            h.fields _ _ _ _ hfields field (Record.mem_of_mem_ofFields hfield)
        · cases hread
  · exact isReadable_of_readScalar hread

theorem items_succ (h : ReadersGive unbounded fuel) {items : List RawJson}
    (hread : readItems unbounded levels (fuel + 1) s = .ok (items, rest)) : ∀ item ∈ items, item.IsReadable := by
  rw [readItems] at hread
  split at hread
  · cases hread
  · next hvalue =>
    have hitem := h.value _ _ _ _ hvalue
    split at hread
    · cases hread
      simpa using hitem
    · split at hread
      · next hitems =>
        cases hread
        exact List.forall_mem_cons.mpr ⟨hitem, h.items _ _ _ _ hitems⟩
      · cases hread
    · cases hread

theorem fields_succ (h : ReadersGive unbounded fuel) {fields : List (RawText × RawJson)}
    (hread : readFields unbounded levels (fuel + 1) s = .ok (fields, rest)) :
    ∀ field ∈ fields, field.2.IsReadable := by
  rw [readFields.eq_def] at hread
  dsimp only at hread
  split at hread
  · split at hread
    · cases hread
    · split at hread
      · split at hread
        · cases hread
        · next hvalue =>
          have hfield := h.value _ _ _ _ hvalue
          split at hread
          · cases hread
            simpa using hfield
          · split at hread
            · next hfields =>
              cases hread
              exact List.forall_mem_cons.mpr ⟨hfield, h.fields _ _ _ _ hfields⟩
            · cases hread
          · cases hread
      · cases hread
  · cases hread

end ReadersGive

theorem readersGive (unbounded : Bool) (fuel : Nat) : ReadersGive unbounded fuel := by
  induction fuel with
  | zero =>
    refine ⟨fun levels s value rest h => ?_, fun levels s items rest h => ?_,
      fun levels s fields rest h => ?_⟩
    · rw [readValue] at h
      cases h
    · rw [readItems] at h
      cases h
    · rw [readFields] at h
      cases h
  | succ fuel ih =>
    exact ⟨fun _ _ _ _ => ih.value_succ, fun _ _ _ _ => ih.items_succ, fun _ _ _ _ => ih.fields_succ⟩

/-- **Every value that is read** could be read back. -/
theorem isReadable_of_readDocument (h : readDocument unbounded levels s = .ok value) : value.IsReadable := by
  unfold readDocument at h
  split at h
  · cases h
  · split at h
    · cases h
    · next hread =>
      have hvalue := (readersGive unbounded _).value _ _ _ _ hread
      split at h
      · cases h
        exact hvalue
      · cases h

theorem isReadable_of_parseStrict {text : String} (h : parseStrict levels text = .ok value) :
    value.IsReadable :=
  isReadable_of_readDocument (Outcome.mapError_eq_ok_iff.mp h)

/-! ### Line breaks -/

theorem AreDigits.return_notMem (h : AreDigits digits) : '\r' ∉ digits :=
  fun hmem => absurd (h _ hmem) (by decide)

theorem return_notMem_stringChar (c : Char) : '\r' ∉ stringChar false c := by
  have hcontrol : ∀ n < 32, '\r' ∉ '\\' :: 'u' :: showHex 4 n := by decide
  unfold stringChar
  split_ifs with hquote hescape hline hreturn htab hback hfeed hlow
  iterate 7 decide
  · have hlt : c.toNat < 32 := by simpa [Char.lt_def, UInt32.lt_iff_toNat_lt] using hlow
    simpa [unitsOf, show c.toNat < 0x10000 by omega] using hcontrol _ hlt
  · rw [List.mem_singleton]
    rintro rfl
    exact hreturn rfl

theorem return_notMem_stringText (text : String) : '\r' ∉ stringText false text := by
  simp [stringText, return_notMem_stringChar]

theorem return_notMem_showDecimal (style : Binary64.DecimalStyle) (n : Nat) (k : Int) :
    '\r' ∉ Binary64.showDecimal style n k := by
  have hdigits := areDigits_showNat n
  have hall := hdigits.return_notMem
  have hsome := fun count => (hdigits.take count).return_notMem
  have hothers := fun count => (hdigits.drop count).return_notMem
  have hzeros := fun count => (areDigits_zeros count).return_notMem
  have hpadded := fun m => (areDigits_showPadded 2 m).return_notMem
  rw [Binary64.showDecimal]
  dsimp only
  split_ifs <;>
  simp only [List.mem_append, List.mem_cons, hall, hsome, hothers, hzeros, hpadded, or_false, false_or,
    List.not_mem_nil] <;>
  decide

theorem return_notMem_scalarText (value : Json) : '\r' ∉ scalarText false value := by
  cases value with
  | null => decide
  | arr | obj => simp [scalarText]
  | bool b => cases b <;> decide
  | int n =>
    rw [scalarText, showInt_eq]
    split_ifs <;> simp [(areDigits_showNat _).return_notMem]
  | str text => exact return_notMem_stringText text
  | float x =>
    rw [scalarText]
    cases x with
    | finite negative m e =>
      rw [Binary64.render]
      split_ifs <;> simp [return_notMem_showDecimal]
    | infinite negative => cases negative <;> decide
    | undefined => decide

theorem return_notMem_newLine (level : Nat) : '\r' ∉ newLine level := by
  simp [newLine]

mutual

/-- The text of a value has no carriage returns. -/
theorem return_notMem_layout : (level : Nat) → (value : Json) → '\r' ∉ layout level value
  | _, .null => return_notMem_scalarText .null
  | _, .bool value => return_notMem_scalarText (.bool value)
  | _, .int n => return_notMem_scalarText (.int n)
  | _, .float x => return_notMem_scalarText (.float x)
  | _, .str text => return_notMem_scalarText (.str text)
  | _, .arr [] => by simp [layout]
  | _, .obj [] => by simp [layout]
  | level, .arr (item :: items) => by
    simpa [layout] using return_notMem_layoutItems (level + 1) (item :: items)
  | level, .obj (field :: fields) => by
    simpa [layout] using return_notMem_layoutFields (level + 1) (field :: fields)

theorem return_notMem_layoutItems : (level : Nat) → (items : List Json) → '\r' ∉ layoutItems level items
  | level, [] => by simp [layoutItems, return_notMem_newLine]
  | level, item :: items => by
    have hitem := return_notMem_layout level item
    have hitems := return_notMem_layoutItems level items
    rw [layoutItems]
    split_ifs <;> simp [hitem, hitems, return_notMem_newLine]

theorem return_notMem_layoutFields : (level : Nat) → (fields : List (String × Json)) →
    '\r' ∉ layoutFields level fields
  | level, [] => by simp [layoutFields, return_notMem_newLine]
  | level, (name, value) :: fields => by
    have hvalue := return_notMem_layout level value
    have hfields := return_notMem_layoutFields level fields
    rw [layoutFields]
    split_ifs <;> simp [hvalue, hfields, return_notMem_newLine, return_notMem_stringText]

end

/-- **A file keeps the text of a value.** -/
theorem decodeFile_pretty (value : Json) : decodeFile (Digest.utf8 value.pretty) = .ok value.pretty := by
  refine decodeFile_utf8 ?_
  rw [pretty, String.toList_ofList]
  exact return_notMem_layout 0 value

end PromptPress.Json
