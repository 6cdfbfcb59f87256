import Mathlib.Tactic.Common
import PromptPress.Proofs.Json.Numerals
import PromptPress.Proofs.Json.Values

/-!
# Reading what was written

The text of a value over several lines is read as that value, if the value is one that readers give at all
and there are levels enough for it (`parse_pretty`). A reader that takes no constants for numbers that are
not finite reads it too, if there are none in the value (`parseStrict_pretty`). The reader is followed along
the text: strings character by character, containers item by item. Every step of a reader takes a character
of its own, so as much fuel as the text is long is enough.
-/

namespace PromptPress.Json

open PromptPress.Text PromptPress.Number PromptPress.RawJson

/-! ### Strings -/

section Strings

variable {start : Nat} {c ch : Char} {rest : List Char}

theorem readString_plain (hquote : c ≠ '"') (hescape : c ≠ '\\') (hvisible : ¬ c < ' ') :
    readString start (c :: rest) = consPoint (.char c) (readString start rest) := by
  rw [readString, if_neg hvisible]
  all_goals simp [hquote, hescape]

theorem readString_escape (h : escaped? c = some ch) :
    readString start ('\\' :: c :: rest) = consPoint (.char ch) (readString start rest) := by
  have hunit : c ≠ 'u' := by
    rintro rfl
    cases h
  rw [readString, h]
  all_goals simp [hunit]

theorem readString_unit {a b d e f : Char} {unit : Nat} (h : unit? a b d e = some unit)
    (hhigh : unit < 0xD800) :
    readString start ('\\' :: 'u' :: a :: b :: d :: e :: f :: rest) =
      consPoint (.char (Char.ofNat unit)) (readString start (f :: rest)) := by
  have hpair : ¬ (0xD800 ≤ unit ∧ unit < 0xDC00) := by omega
  have hchar : unitPoint unit = .char (Char.ofNat unit) := by
    rw [unitPoint, dif_neg (by omega)]
  rw [readString.eq_def]
  simp [h, hpair, hchar]

/-- A control character is written as a code unit that names it. -/
theorem exists_unit_of_control {n : Nat} (h : n < 32) :
    ∃ a b c d, showHex 4 n = [a, b, c, d] ∧ unit? a b c d = some n := by
  have hall : ∀ n < 32, ((showHex 4 n).length = 4 ∧
      unit? ((showHex 4 n).getD 0 ' ') ((showHex 4 n).getD 1 ' ') ((showHex 4 n).getD 2 ' ')
        ((showHex 4 n).getD 3 ' ') = some n) := by decide
  obtain ⟨hlength, hunit⟩ := hall n h
  obtain ⟨a, b, c, d, htext⟩ := List.length_eq_four.mp hlength
  rw [htext] at hunit
  exact ⟨a, b, c, d, htext, hunit⟩

/-- One character is read back, whatever follows it up to the end of the string. -/
theorem readString_stringChar (hrest : rest ≠ []) :
    readString start (stringChar false c ++ rest) = consPoint (.char c) (readString start rest) := by
  unfold stringChar
  split_ifs with hquote hescape hline hreturn htab hback hfeed hcontrol
  · obtain rfl : c = '"' := by simpa using hquote
    exact readString_escape rfl
  · obtain rfl : c = '\\' := by simpa using hescape
    exact readString_escape rfl
  · obtain rfl : c = '\n' := by simpa using hline
    exact readString_escape rfl
  · obtain rfl : c = '\r' := by simpa using hreturn
    exact readString_escape rfl
  · obtain rfl : c = '\t' := by simpa using htab
    exact readString_escape rfl
  · obtain rfl : c = '\x08' := by simpa using hback
    exact readString_escape rfl
  · obtain rfl : c = '\x0c' := by simpa using hfeed
    exact readString_escape rfl
  · have hlt : c.toNat < 32 := by simpa [Char.lt_def, UInt32.lt_iff_toNat_lt] using hcontrol
    obtain ⟨a, b, d, e, htext, hunit⟩ := exists_unit_of_control hlt
    obtain ⟨f, more, rfl⟩ := List.exists_cons_of_ne_nil hrest
    have hread : readString start ('\\' :: 'u' :: a :: b :: d :: e :: f :: more) =
        consPoint (.char (Char.ofNat c.toNat)) (readString start (f :: more)) :=
      readString_unit hunit (by omega)
    rw [Char.ofNat_toNat] at hread
    simpa [unitsOf, show c.toNat < 0x10000 by omega, htext] using hread
  · exact readString_plain (by simpa using hquote) (by simpa using hescape) (by simpa using hcontrol)

/-- **A string is read as the text that was written.** -/
theorem readString_stringChars (s : List Char) :
    readString start (s.flatMap (stringChar false) ++ '"' :: rest) = .ok (s.map .char, rest) := by
  induction s with
  | nil => simp [readString]
  | cons c s ih =>
    rw [List.flatMap_cons, List.append_assoc, readString_stringChar (by simp), ih]
    rfl

end Strings

/-! ### Values -/

/-- Whether a reader with some levels left takes the numbers of a value and the value as a whole. -/
structure IsAllowed (unbounded : Bool) (levels : Nat) (value : Json) : Prop where
  bounded : (ofJson value).isBounded = true ∨ unbounded = true
  room : (ofJson value).depth ≤ levels

section Values

variable {unbounded : Bool} {levels level fuel : Nat} {value : Json} {s more rest after : List Char}

theorem IsAllowed.float {x : Binary64} (h : IsAllowed unbounded levels (.float x)) :
    x.isFinite = true ∨ unbounded = true ∧ 0 < levels := by
  by_cases hfinite : x.isFinite = true
  · exact .inl hfinite
  · have hroom := h.room
    rw [ofJson, depth, if_neg hfinite] at hroom
    exact .inr ⟨h.bounded.resolve_left hfinite, hroom⟩

/-- Inside a container there is one level less. -/
theorem IsAllowed.arr {items : List Json} (h : IsAllowed unbounded levels (.arr items)) :
    ∃ inner, levels = inner + 1 ∧ ∀ item ∈ items, IsAllowed unbounded inner item := by
  obtain ⟨inner, rfl⟩ := Nat.exists_eq_add_of_lt h.room
  refine ⟨_, rfl, fun item hitem => ⟨h.bounded.imp_left fun hbounded => ?_, ?_⟩⟩
  · exact forall_mem_ofItems.mp (areBounded_iff.mp hbounded) item hitem
  · exact forall_mem_ofItems.mp (depthItems_le_iff.mp (Nat.le_of_succ_le_succ h.room)) item hitem

theorem IsAllowed.obj {fields : List (String × Json)} (h : IsAllowed unbounded levels (.obj fields)) :
    ∃ inner, levels = inner + 1 ∧ ∀ field ∈ fields, IsAllowed unbounded inner field.2 := by
  obtain ⟨inner, rfl⟩ := Nat.exists_eq_add_of_lt h.room
  refine ⟨_, rfl, fun field hfield => ⟨h.bounded.imp_left fun hbounded => ?_, ?_⟩⟩
  · exact forall_mem_ofFields (P := (isBounded · = true)).mp (hasBounded_iff.mp hbounded) field hfield
  · exact forall_mem_ofFields (P := (depth · ≤ _)).mp
      (depthFields_le_iff.mp (Nat.le_of_succ_le_succ h.room)) field hfield

theorem skipSpaces_cons {c : Char} (h : isSpace c = false) : skipSpaces (c :: s) = c :: s := by
  rw [skipSpaces, List.dropWhile_cons_of_neg (by simp [h])]

theorem skipSpaces_newLine_append (level : Nat) (s : List Char) :
    skipSpaces (newLine level ++ s) = skipSpaces s := by
  have hmargin : ∀ c ∈ List.replicate (2 * level) ' ', isSpace c = true := by
    intro c hc
    rw [List.eq_of_mem_replicate hc]
    rfl
  rw [newLine, List.cons_append, skipSpaces, List.dropWhile_cons_of_pos rfl,
    List.dropWhile_append_of_pos hmargin, ← skipSpaces]

/-- The text of a value begins with a character that is no blank, ends no array and is no mark. -/
theorem exists_layout_eq_cons (level : Nat) (h : (ofJson value).IsReadable) :
    ∃ c s, layout level value = c :: s ∧ isSpace c = false ∧ c ≠ ']' ∧ c ≠ '\uFEFF' := by
  have hscalar : ∀ text, readScalar true 1 (text ++ []) = .ok (ofJson value, []) →
      ∃ c s, text = c :: s ∧ isSpace c = false ∧ c ≠ ']' ∧ c ≠ '\uFEFF' := by
    intro text hread
    obtain ⟨c, more, htext, hspace, hclose, hmark, -⟩ := exists_start_of_readScalar hread
    rw [List.append_nil] at htext
    exact ⟨c, more, htext, hspace, hclose, hmark⟩
  match value, h with
  | .null, _ => exact ⟨'n', _, rfl, by decide⟩
  | .bool b, _ => cases b <;> exact ⟨_, _, rfl, by decide⟩
  | .int n, .int _ hlength => exact hscalar _ (readScalar_showInt n hlength nofun)
  | .float x, .float _ hcanonical =>
    exact hscalar _ (readScalar_render hcanonical (.inr ⟨rfl, one_pos⟩) nofun)
  | .str text, _ => exact ⟨'"', _, rfl, by decide⟩
  | .arr items, _ => cases items <;> exact ⟨'[', _, rfl, by decide⟩
  | .obj fields, _ => cases fields <;> exact ⟨'\x7b', _, rfl, by decide⟩

theorem skipSpaces_layout (level : Nat) (h : (ofJson value).IsReadable) (rest : List Char) :
    skipSpaces (layout level value ++ rest) = layout level value ++ rest := by
  obtain ⟨c, s, htext, hblank, -⟩ := exists_layout_eq_cons level h
  rw [htext, List.cons_append, skipSpaces_cons hblank]

theorem endsNumber_cons {c : Char} (h : c.isDigit = false ∧ c ≠ '.' ∧ c ≠ 'e' ∧ c ≠ 'E')
    (s : List Char) : EndsNumber (c :: s) := by
  rintro _ ⟨⟩
  exact h

/-! #### Steps of the readers -/

variable {item : RawJson} {items : List RawJson} {fields : List (RawText × RawJson)}

theorem readValue_of_readScalar {result : RawJson × List Char}
    (h : readScalar unbounded levels s = .ok result) :
    readValue unbounded levels (fuel + 1) s = .ok result := by
  obtain ⟨c, more, rfl, -, -, -, hquote, hbracket, hbrace⟩ := exists_start_of_readScalar h
  rw [readValue, h] <;> simp [hquote, hbracket, hbrace]

theorem readValue_stringText (text : String) :
    readValue unbounded levels (fuel + 1) (stringText false text ++ rest) = .ok (.str text, rest) := by
  rw [stringText, List.cons_append, List.cons_append, List.append_assoc, List.singleton_append,
    readValue, readString_stringChars]
  rfl

theorem readValue_items {c : Char} (hfirst : skipSpaces s = c :: after) (hend : c ≠ ']')
    (hitems : readItems unbounded levels fuel (skipSpaces s) = .ok (items, rest)) :
    readValue unbounded (levels + 1) (fuel + 1) ('[' :: s) = .ok (.arr items, rest) := by
  rw [hfirst] at hitems
  rw [readValue]
  simp only [hfirst]
  split
  · simp_all
  · rw [hitems]

theorem readValue_fields (hfirst : skipSpaces s = '"' :: after) (hnodup : (Record.keys fields).Nodup)
    (hfields : readFields unbounded levels fuel (skipSpaces s) = .ok (fields, rest)) :
    readValue unbounded (levels + 1) (fuel + 1) ('\x7b' :: s) = .ok (.obj fields, rest) := by
  rw [hfirst] at hfields
  simp [readValue, hfirst, hfields, Record.ofFields_of_nodup hnodup]

theorem readItems_last (hitem : readValue unbounded levels fuel s = .ok (item, rest))
    (hend : skipSpaces rest = ']' :: after) :
    readItems unbounded levels (fuel + 1) s = .ok ([item], after) := by
  simp [readItems, hitem, hend]

theorem readItems_next (hitem : readValue unbounded levels fuel s = .ok (item, rest))
    (hcomma : skipSpaces rest = ',' :: more)
    (hitems : readItems unbounded levels fuel (skipSpaces more) = .ok (items, after)) :
    readItems unbounded levels (fuel + 1) s = .ok (item :: items, after) := by
  simp [readItems, hitem, hcomma, hitems]

theorem readFields_last (name : String)
    (hvalue : readValue unbounded levels fuel (skipSpaces s) = .ok (item, rest))
    (hend : skipSpaces rest = '\x7d' :: after) :
    readFields unbounded levels (fuel + 1) (stringText false name ++ ':' :: s) =
      .ok ([(.ofString name, item)], after) := by
  rw [stringText, List.cons_append, List.cons_append, List.append_assoc, List.singleton_append]
  simp [readFields, readString_stringChars, skipSpaces_cons (c := ':') rfl, hvalue, hend, RawText.ofString,
    RawText.ofChars]

theorem readFields_next (name : String)
    (hvalue : readValue unbounded levels fuel (skipSpaces s) = .ok (item, rest))
    (hcomma : skipSpaces rest = ',' :: more)
    (hfields : readFields unbounded levels fuel (skipSpaces more) = .ok (fields, after)) :
    readFields unbounded levels (fuel + 1) (stringText false name ++ ':' :: s) =
      .ok ((.ofString name, item) :: fields, after) := by
  rw [stringText, List.cons_append, List.cons_append, List.append_assoc, List.singleton_append]
  simp [readFields, readString_stringChars, skipSpaces_cons (c := ':') rfl, hvalue, hcomma, hfields,
    RawText.ofString, RawText.ofChars]

/-! #### Texts of containers -/

theorem skipSpaces_layoutItems (level : Nat) (h : (ofJson value).IsReadable) (items : List Json)
    (rest : List Char) :
    skipSpaces (layoutItems level (value :: items) ++ rest) =
      layout level value ++
        ((if items.isEmpty then [] else [',']) ++ (layoutItems level items ++ rest)) := by
  simp only [layoutItems, List.append_assoc, skipSpaces_newLine_append, skipSpaces_layout _ h]

theorem skipSpaces_layoutFields (level : Nat) (name : String) (value : Json)
    (fields : List (String × Json)) (rest : List Char) :
    skipSpaces (layoutFields level ((name, value) :: fields) ++ rest) =
      stringText false name ++ ':' :: ' ' :: (layout level value ++
        ((if fields.isEmpty then [] else [',']) ++ (layoutFields level fields ++ rest))) := by
  simp only [layoutFields, stringText, List.append_assoc, List.cons_append,
    skipSpaces_newLine_append]
  exact skipSpaces_cons rfl

theorem skipSpaces_end (level : Nat) {c : Char} (h : isSpace c = false) (rest : List Char) :
    skipSpaces (newLine level ++ [c] ++ rest) = c :: rest := by
  rw [List.append_assoc, skipSpaces_newLine_append, List.singleton_append, skipSpaces_cons h]

theorem skipSpaces_blank_layout (h : (ofJson value).IsReadable) (rest : List Char) :
    skipSpaces (' ' :: (layout level value ++ rest)) = layout level value ++ rest := by
  rw [skipSpaces, List.dropWhile_cons_of_pos rfl, ← skipSpaces, skipSpaces_layout _ h]

/-! #### Reading what was written -/

mutual

/-- **The text of a value** is read as that value, and what follows it is left. -/
theorem readValue_layout : (value : Json) → (ofJson value).IsReadable → (levels : Nat) →
    IsAllowed unbounded levels value → (fuel level : Nat) → (rest : List Char) → EndsNumber rest →
    (layout level value).length ≤ fuel →
    readValue unbounded levels fuel (layout level value ++ rest) = .ok (ofJson value, rest)
  | value, h, _, _, 0, level, rest, _, hfuel => by
    obtain ⟨c, s, htext, -⟩ := exists_layout_eq_cons level h
    simp [htext] at hfuel
  | .null, _, _, _, fuel + 1, _, _, _, _ => rfl
  | .bool true, _, _, _, fuel + 1, _, _, _, _ => rfl
  | .bool false, _, _, _, fuel + 1, _, _, _, _ => rfl
  | .int n, .int _ hlength, _, _, fuel + 1, _, _, hrest, _ =>
    readValue_of_readScalar (readScalar_showInt n hlength hrest)
  | .float x, .float _ hcanonical, _, hallowed, fuel + 1, _, _, hrest, _ =>
    readValue_of_readScalar (readScalar_render hcanonical hallowed.float hrest)
  | .str text, _, _, _, fuel + 1, _, _, _, _ => readValue_stringText text
  | .arr [], _, levels, hallowed, fuel + 1, _, _, _, _ => by
    obtain ⟨inner, rfl, -⟩ := hallowed.arr
    rfl
  | .arr (item :: items), .arr _ hitems, levels, hallowed, fuel + 1, level, rest, _, hfuel => by
    rw [layout, List.length_cons, Nat.add_le_add_iff_right] at hfuel
    obtain ⟨inner, rfl, hinner⟩ := hallowed.arr
    have hreadable := forall_mem_ofItems.mp hitems
    obtain ⟨c, s, htext, -, hend, -⟩ := exists_layout_eq_cons (level + 1) (hreadable item (.head _))
    have hfirst := skipSpaces_layoutItems (level + 1) (hreadable item (.head _)) items rest
    rw [htext, List.cons_append] at hfirst
    exact readValue_items hfirst hend
      (readItems_layoutItems item items hreadable inner hinner fuel (level + 1) rest hfuel)
  | .obj [], _, levels, hallowed, fuel + 1, _, _, _, _ => by
    obtain ⟨inner, rfl, -⟩ := hallowed.obj
    rfl
  | .obj ((name, value) :: fields), .obj _ hnodup hfields, levels, hallowed, fuel + 1, level, rest, _,
    hfuel => by
    rw [layout, List.length_cons, Nat.add_le_add_iff_right] at hfuel
    obtain ⟨inner, rfl, hinner⟩ := hallowed.obj
    have hfirst := skipSpaces_layoutFields (level + 1) name value fields rest
    rw [stringText, List.cons_append, List.cons_append] at hfirst
    exact readValue_fields hfirst hnodup
      (readFields_layoutFields name value fields (forall_mem_ofFields.mp hfields) inner hinner fuel (level + 1)
        rest hfuel)
termination_by _ _ _ _ fuel => fuel

/-- The items of an array are read up to its end. -/
theorem readItems_layoutItems : (item : Json) → (items : List Json) →
    (∀ other ∈ item :: items, (ofJson other).IsReadable) → (levels : Nat) →
    (∀ other ∈ item :: items, IsAllowed unbounded levels other) →
    (fuel level : Nat) → (rest : List Char) → (layoutItems level (item :: items)).length ≤ fuel →
    readItems unbounded levels fuel (skipSpaces (layoutItems level (item :: items) ++ rest)) =
      .ok (ofItems (item :: items), rest)
  | _, _, _, _, _, 0, _, _, hfuel => by
    simp [layoutItems, newLine] at hfuel
  | item, [], h, levels, hallowed, fuel + 1, level, rest, hfuel => by
    have hlength : (layout level item).length ≤ fuel := by
      simp [layoutItems, newLine] at hfuel
      omega
    have hitem := h item (.head _)
    rw [skipSpaces_layoutItems _ hitem]
    exact readItems_last
      (readValue_layout item hitem levels (hallowed item (.head _)) fuel level _
        (endsNumber_cons (by decide) _) hlength)
      (skipSpaces_end _ rfl rest)
  | item, next :: items, h, levels, hallowed, fuel + 1, level, rest, hfuel => by
    have hlength : (layout level item).length ≤ fuel ∧
        (layoutItems level (next :: items)).length ≤ fuel := by
      rw [layoutItems] at hfuel
      simp [newLine] at hfuel
      omega
    obtain ⟨hitem, hitems⟩ := List.forall_mem_cons.mp h
    obtain ⟨hallowed, hothers⟩ := List.forall_mem_cons.mp hallowed
    rw [skipSpaces_layoutItems _ hitem]
    exact readItems_next
      (readValue_layout item hitem levels hallowed fuel level _ (endsNumber_cons (by decide) _) hlength.1)
      (skipSpaces_cons rfl)
      (readItems_layoutItems next items hitems levels hothers fuel level rest hlength.2)
termination_by _ _ _ _ _ fuel => fuel

/-- The fields of an object are read up to its end. -/
theorem readFields_layoutFields : (name : String) → (value : Json) →
    (fields : List (String × Json)) → (∀ field ∈ (name, value) :: fields, (ofJson field.2).IsReadable) →
    (levels : Nat) → (∀ field ∈ (name, value) :: fields, IsAllowed unbounded levels field.2) →
    (fuel level : Nat) → (rest : List Char) →
    (layoutFields level ((name, value) :: fields)).length ≤ fuel →
    readFields unbounded levels fuel (skipSpaces (layoutFields level ((name, value) :: fields) ++ rest)) =
      .ok (ofFields ((name, value) :: fields), rest)
  | _, _, _, _, _, _, 0, _, _, hfuel => by
    simp [layoutFields, newLine] at hfuel
  | name, value, [], h, levels, hallowed, fuel + 1, level, rest, hfuel => by
    have hlength : (layout level value).length ≤ fuel := by
      simp [layoutFields, newLine] at hfuel
      omega
    have hfield : (ofJson value).IsReadable := h (name, value) (.head _)
    have hvalue := readValue_layout value hfield levels (hallowed (name, value) (.head _)) fuel level
      (layoutFields level [] ++ rest) (endsNumber_cons (by decide) _) hlength
    rw [← skipSpaces_blank_layout hfield] at hvalue
    rw [skipSpaces_layoutFields]
    exact readFields_last name hvalue (skipSpaces_end _ rfl rest)
  | name, value, (other, next) :: fields, h, levels, hallowed, fuel + 1, level, rest, hfuel => by
    have hlength : (layout level value).length ≤ fuel ∧
        (layoutFields level ((other, next) :: fields)).length ≤ fuel := by
      rw [layoutFields] at hfuel
      simp [newLine] at hfuel
      omega
    obtain ⟨hfield, hfields⟩ := List.forall_mem_cons.mp h
    obtain ⟨hallowed, hothers⟩ := List.forall_mem_cons.mp hallowed
    have hvalue := readValue_layout value hfield levels hallowed fuel level
      (',' :: (layoutFields level ((other, next) :: fields) ++ rest)) (endsNumber_cons (by decide) _)
      hlength.1
    rw [← skipSpaces_blank_layout hfield] at hvalue
    rw [skipSpaces_layoutFields]
    exact readFields_next name hvalue (skipSpaces_cons rfl)
      (readFields_layoutFields other next fields hfields levels hothers fuel level rest hlength.2)
termination_by _ _ _ _ _ _ fuel => fuel

end

theorem readDocument_layout (h : (ofJson value).IsReadable) (hallowed : IsAllowed unbounded levels value) :
    readDocument unbounded levels (layout 0 value) = .ok (ofJson value) := by
  have hlength : (layout 0 value).length ≤ 2 * (layout 0 value).length + 2 := by omega
  have hread := readValue_layout value h levels hallowed _ 0 [] nofun hlength
  have hblank := skipSpaces_layout 0 h []
  rw [List.append_nil] at hread hblank
  obtain ⟨c, s, htext, -, -, hmark⟩ := exists_layout_eq_cons 0 h
  rw [readDocument, hblank, hread]
  · rfl
  · rw [htext]
    rintro rest ⟨⟩
    exact hmark rfl

/-- **The text of a value over several lines** is read as that value. -/
theorem parse_pretty (h : (ofJson value).IsReadable) (hroom : (ofJson value).depth ≤ levels) :
    parse levels value.pretty = .ok (ofJson value) := by
  rw [parse, pretty, String.toList_ofList, readDocument_layout h ⟨.inr rfl, hroom⟩]
  rfl

/-- If all its numbers are finite, the text is read without constants for others as well. -/
theorem parseStrict_pretty (h : (ofJson value).IsReadable) (hbounded : (ofJson value).isBounded = true)
    (hroom : (ofJson value).depth ≤ levels) : parseStrict levels value.pretty = .ok (ofJson value) := by
  rw [parseStrict, pretty, String.toList_ofList, readDocument_layout h ⟨.inl hbounded, hroom⟩]
  rfl

end Values

/-! ### Values without numbers -/

mutual

/-- A value without numbers, whose objects have different names for their fields. -/
def IsTextual : Json → Prop
  | null | bool _ | str _ => True
  | int _ | float _ => False
  | arr items => AreTextual items
  | obj fields => (Record.keys fields).Nodup ∧ HasTextual fields

/-- A list of such values. -/
def AreTextual : List Json → Prop
  | [] => True
  | item :: items => IsTextual item ∧ AreTextual items

/-- Fields with such values. -/
def HasTextual : List (String × Json) → Prop
  | [] => True
  | (_, value) :: fields => IsTextual value ∧ HasTextual fields

end

mutual

theorem IsTextual.isReadable : {value : Json} → IsTextual value → (ofJson value).IsReadable
  | .null, _ => .null
  | .bool value, _ => .bool value
  | .str text, _ => .str text
  | .arr _, h => .arr _ (forall_mem_ofItems.mpr (AreTextual.isReadable h))
  | .obj _, h => .obj _ (nodup_keys_ofFields.mpr h.1) (forall_mem_ofFields.mpr (HasTextual.isReadable h.2))

theorem AreTextual.isReadable : {items : List Json} → AreTextual items →
    ∀ item ∈ items, (ofJson item).IsReadable
  | [], _ => nofun
  | _ :: _, h => List.forall_mem_cons.mpr ⟨h.1.isReadable, h.2.isReadable⟩

theorem HasTextual.isReadable : {fields : List (String × Json)} → HasTextual fields →
    ∀ field ∈ fields, (ofJson field.2).IsReadable
  | [], _ => nofun
  | (_, _) :: _, h => List.forall_mem_cons.mpr ⟨h.1.isReadable, h.2.isReadable⟩

end

mutual

theorem IsTextual.isBounded : {value : Json} → IsTextual value → (ofJson value).isBounded = true
  | .null, _ | .bool _, _ | .str _, _ => rfl
  | .arr _, h => AreTextual.areBounded h
  | .obj _, h => HasTextual.hasBounded h.2

theorem AreTextual.areBounded : {items : List Json} → AreTextual items → areBounded (ofItems items) = true
  | [], _ => rfl
  | _ :: _, h => Bool.and_eq_true_iff.mpr ⟨h.1.isBounded, h.2.areBounded⟩

theorem HasTextual.hasBounded : {fields : List (String × Json)} → HasTextual fields →
    hasBounded (ofFields fields) = true
  | [], _ => rfl
  | (_, _) :: _, h => Bool.and_eq_true_iff.mpr ⟨h.1.isBounded, h.2.hasBounded⟩

end

end PromptPress.Json
