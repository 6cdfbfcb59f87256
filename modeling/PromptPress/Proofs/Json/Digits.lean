import Mathlib.Tactic.Common
import PromptPress.Json.Parser
import PromptPress.Proofs.Outcome

/-!
# Numbers that are too long and texts that are too deep

Reading a text fails for the length of a number only if the number stands in the text: as a run of more
digits than a reader takes (`hasLongRun_of_parse`). It fails for its depth only if about as many brackets
open in the text as there are levels (`levels_le_of_parse`), and it does so if these stand at its beginning
(`parse_brackets`). Every reader keeps to the text that it is given: what it leaves is the end of that text,
a number that it finds too long is a part of it, and each level that it takes is a bracket of it.
-/

namespace PromptPress.Json

open PromptPress.Text PromptPress.Number

/-- A text holds so many digits in a row, more than a reader takes. -/
def HasLongRun (count : Nat) (s : List Char) : Prop :=
  maxDigits < count ∧ ∃ digits, digits <:+: s ∧ digits.length = count ∧ ∀ c ∈ digits, c.isDigit = true

/-- How many brackets and braces open in a text. -/
def openings (s : List Char) : Nat :=
  s.countP fun c => c == '[' || c == '\x7b'

/-- A reader with some levels left keeps to a text. -/
structure KeepsTo {α : Type} (levels : Nat) (s : List Char) (result : Except Fault (α × List Char)) :
    Prop where
  rest : ∀ a rest, result = .ok (a, rest) → rest <:+ s
  run : ∀ count, result = .error (.tooManyDigits count) → HasLongRun count s
  deep : ∀ overflow, result = .error (.tooDeep overflow) → levels ≤ openings s + 1

variable {α β : Type} {s t : List Char} {result : Except Fault (α × List Char)} {count fuel levels : Nat}

theorem openings_le_of_suffix (h : t <:+ s) : openings t ≤ openings s :=
  h.sublist.countP_le

theorem HasLongRun.of_isInfix (h : HasLongRun count t) (hpart : t <:+: s) : HasLongRun count s := by
  obtain ⟨hcount, digits, hrun, hdigits⟩ := h
  exact ⟨hcount, digits, hrun.trans hpart, hdigits⟩

namespace KeepsTo

theorem of_suffix (h : KeepsTo levels t result) (hsuffix : t <:+ s) : KeepsTo levels s result :=
  ⟨fun a rest hresult => (h.rest a rest hresult).trans hsuffix,
    fun count hresult => (h.run count hresult).of_isInfix hsuffix.isInfix,
    fun overflow hresult =>
      Nat.le_trans (h.deep overflow hresult) (Nat.add_le_add_right (openings_le_of_suffix hsuffix) 1)⟩

theorem ok {a : α} (h : t <:+ s) : KeepsTo levels s (.ok (a, t)) :=
  ⟨fun _ _ hresult => by cases hresult; exact h, fun _ => nofun, fun _ => nofun⟩

theorem at_reason (reason : Reason) (left : Nat) :
    KeepsTo levels s (.error (.at reason left) : Except Fault (α × List Char)) :=
  ⟨fun _ _ => nofun, fun _ => nofun, fun _ => nofun⟩

theorem tooDeep (overflow : Overflow) (h : levels ≤ openings s + 1) :
    KeepsTo levels s (.error (.tooDeep overflow) : Except Fault (α × List Char)) :=
  ⟨fun _ _ => nofun, fun _ => nofun, fun _ _ => h⟩

/-- A fault of a reader is passed on. -/
theorem error {fault : Fault} (h : KeepsTo levels s (.error fault : Except Fault (α × List Char))) :
    KeepsTo levels s (.error fault : Except Fault (β × List Char)) :=
  ⟨fun _ _ => nofun, fun count hfault => h.run count (by cases hfault; rfl),
    fun overflow hfault => h.deep overflow (by cases hfault; rfl)⟩

/-- A reader inside a container has one level less, and the container has opened. -/
theorem inside {c : Char} (h : KeepsTo levels t result) (hopen : (c == '[' || c == '\x7b') = true)
    (hsuffix : t <:+ s) : KeepsTo (levels + 1) (c :: s) result := by
  have hinner := h.of_suffix hsuffix
  refine ⟨fun a rest hresult => (hinner.rest a rest hresult).trans (List.suffix_cons ..),
    fun count hresult => (hinner.run count hresult).of_isInfix (List.suffix_cons ..).isInfix,
    fun overflow hresult => ?_⟩
  have hcount : openings (c :: s) = openings s + 1 := List.countP_cons_of_pos hopen
  have hlevels := hinner.deep overflow hresult
  omega

theorem consPoint {p : RawPoint} {result : Except Fault (List RawPoint × List Char)}
    (h : KeepsTo levels s result) : KeepsTo levels s (consPoint p result) := by
  cases result with
  | ok value => exact ok (h.rest _ _ rfl)
  | error fault => exact h

end KeepsTo

/-! ### Strings and numbers -/

theorem keepsTo_readString (start : Nat) (s : List Char) : KeepsTo levels s (readString start s) := by
  -- faults, the end of the string, and the characters and escapes after which reading goes on
  fun_induction readString start s with
  | case1 | case3 | case4 | case5 | case10 | case12 | case13 => exact .at_reason ..
  | case2 rest => exact .ok (List.suffix_cons ..)
  | case6 _ _ _ _ _ _ _ _ _ _ _ _ _ _ _ _ _ ih =>
    exact (ih.of_suffix ⟨[_, _, _, _, _, _, _, _, _, _, _, _], rfl⟩).consPoint
  | case7 _ _ _ _ _ _ _ _ _ _ _ _ _ _ _ _ ih | case8 _ _ _ _ _ _ _ _ _ _ ih
  | case9 _ _ _ _ _ _ _ _ _ ih => exact (ih.of_suffix ⟨[_, _, _, _, _, _], rfl⟩).consPoint
  | case11 _ _ _ _ _ _ ih => exact (ih.of_suffix ⟨[_, _], rfl⟩).consPoint
  | case14 _ _ _ _ _ _ _ _ ih => exact (ih.of_suffix (List.suffix_cons ..)).consPoint

theorem takeSign_suffix (s : List Char) : (takeSign s).2 <:+ s := by
  unfold takeSign
  split
  · exact List.suffix_cons ..
  · exact List.suffix_cons ..
  · exact List.suffix_rfl

theorem takeFraction_suffix (s : List Char) : (takeFraction s).2 <:+ s := by
  unfold takeFraction
  split
  · split_ifs
    · exact (List.dropWhile_suffix _).trans (List.suffix_cons ..)
    · exact List.suffix_rfl
  · exact List.suffix_rfl

theorem takeExponent_suffix (s : List Char) : (takeExponent s).2.2 <:+ s := by
  unfold takeExponent
  split
  · exact List.suffix_rfl
  · next c cs =>
    have hrest : (spanDigits (takeSign cs).2).2 <:+ c :: cs :=
      ((List.dropWhile_suffix _).trans (takeSign_suffix cs)).trans (List.suffix_cons ..)
    dsimp only
    split_ifs
    · split
      · exact List.suffix_rfl
      · next hspan => rwa [hspan] at hrest
    · exact List.suffix_rfl

theorem takeWhole_suffix (s : List Char) : (takeWhole s).2 <:+ s := by
  unfold takeWhole
  split
  · exact List.suffix_cons ..
  · exact List.dropWhile_suffix _

/-- The digits before the point stand in the text. -/
theorem takeWhole_digits (s : List Char) :
    (takeWhole s).1 <:+: s ∧ ∀ c ∈ (takeWhole s).1, c.isDigit = true := by
  unfold takeWhole
  split
  · exact ⟨⟨[], _, rfl⟩, by simp⟩
  · exact ⟨(List.takeWhile_prefix _).isInfix, fun c hc => (List.all_eq_true.mp List.all_takeWhile) c hc⟩

theorem keepsTo_readNumber (negative : Bool) (s : List Char) : KeepsTo levels s (readNumber negative s) := by
  have hrest : (takeExponent (takeFraction (takeWhole s).2).2).2.2 <:+ s :=
    ((takeExponent_suffix _).trans (takeFraction_suffix _)).trans (takeWhole_suffix s)
  obtain ⟨hpart, hdigits⟩ := takeWhole_digits s
  dsimp only [readNumber]
  split_ifs with hnone hwhole hlong
  · exact .at_reason ..
  · -- only a whole number is limited, by the digits before the point
    refine ⟨fun _ _ => nofun, fun count hresult => ?_, fun _ => nofun⟩
    cases hresult
    exact ⟨hlong, _, hpart, rfl, hdigits⟩
  all_goals exact .ok hrest

theorem suffix_of_named {text : String} {a b : α} (h : (dropStart? text.toList s).map (a, ·) = some (b, t)) :
    t <:+ s := by
  obtain ⟨rest, hrest, heq⟩ := Option.map_eq_some_iff.mp h
  cases heq
  exact ⟨_, (dropStart?_eq_some_iff.mp hrest).symm⟩

theorem suffix_of_constantOf? {value : RawJson} (h : constantOf? s = some (value, t)) : t <:+ s := by
  simp only [constantOf?, Option.orElse_eq_orElse, Option.orElse_eq_or, Option.or_eq_some_iff] at h
  obtain hnull | ⟨-, htrue | ⟨-, hfalse⟩⟩ := h
  · exact suffix_of_named hnull
  · exact suffix_of_named htrue
  · exact suffix_of_named hfalse

theorem suffix_of_numberConstantOf? {x : Binary64} (h : numberConstantOf? s = some (x, t)) : t <:+ s := by
  simp only [numberConstantOf?, Option.orElse_eq_orElse, Option.orElse_eq_or, Option.or_eq_some_iff] at h
  obtain hnan | ⟨-, hinfinite | ⟨-, hnegative⟩⟩ := h
  · exact suffix_of_named hnan
  · exact suffix_of_named hinfinite
  · exact suffix_of_named hnegative

theorem keepsTo_readNumberConstant (unbounded : Bool) (x : Binary64) (h : t <:+ s) :
    KeepsTo levels s (readNumberConstant unbounded levels x s t) := by
  have htwo : (if unbounded then 1 else 2) ≤ 2 := by split_ifs <;> omega
  rw [readNumberConstant]
  by_cases hlevels : levels < if unbounded then 1 else 2
  · -- such a constant takes two levels at most
    rw [if_pos hlevels]
    exact .tooDeep _ (by omega)
  · rw [if_neg hlevels]
    split_ifs
    · exact .ok h
    · exact .at_reason ..

theorem keepsTo_readScalar (unbounded : Bool) (s : List Char) :
    KeepsTo levels s (readScalar unbounded levels s) := by
  unfold readScalar
  split
  · next hconstant => exact .ok (suffix_of_constantOf? hconstant)
  · split
    · next hconstant => exact keepsTo_readNumberConstant unbounded _ (suffix_of_numberConstantOf? hconstant)
    · split
      · exact (keepsTo_readNumber true _).of_suffix (List.suffix_cons ..)
      · exact keepsTo_readNumber false _

/-! ### Values -/

theorem skipSpaces_suffix (s : List Char) : skipSpaces s <:+ s :=
  List.dropWhile_suffix _

/-- The readers of values, items and fields keep to every text, as deep as the fuel allows. -/
structure ReadersKeep (unbounded : Bool) (fuel : Nat) : Prop where
  value : ∀ levels s, KeepsTo levels s (readValue unbounded levels fuel s)
  items : ∀ levels s, KeepsTo levels s (readItems unbounded levels fuel s)
  fields : ∀ levels s, KeepsTo levels s (readFields unbounded levels fuel s)

variable {unbounded : Bool}

theorem ReadersKeep.value_succ (h : ReadersKeep unbounded fuel) (levels : Nat) (s : List Char) :
    KeepsTo levels s (readValue unbounded levels (fuel + 1) s) := by
  rw [readValue.eq_def]
  dsimp only
  split
  · exact .at_reason ..
  · next rest =>
    have hstring : KeepsTo levels ('"' :: rest) (readString (rest.length + 1) rest) :=
      (keepsTo_readString (rest.length + 1) rest).of_suffix (List.suffix_cons '"' rest)
    split
    · next hread => exact .ok (hstring.rest _ _ hread)
    · next hread => exact (hread ▸ hstring).error
  · next rest =>
    cases levels with
    | zero => exact .tooDeep _ (Nat.zero_le _)
    | succ levels =>
      dsimp only
      split
      · next hclosed =>
        exact .ok ((List.suffix_cons ..).trans
          ((hclosed ▸ skipSpaces_suffix rest).trans (List.suffix_cons ..)))
      · have hitems := (h.items levels (skipSpaces rest)).inside (c := '[') rfl (skipSpaces_suffix rest)
        split
        · next hread => exact .ok (hitems.rest _ _ hread)
        · next hread => exact (hread ▸ hitems).error
  · next rest =>
    cases levels with
    | zero => exact .tooDeep _ (Nat.zero_le _)
    | succ levels =>
      dsimp only
      split
      · next hclosed =>
        exact .ok ((List.suffix_cons ..).trans
          ((hclosed ▸ skipSpaces_suffix rest).trans (List.suffix_cons ..)))
      · have hfields := (h.fields levels (skipSpaces rest)).inside (c := '\x7b') rfl (skipSpaces_suffix rest)
        split
        · next hread => exact .ok (hfields.rest _ _ hread)
        · next hread => exact (hread ▸ hfields).error
  · exact keepsTo_readScalar unbounded _

/-- What follows a mark after some blanks is the end of the text. -/
theorem suffix_of_skipSpaces {c : Char} {rest : List Char} (hmark : skipSpaces t = c :: rest) (h : t <:+ s) :
    rest <:+ s :=
  ((List.suffix_cons c rest).trans (hmark ▸ skipSpaces_suffix t)).trans h

theorem ReadersKeep.items_succ (h : ReadersKeep unbounded fuel) (levels : Nat) (s : List Char) :
    KeepsTo levels s (readItems unbounded levels (fuel + 1) s) := by
  have hvalue := h.value levels s
  rw [readItems]
  split
  · next hread => exact (hread ▸ hvalue).error
  · next hread =>
    have hrest := hvalue.rest _ _ hread
    split
    · next hclosed => exact .ok (suffix_of_skipSpaces hclosed hrest)
    · next rest hcomma =>
      have hitems := (h.items levels (skipSpaces rest)).of_suffix
        ((skipSpaces_suffix rest).trans (suffix_of_skipSpaces hcomma hrest))
      split
      · next hread => exact .ok (hitems.rest _ _ hread)
      · next hread => exact (hread ▸ hitems).error
    · exact .at_reason ..

theorem ReadersKeep.fields_succ (h : ReadersKeep unbounded fuel) (levels : Nat) (s : List Char) :
    KeepsTo levels s (readFields unbounded levels (fuel + 1) s) := by
  rw [readFields.eq_def]
  dsimp only
  split
  · next rest =>
    have hname : KeepsTo levels ('"' :: rest) (readString (rest.length + 1) rest) :=
      (keepsTo_readString (rest.length + 1) rest).of_suffix (List.suffix_cons '"' rest)
    split
    · next hread => exact (hread ▸ hname).error
    · next hread =>
      have hnamed := hname.rest _ _ hread
      split
      · next rest hcolon =>
        have hvalue := (h.value levels (skipSpaces rest)).of_suffix
          ((skipSpaces_suffix rest).trans (suffix_of_skipSpaces hcolon hnamed))
        split
        · next hread => exact (hread ▸ hvalue).error
        · next hread =>
          have hrest := hvalue.rest _ _ hread
          split
          · next hclosed => exact .ok (suffix_of_skipSpaces hclosed hrest)
          · next rest hcomma =>
            have hfields := (h.fields levels (skipSpaces rest)).of_suffix
              ((skipSpaces_suffix rest).trans (suffix_of_skipSpaces hcomma hrest))
            split
            · next hread => exact .ok (hfields.rest _ _ hread)
            · next hread => exact (hread ▸ hfields).error
          · exact .at_reason ..
      · exact .at_reason ..
  · exact .at_reason ..

theorem readersKeep (unbounded : Bool) (fuel : Nat) : ReadersKeep unbounded fuel := by
  induction fuel with
  | zero =>
    refine ⟨fun levels s => ?_, fun levels s => ?_, fun levels s => ?_⟩
    · rw [readValue]
      exact .at_reason ..
    · rw [readItems]
      exact .at_reason ..
    · rw [readFields]
      exact .at_reason ..
  | succ fuel ih => exact ⟨ih.value_succ, ih.items_succ, ih.fields_succ⟩

/-- A value that opens with more brackets than there are levels is too deep. -/
theorem readValue_brackets {count fuel : Nat} (hcount : levels < count) (hfuel : 2 * count ≤ fuel) :
    readValue unbounded levels fuel (List.replicate count '[' ++ s) = .error (.tooDeep .array) := by
  -- each bracket takes a level and two steps
  induction levels generalizing count fuel with
  | zero =>
    obtain ⟨count, rfl⟩ : ∃ n, count = n + 1 := ⟨count - 1, by omega⟩
    obtain ⟨fuel, rfl⟩ : ∃ n, fuel = n + 1 := ⟨fuel - 1, by omega⟩
    rw [List.replicate_succ, List.cons_append, readValue]
  | succ levels ih =>
    obtain ⟨count, rfl⟩ : ∃ n, count = n + 2 := ⟨count - 2, by omega⟩
    obtain ⟨fuel, rfl⟩ : ∃ n, fuel = n + 2 := ⟨fuel - 2, by omega⟩
    have hinner : readValue unbounded levels fuel (List.replicate (count + 1) '[' ++ s) =
        .error (.tooDeep .array) := ih (by omega) (by omega)
    have hitems : readItems unbounded levels (fuel + 1) (List.replicate (count + 1) '[' ++ s) =
        .error (.tooDeep .array) := by
      rw [readItems, hinner]
    have hopen : skipSpaces (List.replicate (count + 1) '[' ++ s) = List.replicate (count + 1) '[' ++ s := rfl
    rw [List.replicate_succ, List.cons_append, readValue]
    simp only [hopen]
    split
    · next hclosed => cases hclosed
    · rw [hitems]

/-! ### Whole texts -/

variable {text : String}

/-- A whole text is kept to as well. -/
theorem run_and_deep_of_readDocument {fault : Fault} (h : readDocument unbounded levels s = .error fault) :
    (∀ count, fault = .tooManyDigits count → HasLongRun count s) ∧
      ∀ overflow, fault = .tooDeep overflow → levels ≤ openings s + 1 := by
  unfold readDocument at h
  split at h
  · cases h
    exact ⟨fun _ => nofun, fun _ => nofun⟩
  · split at h
    · next hread =>
      cases h
      have hvalue := ((readersKeep unbounded (2 * s.length + 2)).value levels (skipSpaces s)).of_suffix
        (skipSpaces_suffix s)
      exact ⟨fun count hfault => hvalue.run count (hfault ▸ hread),
        fun overflow hfault => hvalue.deep overflow (hfault ▸ hread)⟩
    · split at h <;> cases h
      exact ⟨fun _ => nofun, fun _ => nofun⟩

theorem readDocument_of_error {e : ReadError}
    (h : (readDocument unbounded levels s).mapError (Fault.toError s) = .error e) :
    ∃ fault, readDocument unbounded levels s = .error fault ∧ fault.toError s = e :=
  Outcome.mapError_eq_error_iff.mp h

/-- **A text whose numbers are too long holds a run of that many digits.** -/
theorem hasLongRun_of_parse (h : parse levels text = .error (.tooManyDigits count)) :
    HasLongRun count text.toList := by
  obtain ⟨fault, hread, hfault⟩ := readDocument_of_error h
  refine (run_and_deep_of_readDocument hread).1 count ?_
  cases fault <;> cases hfault
  rfl

theorem levels_le_of_error {overflow : Overflow}
    (h : (readDocument unbounded levels s).mapError (Fault.toError s) = .error (.tooDeep overflow)) :
    levels ≤ openings s + 1 := by
  obtain ⟨fault, hread, hfault⟩ := readDocument_of_error h
  refine (run_and_deep_of_readDocument hread).2 overflow ?_
  cases fault <;> cases hfault
  rfl

/-- **In a text that is too deep about as many brackets open as there are levels.** -/
theorem levels_le_of_parse {overflow : Overflow} (h : parse levels text = .error (.tooDeep overflow)) :
    levels ≤ openings text.toList + 1 :=
  levels_le_of_error h

theorem levels_le_of_parseStrict {overflow : Overflow}
    (h : parseStrict levels text = .error (.tooDeep overflow)) : levels ≤ openings text.toList + 1 :=
  levels_le_of_error h

theorem readDocument_brackets (unbounded : Bool) (h : levels < count) :
    readDocument unbounded levels (List.replicate count '[') = .error (.tooDeep .array) := by
  obtain ⟨count, rfl⟩ : ∃ n, count = n + 1 := ⟨count - 1, by omega⟩
  have hvalue : readValue unbounded levels (2 * (count + 1) + 2) (List.replicate (count + 1) '[' ++ []) =
      .error (.tooDeep .array) := readValue_brackets h (by omega)
  rw [List.append_nil] at hvalue
  have hopen : skipSpaces (List.replicate (count + 1) '[') = List.replicate (count + 1) '[' := rfl
  rw [readDocument.eq_def]
  split
  · next hmark => cases hmark
  · rw [List.length_replicate, hopen, hvalue]

/-- **A text of more brackets than there are levels is too deep.** -/
theorem parse_brackets (h : levels < count) :
    parse levels (String.ofList (List.replicate count '[')) = .error (.tooDeep .array) := by
  rw [parse, String.toList_ofList, readDocument_brackets true h]
  rfl

end PromptPress.Json
