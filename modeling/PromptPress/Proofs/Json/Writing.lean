import PromptPress.Json.Printer
import PromptPress.Proofs.Json.Values
import PromptPress.Proofs.Outcome

/-!
# Values that are written

A value that was read is written to a file exactly if it fits on the stack, all its numbers are finite and no
surrogate in it is loose; then it is a value of the data format, and that value is written
(`written_eq_ok_iff`). A value fits if it was read with a level to spare (`fits_of_depth_lt`).
-/

namespace PromptPress.RawJson

variable {levels depth : Nat} {mark : Char} {before : List Char} {t : RawText} {s : String}
  {x : Binary64} {w : Json}

/-! ### Texts and numbers -/

/-- What is written for a text can be encoded if the text can. -/
theorem fault?_chunk : (chunk before t).fault? = none ↔ t.isLoose = false := by
  rw [RawText.fault?_eq_none_iff, chunk, RawText.isLoose, RawText.isLoose]
  induction t.points with
  | nil => simp [RawPoint.isLoose, Function.comp_def]
  | cons point points ih =>
    cases point <;> simp_all [RawPoint.isLoose, Function.comp_def]

theorem writtenText_eq_ok_iff : writtenText before t = .ok s ↔ t = .ofString s := by
  rw [writtenText]
  split
  · next hfault =>
    have hloose := fault?_chunk.mp hfault
    refine ⟨fun h => ?_, fun h => ?_⟩
    · rw [← Except.ok.inj h, RawText.ofString_replaced hloose]
    · rw [h, RawText.replaced_ofString]
  · next hfault =>
    refine ⟨nofun, ?_⟩
    rintro rfl
    rw [fault?_chunk.mpr (RawText.isLoose_ofString s)] at hfault
    cases hfault

theorem writtenNumber_eq_ok_iff :
    writtenNumber levels x = .ok w ↔ 0 < levels ∧ x.isFinite = true ∧ w = .float x := by
  rw [writtenNumber]
  split_ifs with hfinite hroom hroom
  · have hnone : levels = 0 := Nat.lt_one_iff.mp hroom
    simp [hnone]
  · have hsome : 0 < levels := Nat.pos_of_ne_zero fun h => hroom (by omega)
    simp only [hfinite, hsome, true_and, Except.ok.injEq, eq_comm]
  · simp [hfinite]
  · simp [hfinite]

/-! ### Values -/

mutual

/-- **A value is written** exactly if it fits, is bounded and is a value of the data format. -/
theorem written_eq_ok_iff : (value : RawJson) → (levels depth : Nat) → (before : List Char) → (w : Json) →
    (written levels before depth value = .ok w ↔
      value.fits levels = true ∧ value.isBounded = true ∧ value = ofJson w)
  | null, _, _, _, w => by cases w <;> simp [written, fits, isBounded, ofJson]
  | bool b, _, _, _, w => by cases w <;> simp [written, fits, isBounded, ofJson, eq_comm]
  | int n, _, _, _, w => by cases w <;> simp [written, fits, isBounded, ofJson, eq_comm]
  | float x, levels, _, _, w => by
    rw [written, writtenNumber_eq_ok_iff, eq_comm (a := w)]
    cases w <;> simp [fits, isBounded, ofJson]
  | str t, _, _, before, w => by
    rw [written, Outcome.map_eq_ok_iff]
    cases w <;> simp [writtenText_eq_ok_iff, fits, isBounded, ofJson]
  | arr [], _, _, _, w => by
    rcases w with _ | _ | _ | _ | _ | (_ | _) | _ <;> simp [written, fits, isBounded, areBounded, ofJson, ofItems]
  | arr (item :: items), 0, _, _, w => by simp [written, fits]
  | arr (item :: items), levels + 1, depth, _, w => by
    rw [written, Outcome.map_eq_ok_iff]
    simp only [writtenItems_eq_ok_iff]
    cases w <;> simp [fits, isBounded, ofJson]
  | obj [], _, _, _, w => by
    rcases w with _ | _ | _ | _ | _ | _ | (_ | _) <;> simp [written, fits, isBounded, hasBounded, ofJson, ofFields]
  | obj (field :: fields), 0, _, _, w => by simp [written, fits]
  | obj (field :: fields), levels + 1, depth, _, w => by
    rw [written, Outcome.map_eq_ok_iff]
    simp only [writtenFields_eq_ok_iff]
    cases w <;> simp [fits, isBounded, ofJson]

theorem writtenItems_eq_ok_iff : (items : List RawJson) → (levels depth : Nat) → (mark : Char) →
    (ws : List Json) → (writtenItems levels depth mark items = .ok ws ↔
      fitsItems levels items = true ∧ areBounded items = true ∧ items = ofItems ws)
  | [], _, _, _, ws => by cases ws <;> simp [writtenItems, fitsItems, areBounded, ofItems]
  | item :: items, levels, depth, mark, ws => by
    simp only [writtenItems, Outcome.bind_eq_ok_iff, pure, Except.pure, Except.ok.injEq, written_eq_ok_iff item,
      writtenItems_eq_ok_iff items]
    cases ws with
    | nil => simp [ofItems]
    | cons w ws =>
      simp only [fitsItems, areBounded, ofItems, Bool.and_eq_true, List.cons.injEq]
      grind

theorem writtenFields_eq_ok_iff : (fields : List (RawText × RawJson)) → (levels depth : Nat) →
    (ws : List (String × Json)) → (writtenFields levels depth fields = .ok ws ↔
      fitsFields levels fields = true ∧ hasBounded fields = true ∧ fields = ofFields ws)
  | [], _, _, ws => by cases ws <;> simp [writtenFields, fitsFields, hasBounded, ofFields]
  | (name, value) :: fields, levels, depth, ws => by
    simp only [writtenFields, Outcome.bind_eq_ok_iff, pure, Except.pure, Except.ok.injEq, writtenText_eq_ok_iff,
      written_eq_ok_iff value, writtenFields_eq_ok_iff fields]
    cases ws with
    | nil => simp [ofFields]
    | cons w ws =>
      simp only [fitsFields, hasBounded, ofFields, Bool.and_eq_true, List.cons.injEq]
      grind

end

/-! ### Room on the stack -/

theorem fitsFields_iff {fields : List (RawText × RawJson)} :
    fitsFields levels fields = true ↔ ∀ field ∈ fields, field.2.fits levels = true := by
  induction fields with
  | nil => simp [fitsFields]
  | cons field fields ih => simp [fitsFields, ih]

/-- An object is written on one level, and its fields on those below. -/
theorem fits_obj_iff {fields : List (RawText × RawJson)} (h : 0 < levels) :
    (obj fields).fits levels = true ↔ ∀ field ∈ fields, field.2.fits (levels - 1) = true := by
  obtain ⟨inner, rfl⟩ := Nat.exists_eq_add_of_lt h
  cases fields with
  | nil => simp [fits]
  | cons field fields => exact fitsFields_iff

mutual

/-- What was read with a level to spare fits: writing takes one more for a number and none for an empty
container. -/
theorem fits_of_depth_lt : (value : RawJson) → (levels : Nat) → value.depth < levels →
    value.fits levels = true
  | null, _, _ | bool _, _, _ | int _, _, _ | str _, _, _ | arr [], _, _ | obj [], _, _ => rfl
  | float _, _, h => decide_eq_true (Nat.zero_lt_of_lt h)
  | arr (item :: items), levels + 1, h =>
    fitsItems_of_depthItems_lt (item :: items) levels (Nat.lt_of_succ_lt_succ h)
  | obj (field :: fields), levels + 1, h =>
    fitsFields_of_depthFields_lt (field :: fields) levels (Nat.lt_of_succ_lt_succ h)

theorem fitsItems_of_depthItems_lt : (items : List RawJson) → (levels : Nat) → depthItems items < levels →
    fitsItems levels items = true
  | [], _, _ => rfl
  | item :: items, levels, h => by
    obtain ⟨hitem, hitems⟩ := Nat.max_lt.mp h
    rw [fitsItems, fits_of_depth_lt item levels hitem, fitsItems_of_depthItems_lt items levels hitems,
      Bool.and_self]

theorem fitsFields_of_depthFields_lt : (fields : List (RawText × RawJson)) → (levels : Nat) →
    depthFields fields < levels → fitsFields levels fields = true
  | [], _, _ => rfl
  | (_, value) :: fields, levels, h => by
    obtain ⟨hvalue, hfields⟩ := Nat.max_lt.mp h
    rw [fitsFields, fits_of_depth_lt value levels hvalue, fitsFields_of_depthFields_lt fields levels hfields,
      Bool.and_self]

end

end PromptPress.RawJson
