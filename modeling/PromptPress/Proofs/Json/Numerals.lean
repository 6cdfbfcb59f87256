import Mathlib.Algebra.Order.Field.Rat
import PromptPress.Json.Parser
import PromptPress.Json.Printer
import PromptPress.Proofs.Number.Shortest
import PromptPress.Proofs.Text.Pieces

/-!
# Reading numbers that were written

The text of a whole number is read as that number, if it is not too long (`readScalar_showInt`), and the
text of a finite floating point number as that number (`readScalar_render`). The digits before the point,
the fraction and the exponent each have a law of their own; the four forms of decimal text are put
together from them.
-/

namespace PromptPress.Json

open PromptPress.Text PromptPress.Number

variable {negative unbounded : Bool} {levels : Nat} {digits whole fraction rest : List Char} {n : Nat} {k : Int}

/-! ### Runs of digits -/

/-- A run of digits. -/
def AreDigits (digits : List Char) : Prop :=
  ∀ c ∈ digits, c.isDigit = true

/-- The digits before the point of a number: one zero, or digits that do not begin with one. -/
structure IsWhole (whole : List Char) : Prop where
  digits : AreDigits whole
  ne_nil : whole ≠ []
  leading : whole = ['0'] ∨ whole.head? ≠ some '0'

/-- No number goes on into a text. -/
def EndsNumber (rest : List Char) : Prop :=
  ∀ c ∈ rest.head?, c.isDigit = false ∧ c ≠ '.' ∧ c ≠ 'e' ∧ c ≠ 'E'

/-- No run of digits goes on into a text. -/
def EndsDigits (rest : List Char) : Prop :=
  ∀ c ∈ rest.head?, c.isDigit = false

theorem EndsNumber.endsDigits (h : EndsNumber rest) : EndsDigits rest :=
  fun c hc => (h c hc).1

theorem endsDigits_cons {c : Char} (h : c.isDigit = false) (s : List Char) : EndsDigits (c :: s) := by
  rintro _ ⟨⟩
  exact h

theorem AreDigits.append (hwhole : AreDigits whole) (hdigits : AreDigits digits) :
    AreDigits (whole ++ digits) :=
  List.forall_mem_append.mpr ⟨hwhole, hdigits⟩

theorem AreDigits.take (h : AreDigits digits) (count : Nat) : AreDigits (digits.take count) :=
  fun c hc => h c (List.mem_of_mem_take hc)

theorem AreDigits.drop (h : AreDigits digits) (count : Nat) : AreDigits (digits.drop count) :=
  fun c hc => h c (List.mem_of_mem_drop hc)

theorem areDigits_zeros (n : Nat) : AreDigits (List.replicate n '0') := by
  intro c hc
  rw [List.eq_of_mem_replicate hc]
  rfl

theorem areDigits_showNat (n : Nat) : AreDigits (showNat n) :=
  fun _ hc => Nat.isDigit_of_mem_toDigits (by norm_num) le_rfl hc

theorem areDigits_showPadded (width n : Nat) : AreDigits (showPadded width n) :=
  (areDigits_zeros _).append (areDigits_showNat n)

theorem showNat_ne_nil (n : Nat) : showNat n ≠ [] :=
  Nat.toDigits_ne_nil

theorem spanDigits_append (hdigits : AreDigits digits) (hrest : EndsDigits rest) :
    spanDigits (digits ++ rest) = (digits, rest) := by
  rw [spanDigits, takeWhile_append_of_stops hdigits hrest, dropWhile_append_of_stops hdigits hrest]

/-! #### The leading digit -/

/-- The first digit of a positive number is not zero. -/
theorem head?_showNat (h : 0 < n) : (showNat n).head? ≠ some '0' := by
  induction n using Nat.strong_induction_on with
  | h n ih =>
    rw [showNat, Nat.toDigits_eq_if (by norm_num)]
    split_ifs with hsmall
    · simp [h.ne']
    · rw [List.head?_append_of_ne_nil _ Nat.toDigits_ne_nil]
      exact ih (n / 10) (by omega) (by omega)

theorem isWhole_showNat (n : Nat) : IsWhole (showNat n) where
  digits := areDigits_showNat n
  ne_nil := showNat_ne_nil n
  leading := by
    rcases Nat.eq_zero_or_pos n with rfl | h
    · exact .inl rfl
    · exact .inr (head?_showNat h)

theorem isWhole_showNat_append (h : 0 < n) (hdigits : AreDigits digits) :
    IsWhole (showNat n ++ digits) where
  digits := (areDigits_showNat n).append hdigits
  ne_nil := by simp [showNat_ne_nil]
  leading := by
    rw [List.head?_append_of_ne_nil _ (showNat_ne_nil n)]
    exact .inr (head?_showNat h)

/-- The first digits of a positive number. -/
theorem isWhole_take_showNat (h : 0 < n) {count : Nat} (hcount : 0 < count) :
    IsWhole ((showNat n).take count) where
  digits := (areDigits_showNat n).take count
  ne_nil := by simp [showNat_ne_nil, hcount.ne']
  leading := by
    rw [List.head?_take, if_neg hcount.ne']
    exact .inr (head?_showNat h)

/-! #### The value of digits -/

theorem natOf_eq_ofDigitChars (digits : List Char) : natOf digits = Nat.ofDigitChars 10 digits 0 := by
  rw [natOf, ofDigits, List.foldl_map, Nat.ofDigitChars_eq_foldl]
  simp only [Nat.mul_comm, Char.reduceToNat]

theorem natOf_append (whole digits : List Char) :
    natOf (whole ++ digits) = natOf whole * 10 ^ digits.length + natOf digits := by
  rw [natOf_eq_ofDigitChars, natOf_eq_ofDigitChars, natOf_eq_ofDigitChars, Nat.ofDigitChars_append,
    Nat.ofDigitChars_eq_ofDigitChars_zero, Nat.mul_comm]

theorem natOf_zeros (n : Nat) : natOf (List.replicate n '0') = 0 := by
  rw [natOf_eq_ofDigitChars, Nat.ofDigitChars_replicate_zero, mul_zero]

theorem natOf_showNat (n : Nat) : natOf (showNat n) = n := by
  rw [natOf_eq_ofDigitChars, showNat, Nat.ofDigitChars_ten_toDigits]

theorem natOf_showPadded (width n : Nat) : natOf (showPadded width n) = n := by
  rw [showPadded, natOf_append, natOf_zeros, zero_mul, zero_add, natOf_showNat]

/-! ### Parts of a number -/

theorem takeWhole_append (hwhole : IsWhole whole) (hrest : EndsDigits rest) :
    takeWhole (whole ++ rest) = (whole, rest) := by
  rw [← spanDigits_append hwhole.digits hrest]
  obtain rfl | hleading := hwhole.leading
  · exact (spanDigits_append hwhole.digits hrest).symm
  · obtain ⟨c, whole, rfl⟩ := List.exists_cons_of_ne_nil hwhole.ne_nil
    have hzero : c ≠ '0' := by simpa using hleading
    rw [takeWhole]
    simp [hzero]

/-- The text of a fraction, nothing if it has no digits. -/
def fractionText : List Char → List Char
  | [] => []
  | c :: cs => '.' :: c :: cs

theorem endsDigits_fractionText (fraction : List Char) (hrest : EndsDigits rest) :
    EndsDigits (fractionText fraction ++ rest) := by
  cases fraction with
  | nil => exact hrest
  | cons c cs => exact endsDigits_cons (c := '.') rfl _

theorem takeFraction_fractionText (hfraction : AreDigits fraction) (hrest : EndsDigits rest)
    (hpoint : ∀ c ∈ rest.head?, c ≠ '.') :
    takeFraction (fractionText fraction ++ rest) = (fraction, rest) := by
  cases fraction with
  | nil =>
    rw [fractionText, List.nil_append, takeFraction]
    rintro c s rfl
    exact absurd rfl (hpoint _ rfl)
  | cons c cs =>
    rw [fractionText, List.cons_append, List.cons_append, takeFraction, if_pos (hfraction c (.head _)),
      ← List.cons_append, spanDigits_append hfraction hrest]

theorem takeExponent_of_end (hrest : EndsNumber rest) : takeExponent rest = (false, [], rest) := by
  cases rest with
  | nil => rfl
  | cons c rest =>
    obtain ⟨-, -, he, hE⟩ := hrest c rfl
    simp [takeExponent, he, hE]

theorem takeExponent_sign (down : Bool) (hdigits : AreDigits digits) (hne : digits ≠ [])
    (hrest : EndsDigits rest) :
    takeExponent ('e' :: (if down then '-' else '+') :: (digits ++ rest)) = (down, digits, rest) := by
  have hsign : takeSign ((if down then '-' else '+') :: (digits ++ rest)) = (down, digits ++ rest) := by
    cases down <;> rfl
  rw [takeExponent, hsign]
  simp only [spanDigits_append hdigits hrest]
  cases digits with
  | nil => exact absurd rfl hne
  | cons c cs => rfl

/-! ### Numbers without a sign -/

theorem readNumber_whole (negative : Bool) (hwhole : IsWhole whole) (hlength : whole.length ≤ maxDigits)
    (hrest : EndsNumber rest) :
    readNumber negative (whole ++ rest) =
      .ok (.int (if negative then -(natOf whole : Int) else natOf whole), rest) := by
  have hempty : whole.isEmpty = false := by simpa using hwhole.ne_nil
  have hfraction : takeFraction rest = ([], rest) :=
    takeFraction_fractionText (List.forall_mem_nil _) hrest.endsDigits fun c hc => (hrest c hc).2.1
  simp only [readNumber, takeWhole_append hwhole hrest.endsDigits, hempty, hfraction,
    takeExponent_of_end hrest]
  simp [hlength]

theorem readNumber_float (negative : Bool) {down : Bool} {exponent text : List Char}
    (hwhole : IsWhole whole) (hfraction : AreDigits fraction) (hdigits : EndsDigits text)
    (hpoint : ∀ c ∈ text.head?, c ≠ '.') (hexponent : takeExponent text = (down, exponent, rest))
    (hne : fraction ≠ [] ∨ exponent ≠ []) :
    readNumber negative (whole ++ (fractionText fraction ++ text)) =
      .ok (.float (.ofDecimal negative (natOf (whole ++ fraction))
        ((if down then -(natOf exponent : Int) else natOf exponent) - fraction.length)), rest) := by
  have hwhole' : whole.isEmpty = false := by simpa using hwhole.ne_nil
  have hfloat : (fraction.isEmpty && exponent.isEmpty) = false := by
    simpa [Classical.or_iff_not_imp_left] using hne
  simp only [readNumber, takeWhole_append hwhole (endsDigits_fractionText fraction hdigits), hwhole',
    takeFraction_fractionText hfraction hdigits hpoint, hexponent, hfloat]
  rfl

/-- A number with a point and no exponent. -/
theorem readNumber_point (negative : Bool) (hwhole : IsWhole whole) (hfraction : AreDigits fraction)
    (hne : fraction ≠ []) (hrest : EndsNumber rest) :
    readNumber negative (whole ++ '.' :: (fraction ++ rest)) =
      .ok (.float (.ofDecimal negative (natOf (whole ++ fraction)) (-fraction.length)), rest) := by
  have hread := readNumber_float negative hwhole hfraction hrest.endsDigits (fun c hc => (hrest c hc).2.1)
    (takeExponent_of_end hrest) (.inl hne)
  cases fraction with
  | nil => exact absurd rfl hne
  | cons c cs => simpa [fractionText, natOf, ofDigits] using hread

/-- A number with an exponent. -/
theorem readNumber_exponent (negative down : Bool) (hwhole : IsWhole whole)
    (hfraction : AreDigits fraction) (hdigits : AreDigits digits) (hne : digits ≠ [])
    (hrest : EndsNumber rest) :
    readNumber negative
        (whole ++ (fractionText fraction ++ 'e' :: (if down then '-' else '+') :: (digits ++ rest))) =
      .ok (.float (.ofDecimal negative (natOf (whole ++ fraction))
        ((if down then -(natOf digits : Int) else natOf digits) - fraction.length)), rest) :=
  readNumber_float negative hwhole hfraction (endsDigits_cons rfl _) (by simp)
    (takeExponent_sign down hdigits hne hrest.endsDigits) (.inr hne)

/-! ### Decimal text -/

section Decimal

variable (negative : Bool) (h : 0 < n) (hrest : EndsNumber rest)

include hrest

/-- Nothing but zeros between the point and the digits. -/
theorem readNumber_small {count : Nat} (hcount : (count : Int) = -(k + (showNat n).length)) :
    readNumber negative ('0' :: '.' :: List.replicate count '0' ++ showNat n ++ rest) =
      .ok (.float (.ofDecimal negative n k), rest) := by
  have hread := readNumber_point negative (isWhole_showNat 0)
    ((areDigits_zeros count).append (areDigits_showNat n)) (by simp [showNat_ne_nil]) hrest
  have hpower : (-((List.replicate count '0' ++ showNat n).length : Int)) = k := by
    rw [List.length_append, List.length_replicate]
    omega
  rw [hpower, natOf_append, natOf_append, natOf_zeros, natOf_showNat, natOf_showNat, zero_mul, zero_mul,
    zero_add, zero_add] at hread
  simpa [show showNat 0 = ['0'] from rfl] using hread

include h

/-- One digit before the point, and an exponent. -/
theorem readNumber_scientific (exponent : Int) (hexponent : exponent = k + (showNat n).length - 1) :
    readNumber negative ((showNat n).take 1 ++
        (if (showNat n).length ≤ 1 then [] else '.' :: (showNat n).drop 1) ++
        'e' :: (if exponent < 0 then '-' else '+') :: showPadded 2 exponent.natAbs ++ rest) =
      .ok (.float (.ofDecimal negative n k), rest) := by
  have hlength : 0 < (showNat n).length := List.length_pos_of_ne_nil (showNat_ne_nil n)
  have hread := readNumber_exponent negative (decide (exponent < 0)) (isWhole_take_showNat h one_pos)
    ((areDigits_showNat n).drop 1) (areDigits_showPadded 2 exponent.natAbs)
    (by simp [showPadded, showNat_ne_nil]) hrest
  have hfraction : (if (showNat n).length ≤ 1 then [] else '.' :: (showNat n).drop 1) =
      fractionText ((showNat n).drop 1) := by
    split_ifs with hone
    · rw [List.drop_eq_nil_of_le hone, fractionText]
    · obtain ⟨c, cs, hdrop⟩ := List.exists_cons_of_ne_nil
        (show (showNat n).drop 1 ≠ [] by rw [ne_eq, List.drop_eq_nil_iff]; exact hone)
      rw [hdrop, fractionText]
  have hpower : (if exponent < 0 then -(exponent.natAbs : Int) else exponent.natAbs) -
      ((showNat n).drop 1).length = k := by
    rw [List.length_drop]
    split_ifs <;> omega
  simp only [List.take_append_drop, natOf_showNat, natOf_showPadded, decide_eq_true_eq, hpower] at hread
  rw [hfraction]
  simpa using hread

/-- Nothing but zeros between the digits and the point. -/
theorem readNumber_large (count : Nat) :
    readNumber negative (showNat n ++ List.replicate count '0' ++ ['.', '0'] ++ rest) =
      .ok (.float (.ofDecimal negative (n * 10 ^ (count + 1)) (-1)), rest) := by
  have hread := readNumber_point negative (isWhole_showNat_append h (areDigits_zeros count))
    (areDigits_zeros 1) (by simp) hrest
  simpa [natOf_append, natOf_zeros, natOf_showNat, show natOf ['0'] = 0 from rfl] using hread

/-- The point inside the digits. -/
theorem readNumber_inside {count : Nat} (hcount : (count : Int) = k + (showNat n).length)
    (hpos : 0 < count) (hk : k < 0) :
    readNumber negative ((showNat n).take count ++ '.' :: (showNat n).drop count ++ rest) =
      .ok (.float (.ofDecimal negative n k), rest) := by
  have hread := readNumber_point negative (isWhole_take_showNat h hpos)
    ((areDigits_showNat n).drop count) (by rw [ne_eq, List.drop_eq_nil_iff]; omega) hrest
  have hpower : (-(((showNat n).drop count).length : Int)) = k := by
    rw [List.length_drop]
    omega
  rw [List.take_append_drop, natOf_showNat, hpower] at hread
  simpa using hread

/-- **The text of a decimal** is read as a decimal of the same value. -/
theorem readNumber_showDecimal (style : Binary64.DecimalStyle) (k : Int) :
    ∃ (m : Nat) (e : Int), readNumber negative (Binary64.showDecimal style n k ++ rest) =
      .ok (.float (.ofDecimal negative m e), rest) ∧ (m * 10 ^ e : ℚ) = n * 10 ^ k := by
  have hlength : 0 < (showNat n).length := List.length_pos_of_ne_nil (showNat_ne_nil n)
  rw [Binary64.showDecimal]
  dsimp only
  by_cases hscientific : k + (showNat n).length - 1 < style.leastPositional ∨
      style.leastScientific ≤ k + (showNat n).length - 1
  · rw [if_pos hscientific]
    exact ⟨n, k, readNumber_scientific negative h hrest _ rfl, rfl⟩
  rw [if_neg hscientific]
  by_cases hsmall : k + (showNat n).length - 1 < 0
  · rw [if_pos hsmall]
    exact ⟨n, k, readNumber_small negative hrest (by omega), rfl⟩
  rw [if_neg hsmall]
  by_cases hlarge : 0 ≤ k
  · rw [if_pos hlarge]
    obtain ⟨count, rfl⟩ := Int.eq_ofNat_of_zero_le hlarge
    refine ⟨n * 10 ^ (count + 1), -1, readNumber_large negative h hrest count, ?_⟩
    push_cast
    rw [pow_succ, ← mul_assoc, zpow_natCast, zpow_neg_one, mul_inv_cancel_right₀ (by norm_num)]
  · rw [if_neg hlarge]
    exact ⟨n, k, readNumber_inside negative h hrest (by omega) (by omega) (by omega), rfl⟩

end Decimal

/-! ### Numbers as values -/

/-- A digit begins no constant. -/
theorem no_constant_digit {c : Char} (h : c.isDigit = true) (s : List Char) :
    constantOf? (c :: s) = none ∧ numberConstantOf? (c :: s) = none := by
  have hne : ∀ d : Char, d.isDigit = false → d ≠ c := by
    rintro d hd rfl
    exact absurd h (by simp [hd])
  simp [constantOf?, numberConstantOf?, dropStart?, hne 'n' rfl, hne 't' rfl, hne 'f' rfl, hne 'N' rfl,
    hne 'I' rfl, hne '-' rfl]

/-- Neither does a minus sign before a digit. -/
theorem no_constant_minus {c : Char} (h : c.isDigit = true) (s : List Char) :
    constantOf? ('-' :: c :: s) = none ∧ numberConstantOf? ('-' :: c :: s) = none := by
  have hne : 'I' ≠ c := by
    rintro rfl
    exact absurd h (by decide)
  simp [constantOf?, numberConstantOf?, dropStart?, hne]

/-- A number begins with a digit. -/
theorem exists_digit_of_readNumber {s : List Char} {result : RawJson × List Char}
    (h : readNumber negative s = .ok result) : ∃ c more, s = c :: more ∧ c.isDigit = true := by
  cases s with
  | nil => cases h
  | cons c more =>
    refine ⟨c, more, rfl, ?_⟩
    by_contra hdigit
    have hzero : c ≠ '0' := by
      rintro rfl
      exact hdigit rfl
    have hwhole : takeWhole (c :: more) = ([], c :: more) := by
      rw [takeWhole, spanDigits]
      · simp [hdigit]
      · simp [hzero]
    simp [readNumber, hwhole] at h

/-- What is read as a number after its sign is a number. -/
theorem readScalar_of_readNumber {s : List Char} {result : RawJson × List Char}
    (h : readNumber negative s = .ok result) :
    readScalar unbounded levels ((if negative then ['-'] else []) ++ s) = .ok result := by
  obtain ⟨c, more, rfl, hdigit⟩ := exists_digit_of_readNumber h
  cases negative with
  | true =>
    obtain ⟨hconstant, hnumber⟩ := no_constant_minus hdigit more
    simpa [readScalar, hconstant, hnumber] using h
  | false =>
    have hminus : c ≠ '-' := by
      rintro rfl
      exact absurd hdigit (by decide)
    obtain ⟨hconstant, hnumber⟩ := no_constant_digit hdigit more
    simpa [readScalar, hconstant, hnumber, hminus] using h

theorem showInt_eq (n : Int) :
    showInt n = (if decide (n < 0) then ['-'] else []) ++ showNat n.natAbs := by
  cases n with
  | ofNat n => simp [showInt]
  | negSucc n => simp [showInt, Int.negSucc_lt_zero]

/-- **The text of a whole number** is read as that number, if it is short enough. -/
theorem readScalar_showInt (n : Int) (hlength : (showNat n.natAbs).length ≤ maxDigits)
    (hrest : EndsNumber rest) : readScalar unbounded levels (showInt n ++ rest) = .ok (.int n, rest) := by
  have hread := readNumber_whole (decide (n < 0)) (isWhole_showNat n.natAbs) hlength hrest
  have hvalue : (if decide (n < 0) then -(n.natAbs : Int) else n.natAbs) = n := by
    simp only [decide_eq_true_eq]
    split_ifs <;> omega
  rw [natOf_showNat, hvalue] at hread
  rw [showInt_eq, List.append_assoc]
  exact readScalar_of_readNumber hread

/-- The text of a finite number is read as that number. -/
theorem readScalar_finite {m : Nat} {e : Int} (hfits : Binary64.Fits m e) (hrest : EndsNumber rest) :
    readScalar unbounded levels ((Binary64.finite negative m e).render Binary64.constants ++ rest) =
      .ok (.float (.finite negative m e), rest) := by
  rw [Binary64.render]
  rcases Nat.eq_zero_or_pos m with rfl | hm
  · -- zero has a text of its own
    obtain rfl : e = Binary64.minExponent := hfits.isLeading.resolve_left (by norm_num)
    rw [if_pos rfl, List.append_assoc]
    exact readScalar_of_readNumber
      (readNumber_point negative (isWhole_showNat 0) (areDigits_zeros 1) (by simp) hrest)
  · rw [if_neg hm.ne', List.append_assoc]
    obtain ⟨digits, k, hread, hvalue⟩ :=
      readNumber_showDecimal negative (Binary64.shortest_pos hfits hm) hrest Binary64.constants
        (Binary64.shortest m e).2
    rw [Binary64.ofDecimal_shortest hfits hm hvalue] at hread
    exact readScalar_of_readNumber hread

/-- **The text of a floating point number** is read as that number, an infinite or undefined one where
the constants for them are allowed and a level is left. -/
theorem readScalar_render {x : Binary64} (hcanonical : x.IsCanonical)
    (hallowed : x.isFinite = true ∨ unbounded = true ∧ 0 < levels) (hrest : EndsNumber rest) :
    readScalar unbounded levels (x.render Binary64.constants ++ rest) = .ok (.float x, rest) := by
  have hconstant (x : Binary64) (h : unbounded = true ∧ 0 < levels) (s : List Char) :
      readNumberConstant unbounded levels x s rest = .ok (.float x, rest) := by
    obtain ⟨rfl, hlevels⟩ := h
    have hroom : ¬ levels < 1 := by omega
    simp only [readNumberConstant, if_true, hroom, if_false]
  cases x with
  | finite negative m e => exact readScalar_finite hcanonical hrest
  | infinite negative => cases negative <;> exact hconstant _ (hallowed.resolve_left nofun) _
  | undefined => exact hconstant _ (hallowed.resolve_left nofun) _

/-- No number and no constant begins with a blank, a bracket, a quote or a mark. -/
theorem exists_start_of_readScalar {s : List Char} {result : RawJson × List Char}
    (h : readScalar unbounded levels s = .ok result) :
    ∃ c more, s = c :: more ∧ isSpace c = false ∧ c ≠ ']' ∧ c ≠ '\uFEFF' ∧ c ≠ '"' ∧ c ≠ '[' ∧
      c ≠ '\x7b' := by
  cases s with
  | nil => cases h
  | cons c more =>
    have hmark : ∀ d ∈ [' ', '\t', '\n', '\r', ']', '\uFEFF', '"', '[', '\x7b'],
        readScalar unbounded levels (d :: more) ≠ .ok result := by
      simp [readScalar, constantOf?, numberConstantOf?, dropStart?, readNumber, takeWhole, spanDigits]
    have hne : ∀ d ∈ [' ', '\t', '\n', '\r', ']', '\uFEFF', '"', '[', '\x7b'], c ≠ d := by
      rintro d hd rfl
      exact hmark c hd h
    simp only [List.forall_mem_cons] at hne
    refine ⟨c, more, rfl, ?_⟩
    simp [isSpace, hne]

end PromptPress.Json
