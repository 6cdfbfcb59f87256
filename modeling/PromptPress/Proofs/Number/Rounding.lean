import Mathlib.Algebra.Order.Field.Power
import Mathlib.Data.Int.Log
import Mathlib.Data.Rat.Floor
import Mathlib.Tactic.FieldSimp
import Mathlib.Tactic.Linarith
import Mathlib.Tactic.NormNum
import Mathlib.Tactic.Positivity
import Mathlib.Tactic.Ring
import PromptPress.Number.Binary64

/-!
# Rounding to the nearest number

A quotient is rounded to a floating point number in two steps: the exponent is chosen from the binary
logarithm of the quotient, and the mantissa is the nearest integer at that exponent.

Every result has a mantissa of 53 bits, or the least exponent (`isCanonical_ofRatio`). The main law goes
the other way: all rational numbers in the rounding interval of such a number are rounded to it
(`ofRatio_eq_finite`), and so are all decimals with a value in the interval (`ofDecimal_eq_finite`).
-/

namespace PromptPress.Binary64

variable {negative : Bool} {num den m r : Nat} {e : Int}

/-! ### Canonical numbers -/

/-- A mantissa and an exponent as rounding leaves them: the mantissa has 53 bits, fewer only at the
least exponent. -/
structure Fits (m : Nat) (e : Int) : Prop where
  mantissa_lt : m < 2 ^ 53
  le_exponent : minExponent ≤ e
  exponent_le : e ≤ maxExponent
  isLeading : 2 ^ 52 ≤ m ∨ e = minExponent

/-- A number with one mantissa and exponent for its value. -/
def IsCanonical : Binary64 → Prop
  | finite _ m e => Fits m e
  | _ => True

/-- Zero fits with the least exponent. -/
theorem fits_zero : Fits 0 minExponent :=
  ⟨by norm_num, le_rfl, by decide, .inr rfl⟩

/-- The lower end of the rounding interval, in quarters of the last place. Below a power of two the
places are half as wide. -/
def lowQuarters (m : Nat) (e : Int) : Nat :=
  if m = 2 ^ 52 ∧ minExponent < e then 4 * m - 1 else 4 * m - 2

/-- The rational numbers that are rounded to `m · 2 ^ e`; the ends of the interval are among them if the
mantissa is even. -/
def IsNear (m : Nat) (e : Int) (x : ℚ) : Prop :=
  if m % 2 = 0 then
    (lowQuarters m e : ℚ) * 2 ^ (e - 2) ≤ x ∧ x ≤ ((4 * m + 2 : Nat) : ℚ) * 2 ^ (e - 2)
  else
    (lowQuarters m e : ℚ) * 2 ^ (e - 2) < x ∧ x < ((4 * m + 2 : Nat) : ℚ) * 2 ^ (e - 2)

/-! ### Nearest integers -/

/-- **The nearest integer**: a quotient that is at most a half away from an integer, and less than a half
unless that is even, is rounded to it. -/
theorem roundQuotient_eq (hden : 0 < den) (hlow : 2 * r * den ≤ 2 * num + den)
    (hhigh : 2 * num ≤ (2 * r + 1) * den)
    (htie : 2 * r * den = 2 * num + den ∨ 2 * num = (2 * r + 1) * den → r % 2 = 0) :
    roundQuotient num den = r := by
  have hdiv : den * (num / den) + num % den = num := Nat.div_add_mod num den
  have hmod : num % den < den := Nat.mod_lt num hden
  rw [roundQuotient]
  generalize num / den = q at *
  generalize num % den = s at *
  subst hdiv
  have hle : q ≤ r := by
    by_contra hlt
    nlinarith
  have hle' : r ≤ q + 1 := by
    by_contra hlt
    nlinarith
  obtain rfl | rfl : r = q ∨ r = q + 1 := by omega
  · have hs : 2 * s ≤ den := by nlinarith
    split_ifs with hless hmore
    · rfl
    · omega
    · have heven := htie (.inr (by nlinarith))
      omega
  · have hs : den ≤ 2 * s := by nlinarith
    split_ifs with hless hmore
    · omega
    · rfl
    · have heven := htie (.inl (by nlinarith))
      omega

theorem le_roundQuotient (hden : 0 < den) (h : r * den ≤ num) : r ≤ roundQuotient num den := by
  have hq : r ≤ num / den := (Nat.le_div_iff_mul_le hden).mpr h
  rw [roundQuotient]
  split_ifs <;> omega

theorem roundQuotient_le (hden : 0 < den) (h : num ≤ r * den) : roundQuotient num den ≤ r := by
  obtain rfl | hlt := h.eq_or_lt
  · simp [roundQuotient, hden]
  · have hq : num / den < r := (Nat.div_lt_iff_lt_mul hden).mpr hlt
    rw [roundQuotient]
    split_ifs <;> omega

/-! ### Scaling -/

theorem unscale_pos {base : Nat} (hbase : 0 < base) (hden : 0 < den) (num : Nat) (e : Int) :
    0 < (unscale base num den e).2 := by
  rw [unscale]
  split_ifs
  · exact Nat.mul_pos hden (Nat.pow_pos hbase)
  · exact hden

/-- Scaling divides by a power of the base. -/
theorem unscale_eq {base : Nat} (hbase : 0 < base) (num den : Nat) (e : Int) :
    ((unscale base num den e).1 : ℚ) / (unscale base num den e).2 = num / den / (base : ℚ) ^ e := by
  have hne : (base : ℚ) ≠ 0 := by positivity
  rw [unscale]
  split_ifs with h
  · obtain ⟨n, rfl⟩ := Int.eq_ofNat_of_zero_le h
    simp [Nat.pow_eq, div_div]
  · obtain ⟨n, hn⟩ := Int.eq_ofNat_of_zero_le (a := -e) (by omega)
    obtain rfl : e = -n := by omega
    simp [Nat.pow_eq, div_mul_eq_mul_div]

/-! ### The exponent -/

/-- The exponent at which a quotient has 53 binary digits before the point. -/
def leadExponent (num den : Nat) : Int :=
  let e : Int := (num.log2 : Int) - den.log2 - 53
  let (n, d) := unscale 2 num den e
  if n / d < Nat.pow 2 53 then e else e + 1

/-- A mantissa that was rounded up to a bit more is halved. -/
def carry (m : Nat) (e : Int) : Nat × Int :=
  if m = Nat.pow 2 53 then (Nat.pow 2 52, e + 1) else (m, e)

theorem carry_of_lt (h : m < 2 ^ 53) (e : Int) : carry m e = (m, e) :=
  if_neg h.ne

theorem carry_two_pow (e : Int) : carry (2 ^ 53) e = (2 ^ 52, e + 1) :=
  if_pos rfl

/-- The mantissa of a quotient at an exponent. -/
def mantissaAt (num den : Nat) (e : Int) : Nat :=
  roundQuotient (unscale 2 num den e).1 (unscale 2 num den e).2

theorem ofRatio_eq (h : num ≠ 0) :
    ofRatio negative num den =
      let e := max (leadExponent num den) minExponent
      let c := carry (mantissaAt num den e) e
      if maxExponent < c.2 then infinite negative else finite negative c.1 c.2 := by
  rw [ofRatio, if_neg h]
  rfl

theorem two_zpow_log2_le (h : num ≠ 0) : (2 : ℚ) ^ (num.log2 : Int) ≤ num := by
  rw [zpow_natCast]
  exact_mod_cast Nat.log2_self_le h

theorem lt_two_zpow_log2 (num : Nat) : (num : ℚ) < 2 ^ ((num.log2 : Int) + 1) := by
  have h : num < 2 ^ (num.log2 + 1) := Nat.lt_log2_self
  exact_mod_cast h

/-- The logarithm of a quotient is the difference of the logarithms or one less. -/
theorem log_div_bounds (hnum : num ≠ 0) (hden : den ≠ 0) :
    (num.log2 : Int) - den.log2 - 1 ≤ Int.log 2 (num / den : ℚ) ∧
      Int.log 2 (num / den : ℚ) < (num.log2 : Int) - den.log2 + 1 := by
  have hden' : (0 : ℚ) < den := by positivity
  have hx : (0 : ℚ) < num / den := by positivity
  constructor
  · rw [← Int.zpow_le_iff_le_log one_lt_two hx, le_div_iff₀ hden']
    calc (2 : ℚ) ^ ((num.log2 : Int) - den.log2 - 1) * den
        ≤ 2 ^ ((num.log2 : Int) - den.log2 - 1) * 2 ^ ((den.log2 : Int) + 1) := by
          gcongr
          exact (lt_two_zpow_log2 den).le
      _ = 2 ^ (num.log2 : Int) := by
          rw [← zpow_add₀ two_ne_zero]
          congr 1
          omega
      _ ≤ num := two_zpow_log2_le hnum
  · rw [← Int.lt_zpow_iff_log_lt one_lt_two hx, div_lt_iff₀ hden']
    calc (num : ℚ) < 2 ^ ((num.log2 : Int) + 1) := lt_two_zpow_log2 num
      _ = 2 ^ ((num.log2 : Int) - den.log2 + 1) * 2 ^ (den.log2 : Int) := by
          rw [← zpow_add₀ two_ne_zero]
          congr 1
          omega
      _ ≤ 2 ^ ((num.log2 : Int) - den.log2 + 1) * den := by
          gcongr
          exact two_zpow_log2_le hden

/-- The leading binary digit of a quotient is at its exponent. -/
theorem leadExponent_eq (hnum : num ≠ 0) (hden : den ≠ 0) :
    leadExponent num den = Int.log 2 (num / den : ℚ) - 52 := by
  have hx : (0 : ℚ) < num / den := by positivity
  obtain ⟨hlow, hhigh⟩ := log_div_bounds hnum hden
  have htest : (unscale 2 num den ((num.log2 : Int) - den.log2 - 53)).1 /
        (unscale 2 num den ((num.log2 : Int) - den.log2 - 53)).2 < Nat.pow 2 53 ↔
      Int.log 2 (num / den : ℚ) < (num.log2 : Int) - den.log2 := by
    have hpos := unscale_pos two_pos (Nat.pos_of_ne_zero hden) num ((num.log2 : Int) - den.log2 - 53)
    have heq := unscale_eq two_pos num den ((num.log2 : Int) - den.log2 - 53)
    rw [Nat.div_lt_iff_lt_mul hpos, ← Int.lt_zpow_iff_log_lt one_lt_two hx]
    generalize unscale 2 num den ((num.log2 : Int) - den.log2 - 53) = p at *
    have hpos' : (0 : ℚ) < p.2 := by exact_mod_cast hpos
    have hcast : p.1 < Nat.pow 2 53 * p.2 ↔ (p.1 : ℚ) / p.2 < 2 ^ (53 : Int) := by
      rw [div_lt_iff₀ hpos', Nat.pow_eq, zpow_ofNat]
      exact_mod_cast Iff.rfl
    rw [hcast, heq, div_lt_iff₀ (by positivity), Nat.cast_ofNat, ← zpow_add₀ two_ne_zero]
    ring_nf
  rw [leadExponent]
  dsimp only
  split_ifs with h
  · have := htest.mp h
    omega
  · have := htest.not.mp h
    omega

/-! ### The mantissa -/

section Mantissa

variable {x : ℚ}

/-- The scaled quotient, as a quotient of naturals. -/
theorem exists_scaled (hden : 0 < den) (hx : x = num / den) (e : Int) :
    ∃ n d : Nat, 0 < d ∧ mantissaAt num den e = roundQuotient n d ∧ (n : ℚ) = x / 2 ^ e * d := by
  have hpos := unscale_pos two_pos hden num e
  refine ⟨_, _, hpos, rfl, ?_⟩
  have hne : ((unscale 2 num den e).2 : ℚ) ≠ 0 := by exact_mod_cast hpos.ne'
  have hscaled := unscale_eq two_pos num den e
  rw [Nat.cast_ofNat] at hscaled
  rw [hx, ← hscaled, div_mul_cancel₀ _ hne]

theorem mantissaAt_eq (hden : 0 < den) (hx : x = num / den) (hlow : (r - 1 / 2) * 2 ^ e ≤ x)
    (hhigh : x ≤ (r + 1 / 2) * 2 ^ e)
    (htie : x = (r - 1 / 2) * 2 ^ e ∨ x = (r + 1 / 2) * 2 ^ e → r % 2 = 0) :
    mantissaAt num den e = r := by
  obtain ⟨n, d, hd, hm, hn⟩ := exists_scaled hden hx e
  have hpow : (0 : ℚ) < 2 ^ e := by positivity
  have hd' : (0 : ℚ) < d := by exact_mod_cast hd
  have hback : x = n / d * 2 ^ e := by
    rw [hn]
    field_simp
  rw [← le_div_iff₀ hpow] at hlow
  rw [← div_le_iff₀ hpow] at hhigh
  rw [hm]
  apply roundQuotient_eq hd
  · have h : 2 * (r : ℚ) * d ≤ 2 * n + d := by
      rw [hn]
      linarith [mul_le_mul_of_nonneg_right hlow hd'.le]
    exact_mod_cast h
  · have h : 2 * (n : ℚ) ≤ (2 * r + 1) * d := by
      rw [hn]
      linarith [mul_le_mul_of_nonneg_right hhigh hd'.le]
    exact_mod_cast h
  · rintro (h | h)
    · have hcast : 2 * (r : ℚ) * d = 2 * n + d := by exact_mod_cast h
      refine htie (.inl ?_)
      rw [hback, mul_left_inj' hpow.ne', div_eq_iff hd'.ne']
      linarith
    · have hcast : 2 * (n : ℚ) = (2 * r + 1) * d := by exact_mod_cast h
      refine htie (.inr ?_)
      rw [hback, mul_left_inj' hpow.ne', div_eq_iff hd'.ne']
      linarith

theorem le_mantissaAt (hden : 0 < den) (hx : x = num / den) (h : r * 2 ^ e ≤ x) :
    r ≤ mantissaAt num den e := by
  obtain ⟨n, d, hd, hm, hn⟩ := exists_scaled hden hx e
  rw [← le_div_iff₀ (by positivity)] at h
  have hle : (r : ℚ) * d ≤ n := by
    rw [hn]
    gcongr
  rw [hm]
  exact le_roundQuotient hd (by exact_mod_cast hle)

theorem mantissaAt_le (hden : 0 < den) (hx : x = num / den) (h : x ≤ r * 2 ^ e) :
    mantissaAt num den e ≤ r := by
  obtain ⟨n, d, hd, hm, hn⟩ := exists_scaled hden hx e
  rw [← div_le_iff₀ (by positivity)] at h
  have hle : (n : ℚ) ≤ r * d := by
    rw [hn]
    gcongr
  rw [hm]
  exact roundQuotient_le hd (by exact_mod_cast hle)

end Mantissa

/-! ### What rounding leaves -/

/-- **Results of rounding are canonical.** -/
theorem isCanonical_ofRatio (hden : 0 < den) : (ofRatio negative num den).IsCanonical := by
  by_cases hnum : num = 0
  · subst hnum
    exact fits_zero
  have hpos : (0 : ℚ) < num / den := by positivity
  rw [ofRatio_eq hnum]
  dsimp only
  rw [leadExponent_eq hnum hden.ne']
  set e := max (Int.log 2 (num / den : ℚ) - 52) minExponent with he
  -- the quotient has at most 53 digits before the point at this exponent, so many if it is not the least
  have hhigh : mantissaAt num den e ≤ 2 ^ 53 := by
    refine mantissaAt_le hden rfl ?_
    have hlt : (num / den : ℚ) < 2 ^ (Int.log 2 (num / den : ℚ) + 1) :=
      Int.lt_zpow_succ_log_self one_lt_two _
    calc (num / den : ℚ) ≤ 2 ^ (Int.log 2 (num / den : ℚ) + 1) := hlt.le
      _ ≤ 2 ^ (53 + e) := zpow_le_zpow_right₀ one_le_two (by omega)
      _ = ((2 ^ 53 : Nat) : ℚ) * 2 ^ e := by
          rw [zpow_add₀ two_ne_zero]
          norm_num
  have hlow : 2 ^ 52 ≤ mantissaAt num den e ∨ e = minExponent := by
    by_cases hleast : e = minExponent
    · exact .inr hleast
    refine .inl (le_mantissaAt hden rfl ?_)
    have hle : (2 : ℚ) ^ Int.log 2 (num / den : ℚ) ≤ num / den :=
      Int.zpow_log_le_self one_lt_two hpos
    calc ((2 ^ 52 : Nat) : ℚ) * 2 ^ e = 2 ^ (52 + e) := by
          rw [zpow_add₀ two_ne_zero]
          norm_num
      _ = 2 ^ Int.log 2 (num / den : ℚ) := by
          congr 1
          omega
      _ ≤ num / den := hle
  have hleast : minExponent ≤ e := le_max_right ..
  rw [carry, Nat.pow_eq, Nat.pow_eq]
  split_ifs with hcarry hover hover
  · trivial
  · exact ⟨by norm_num, by omega, by omega, .inl le_rfl⟩
  · trivial
  · exact ⟨by omega, hleast, by omega, hlow⟩

/-! ### The rounding interval -/

namespace IsNear

variable {x : ℚ}

theorem quarter_eq (e : Int) : (2 : ℚ) ^ (e - 2) = 2 ^ e / 4 := by
  rw [zpow_sub₀ two_ne_zero]
  norm_num

theorem ends (h : IsNear m e x) :
    (lowQuarters m e : ℚ) * 2 ^ (e - 2) ≤ x ∧ x ≤ ((4 * m + 2 : Nat) : ℚ) * 2 ^ (e - 2) := by
  rw [IsNear] at h
  split_ifs at h
  · exact h
  · exact ⟨h.1.le, h.2.le⟩

/-- In places of `2 ^ e`, the interval begins at most a half below the mantissa. -/
theorem low_le (hm : 0 < m) (h : IsNear m e x) : ((m : ℚ) - 1 / 2) * 2 ^ e ≤ x := by
  have hquarters : 4 * m - 2 ≤ lowQuarters m e := by
    rw [lowQuarters]
    split_ifs <;> omega
  have hcast : (4 * m - 2 : ℚ) ≤ lowQuarters m e := by
    have : 4 * m ≤ lowQuarters m e + 2 := by omega
    have : (4 * m : ℚ) ≤ lowQuarters m e + 2 := by exact_mod_cast this
    linarith
  calc ((m : ℚ) - 1 / 2) * 2 ^ e = (4 * m - 2) * 2 ^ (e - 2) := by
        rw [quarter_eq]
        ring
    _ ≤ lowQuarters m e * 2 ^ (e - 2) := by gcongr
    _ ≤ x := h.ends.1

theorem le_high (h : IsNear m e x) : x ≤ ((m : ℚ) + 1 / 2) * 2 ^ e := by
  refine h.ends.2.trans_eq ?_
  rw [quarter_eq]
  push_cast
  ring

/-- The interval of an odd mantissa is open. -/
theorem even_of_tie (hm : 0 < m) (h : IsNear m e x)
    (htie : x = ((m : ℚ) - 1 / 2) * 2 ^ e ∨ x = ((m : ℚ) + 1 / 2) * 2 ^ e) : m % 2 = 0 := by
  by_contra hodd
  rw [IsNear, if_neg hodd] at h
  have hquarters : lowQuarters m e = 4 * m - 2 := by
    rw [lowQuarters, if_neg]
    rintro ⟨rfl, -⟩
    exact hodd (by norm_num)
  have hcast : ((4 * m - 2 : Nat) : ℚ) = 4 * m - 2 := by
    rw [Nat.cast_sub (by omega)]
    push_cast
    rfl
  rw [hquarters, hcast, quarter_eq] at h
  obtain ⟨hlow, hhigh⟩ := h
  push_cast at hhigh
  rcases htie with rfl | rfl <;> linarith

theorem pos (hm : 0 < m) (h : IsNear m e x) : 0 < x := by
  have hone : (1 : ℚ) ≤ m := by exact_mod_cast hm
  have hpow : (0 : ℚ) < 2 ^ e := by positivity
  nlinarith [h.low_le hm]

/-- A power of two is followed by places of its own width, and preceded by places of half that width. -/
theorem quarterBelow_le (hm : m = 2 ^ 52) (he : minExponent < e) (h : IsNear m e x) :
    (2 ^ 52 - 1 / 4 : ℚ) * 2 ^ e ≤ x := by
  have hquarters : lowQuarters m e = 2 ^ 54 - 1 := by
    rw [lowQuarters, if_pos ⟨hm, he⟩, hm]
    norm_num
  have hlow := h.ends.1
  rw [hquarters, quarter_eq] at hlow
  norm_num at hlow ⊢
  linarith

/-- The exponent of a number in the interval is that of the interval, except just below a power of two. -/
theorem exponent_eq (hfits : Fits m e) (hm : 0 < m) (h : IsNear m e x) :
    max (Int.log 2 x - 52) minExponent = e ∨
      m = 2 ^ 52 ∧ minExponent < e ∧ max (Int.log 2 x - 52) minExponent = e - 1 ∧
        x < 2 ^ (52 + e) := by
  have hx := h.pos hm
  have hpow : (0 : ℚ) < 2 ^ e := by positivity
  have hle : Int.log 2 x < 53 + e := by
    have hmantissa : (m : ℚ) + 1 / 2 < 2 ^ 53 := by
      have : (m : ℚ) ≤ 2 ^ 53 - 1 := by
        rw [le_sub_iff_add_le]
        exact_mod_cast hfits.mantissa_lt
      linarith
    rw [← Int.lt_zpow_iff_log_lt one_lt_two hx, Nat.cast_ofNat, zpow_add₀ two_ne_zero]
    calc x ≤ ((m : ℚ) + 1 / 2) * 2 ^ e := h.le_high
      _ < 2 ^ 53 * 2 ^ e := by gcongr
  have hleast := hfits.le_exponent
  by_cases he : e = minExponent
  · omega
  have hlarge : 2 ^ 52 ≤ m := hfits.isLeading.resolve_right he
  by_cases hlog : 52 + e ≤ Int.log 2 x
  · omega
  · have hlt : x < 2 ^ (52 + e) := by
      rw [← Nat.cast_ofNat (n := 2), Int.lt_zpow_iff_log_lt one_lt_two hx]
      omega
    -- the interval reaches below the power of two only if it is the interval of that power
    have hpower : m = 2 ^ 52 := by
      by_contra hne
      have hmore : (2 ^ 52 + 1 : ℚ) ≤ m := by exact_mod_cast (show 2 ^ 52 + 1 ≤ m by omega)
      rw [zpow_add₀ two_ne_zero] at hlt
      have hlow := h.low_le hm
      have hhalf : (2 ^ 52 : ℚ) * 2 ^ e ≤ (m - 1 / 2) * 2 ^ e := by
        gcongr
        linarith
      norm_num at hlt hhalf
      linarith
    have hlow : 51 + e ≤ Int.log 2 x := by
      rw [← Int.zpow_le_iff_le_log one_lt_two hx, Nat.cast_ofNat, zpow_add₀ two_ne_zero]
      have hquarter := h.quarterBelow_le hpower (by omega)
      norm_num at hquarter ⊢
      nlinarith
    exact .inr ⟨hpower, by omega, by omega, hlt⟩

end IsNear

/-- **The rounding interval.** Every quotient in the rounding interval of a canonical number is rounded to
that number. -/
theorem ofRatio_eq_finite (hfits : Fits m e) (hm : 0 < m) (hden : 0 < den)
    (h : IsNear m e (num / den)) : ofRatio negative num den = finite negative m e := by
  have hnum : num ≠ 0 := by
    rintro rfl
    simpa using h.pos hm
  rw [ofRatio_eq hnum]
  dsimp only
  rw [leadExponent_eq hnum hden.ne']
  obtain hexponent | ⟨rfl, hleast, hexponent, hlt⟩ := h.exponent_eq hfits hm
  · have hmantissa : mantissaAt num den e = m :=
      mantissaAt_eq hden rfl (h.low_le hm) h.le_high (h.even_of_tie hm)
    rw [hexponent, hmantissa, carry_of_lt hfits.mantissa_lt, if_neg hfits.exponent_le.not_gt]
  · -- just below a power of two the mantissa is rounded up to it, at the exponent below
    have hmantissa : mantissaAt num den (e - 1) = 2 ^ 53 := by
      have hhalf : (2 : ℚ) ^ (e - 1) = 2 ^ e / 2 := by
        rw [zpow_sub₀ two_ne_zero, zpow_one]
      have hlow := h.quarterBelow_le rfl hleast
      rw [zpow_add₀ two_ne_zero] at hlt
      refine mantissaAt_eq hden rfl ?_ ?_ fun _ => by norm_num
      all_goals
        rw [hhalf]
        push_cast
        norm_num at hlow hlt ⊢
        linarith
    rw [hexponent, hmantissa, carry_two_pow, sub_add_cancel, if_neg hfits.exponent_le.not_gt]

/-! ### Decimals -/

section Decimals

variable {digits : Nat} {k : Int} {x : ℚ}

/-- A power of two below a power of ten. -/
theorem two_zpow_le_ten_zpow (n : Nat) : (2 : ℚ) ^ (3 * n : Int) ≤ 10 ^ (n : Int) := by
  rw [zpow_mul, zpow_natCast, zpow_natCast]
  gcongr
  norm_num

/-- Numbers in a rounding interval lie between powers of ten that no digits have to be compared with. -/
theorem IsNear.bounds (hfits : Fits m e) (hm : 0 < m) (h : IsNear m e x) :
    (10 : ℚ) ^ (-400 : Int) < x ∧ x < 10 ^ (400 : Int) := by
  have hpow : (0 : ℚ) < 2 ^ e := by positivity
  have hten : (2 : ℚ) ^ (1200 : Int) ≤ 10 ^ (400 : Int) := two_zpow_le_ten_zpow 400
  have hone : (1 : ℚ) ≤ m := by exact_mod_cast hm
  have hmantissa : (m : ℚ) + 1 / 2 < 2 ^ (54 : Int) := by
    have hlt : (m : ℚ) < 2 ^ 53 := by exact_mod_cast hfits.mantissa_lt
    calc (m : ℚ) + 1 / 2 < 2 ^ 53 + 1 / 2 := by gcongr
      _ < 2 ^ (54 : Int) := by norm_num
  have hleast := hfits.le_exponent
  have hgreatest := hfits.exponent_le
  rw [minExponent] at hleast
  rw [maxExponent] at hgreatest
  constructor
  · calc (10 : ℚ) ^ (-400 : Int) ≤ 2 ^ (-1200 : Int) := by
          rw [zpow_neg, zpow_neg]
          exact inv_anti₀ (by positivity) hten
      _ < 2 ^ (e - 1) := zpow_lt_zpow_right₀ one_lt_two (by omega)
      _ = 1 / 2 * 2 ^ e := by
          rw [zpow_sub₀ two_ne_zero]
          ring
      _ ≤ ((m : ℚ) - 1 / 2) * 2 ^ e := by
          gcongr
          linarith
      _ ≤ x := h.low_le hm
  · calc x ≤ ((m : ℚ) + 1 / 2) * 2 ^ e := h.le_high
      _ < 2 ^ (54 : Int) * 2 ^ e := by gcongr
      _ = 2 ^ (54 + e) := by rw [zpow_add₀ two_ne_zero]
      _ ≤ 2 ^ (1200 : Int) := zpow_le_zpow_right₀ one_le_two (by omega)
      _ ≤ 10 ^ (400 : Int) := hten

/-- The number of digits of a decimal bounds its value. -/
theorem decimal_bounds (hdigits : digits ≠ 0) (k : Int) :
    (10 : ℚ) ^ ((Nat.toDigits 10 digits).length + k - 1) ≤ digits * 10 ^ k ∧
      (digits * 10 ^ k : ℚ) < 10 ^ ((Nat.toDigits 10 digits).length + k) := by
  have hlength : 0 < (Nat.toDigits 10 digits).length := Nat.length_toDigits_pos
  generalize hcount : (Nat.toDigits 10 digits).length = count at *
  have hhigh : digits < 10 ^ count :=
    (Nat.length_toDigits_le_iff (by norm_num) hlength).mp hcount.le
  have hlow : 10 ^ (count - 1) ≤ digits := by
    by_contra hlt
    rcases Nat.eq_zero_or_pos (count - 1) with hzero | hpos
    · rw [hzero] at hlt
      omega
    · have := (Nat.length_toDigits_le_iff (b := 10) (by norm_num) hpos).mpr (not_le.mp hlt)
      omega
  have hten : (0 : ℚ) < 10 ^ k := by positivity
  constructor
  · have hcast : (10 : ℚ) ^ ((count - 1 : Nat) : Int) ≤ digits := by exact_mod_cast hlow
    calc (10 : ℚ) ^ (count + k - 1) = 10 ^ ((count - 1 : Nat) : Int) * 10 ^ k := by
          rw [← zpow_add₀ (by norm_num)]
          congr 1
          omega
      _ ≤ digits * 10 ^ k := by gcongr
  · have hcast : (digits : ℚ) < 10 ^ (count : Int) := by exact_mod_cast hhigh
    calc (digits * 10 ^ k : ℚ) < 10 ^ (count : Int) * 10 ^ k := by gcongr
      _ = 10 ^ (count + k) := by rw [← zpow_add₀ (by norm_num)]

theorem isCanonical_ofDecimal : (ofDecimal negative digits k).IsCanonical := by
  rw [ofDecimal]
  dsimp only
  split_ifs
  · exact fits_zero
  · trivial
  · exact fits_zero
  · exact isCanonical_ofRatio (unscale_pos (by norm_num) one_pos _ _)

/-- **Decimals in the rounding interval** of a canonical number are read as that number. -/
theorem ofDecimal_eq_finite (hfits : Fits m e) (hm : 0 < m) (h : IsNear m e (digits * 10 ^ k)) :
    ofDecimal negative digits k = finite negative m e := by
  have hdigits : digits ≠ 0 := by
    rintro rfl
    simpa using h.pos hm
  obtain ⟨hsmall, hlarge⟩ := h.bounds hfits hm
  obtain ⟨hlow, hhigh⟩ := decimal_bounds hdigits k
  have hten : (1 : ℚ) < 10 := by norm_num
  have habove := (zpow_lt_zpow_iff_right₀ hten).mp (hlow.trans_lt hlarge)
  have hbelow := (zpow_lt_zpow_iff_right₀ hten).mp (hsmall.trans hhigh)
  rw [ofDecimal, if_neg hdigits]
  dsimp only
  rw [if_neg (by omega), if_neg (by omega)]
  refine ofRatio_eq_finite hfits hm (unscale_pos (by norm_num) one_pos _ _) ?_
  rw [unscale_eq (by norm_num)]
  simpa using h

end Decimals

end PromptPress.Binary64
