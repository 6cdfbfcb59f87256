import Mathlib.Data.Nat.Cast.Order.Field
import PromptPress.Number.Shortest
import PromptPress.Proofs.Number.Rounding

/-!
# The shortest text reads back

The digits that a finite number is written with lie in its rounding interval, so they are read as that
number (`ofDecimal_shortest`). Every point that the search of the grids gives is in the interval by its
own test; that the search ends is a matter of width: of the two neighbours of a number on a grid of 17
digits, one is nearer than half a place.
-/

namespace PromptPress.Binary64

variable {negative : Bool} {m c : Nat} {e k : Int}

/-! ### Points of a grid -/

/-- Quarters of the last place and points of a grid, as rational numbers. -/
theorem units_iff {unit den grid den' : Nat} {u g : ℚ} (hden : 0 < den) (hden' : 0 < den')
    (hunit : (unit : ℚ) / den = u) (hgrid : (grid : ℚ) / den' = g) (a c : Nat) :
    (a * unit * den' ≤ c * grid * den ↔ a * u ≤ c * g) ∧
      (a * unit * den' < c * grid * den ↔ a * u < c * g) ∧
      (c * grid * den ≤ a * unit * den' ↔ c * g ≤ a * u) ∧
      (c * grid * den < a * unit * den' ↔ c * g < a * u) := by
  have hd : (0 : ℚ) < den := by exact_mod_cast hden
  have hd' : (0 : ℚ) < den' := by exact_mod_cast hden'
  have hpos : (0 : ℚ) < den * den' := mul_pos hd hd'
  have hleft : a * u * (den * den') = ((a * unit * den' : Nat) : ℚ) := by
    rw [← hunit]
    push_cast
    field_simp
  have hright : c * g * (den * den') = ((c * grid * den : Nat) : ℚ) := by
    rw [← hgrid]
    push_cast
    field_simp
  refine ⟨?_, ?_, ?_, ?_⟩
  · rw [← mul_le_mul_iff_of_pos_right hpos, hleft, hright, Nat.cast_le]
  · rw [← mul_lt_mul_iff_of_pos_right hpos, hleft, hright, Nat.cast_lt]
  · rw [← mul_le_mul_iff_of_pos_right hpos, hleft, hright, Nat.cast_le]
  · rw [← mul_lt_mul_iff_of_pos_right hpos, hleft, hright, Nat.cast_lt]

/-- A point of a grid is tested for being in the rounding interval. -/
theorem isNear_iff_units {unit den grid den' : Nat} (hden : 0 < den) (hden' : 0 < den')
    (hunit : (unit : ℚ) / den = 2 ^ (e - 2)) (hgrid : (grid : ℚ) / den' = 10 ^ k) (c : Nat) :
    (if m % 2 = 0 then
      lowQuarters m e * unit * den' ≤ c * grid * den ∧ c * grid * den ≤ (4 * m + 2) * unit * den'
    else lowQuarters m e * unit * den' < c * grid * den ∧ c * grid * den < (4 * m + 2) * unit * den') ↔
      IsNear m e (c * 10 ^ k) := by
  obtain ⟨hle, hlt, -⟩ := units_iff hden hden' hunit hgrid (lowQuarters m e) c
  obtain ⟨-, -, hge, hgt⟩ := units_iff hden hden' hunit hgrid (4 * m + 2) c
  rw [IsNear]
  split_ifs
  · exact and_congr hle hge
  · exact and_congr hlt hgt

/-- One of two neighbours that has a property, the preferred one if both have it. -/
theorem neighbour_spec (inside : Nat → Prop) [DecidablePred inside] (below preferred : Nat)
    (hpreferred : preferred = below ∨ preferred = below + 1) :
    let choice := if inside below ∧ inside (below + 1) then some preferred
      else if inside below then some below
      else if inside (below + 1) then some (below + 1) else none
    (∀ c, choice = some c → inside c) ∧ (inside below ∨ inside (below + 1) → choice.isSome) := by
  dsimp only
  split_ifs with hboth hbelow habove
  · refine ⟨?_, fun _ => rfl⟩
    rintro c ⟨⟩
    rcases hpreferred with rfl | rfl
    · exact hboth.1
    · exact hboth.2
  · exact ⟨by rintro c ⟨⟩; exact hbelow, fun _ => rfl⟩
  · exact ⟨by rintro c ⟨⟩; exact habove, fun _ => rfl⟩
  · exact ⟨nofun, fun h => (h.elim hbelow habove).elim⟩

/-- **The search on one grid** looks at the neighbours of a number: it gives one of them that is in the
rounding interval, if there is one. -/
theorem nearestOnGrid?_spec (m : Nat) (e k : Int) :
    ∃ below : Nat, (below : ℚ) * 10 ^ k ≤ m * 2 ^ e ∧ (m * 2 ^ e : ℚ) < (below + 1 : Nat) * 10 ^ k ∧
      (∀ c, nearestOnGrid? m e k = some c → IsNear m e (c * 10 ^ k)) ∧
      (IsNear m e (below * 10 ^ k) ∨ IsNear m e ((below + 1 : Nat) * 10 ^ k) →
        (nearestOnGrid? m e k).isSome) := by
  have hden := unscale_pos two_pos one_pos 1 (-(e - 2))
  have hden' := unscale_pos (show 0 < 10 by norm_num) one_pos 1 (-k)
  have hunit := unscale_eq two_pos 1 1 (-(e - 2))
  have hgrid := unscale_eq (show 0 < 10 by norm_num) 1 1 (-k)
  rw [Nat.cast_one, div_one, zpow_neg, one_div, inv_inv, Nat.cast_ofNat] at hunit hgrid
  rw [nearestOnGrid?]
  dsimp only
  generalize unscale 2 1 1 (-(e - 2)) = p at *
  generalize unscale 10 1 1 (-k) = q at *
  obtain ⟨unit, den⟩ := p
  obtain ⟨grid, den'⟩ := q
  have hunits := units_iff hden hden' hunit hgrid
  dsimp only at hunits hgrid hden hden'
  have hstep : 0 < 1 * grid * den := by
    have hpos : (0 : ℚ) < grid / den' := by
      rw [hgrid]
      positivity
    rcases Nat.eq_zero_or_pos grid with rfl | hgrid
    · simp at hpos
    · exact Nat.mul_pos (by omega) hden
  have hvalue : ((4 * m : Nat) : ℚ) * 2 ^ (e - 2) = m * 2 ^ e := by
    rw [IsNear.quarter_eq]
    push_cast
    ring
  have hchoice := neighbour_spec (fun c => if m % 2 = 0 then
        lowQuarters m e * unit * den' ≤ c * grid * den ∧ c * grid * den ≤ (4 * m + 2) * unit * den'
      else lowQuarters m e * unit * den' < c * grid * den ∧ c * grid * den < (4 * m + 2) * unit * den')
    (4 * m * unit * den' / (1 * grid * den))
  simp only [isNear_iff_units hden hden' hunit hgrid] at hchoice
  refine ⟨4 * m * unit * den' / (1 * grid * den), ?_, ?_, hchoice _ ?_⟩
  · rw [← hvalue, ← (hunits _ _).2.2.1]
    calc 4 * m * unit * den' / (1 * grid * den) * grid * den
        = 4 * m * unit * den' / (1 * grid * den) * (1 * grid * den) := by ring
      _ ≤ 4 * m * unit * den' := Nat.div_mul_le_self _ _
  · rw [← hvalue, ← (hunits _ _).2.1]
    calc 4 * m * unit * den'
        < 4 * m * unit * den' / (1 * grid * den) * (1 * grid * den) + 1 * grid * den :=
          Nat.lt_div_mul_add hstep
      _ = (4 * m * unit * den' / (1 * grid * den) + 1) * grid * den := by ring
  · split_ifs
    · exact .inl rfl
    · exact .inr rfl
    · generalize 4 * m * unit * den' / (1 * grid * den) = below
      omega

/-! ### The grid of 17 digits -/

theorem isNear_of_lt {x : ℚ} (hlow : (lowQuarters m e : ℚ) * 2 ^ (e - 2) < x)
    (hhigh : x < ((m : ℚ) + 1 / 2) * 2 ^ e) : IsNear m e x := by
  have hend : ((m : ℚ) + 1 / 2) * 2 ^ e = ((4 * m + 2 : Nat) : ℚ) * 2 ^ (e - 2) := by
    rw [IsNear.quarter_eq]
    push_cast
    ring
  rw [hend] at hhigh
  rw [IsNear]
  split_ifs
  · exact ⟨hlow.le, hhigh.le⟩
  · exact ⟨hlow, hhigh⟩

/-- A grid with more than 16 digits of a number has a point in the rounding interval. -/
theorem isSome_nearestOnGrid? (hfits : Fits m e) (hm : 0 < m)
    (hgrid : (10 : ℚ) ^ (k + 16) ≤ m * 2 ^ e) : (nearestOnGrid? m e k).isSome := by
  obtain ⟨below, hbelow, habove, -, hsome⟩ := nearestOnGrid?_spec m e k
  apply hsome
  have hstep : (10 : ℚ) ^ k * 10 ^ 16 ≤ m * 2 ^ e := by
    rw [zpow_add₀ (by norm_num)] at hgrid
    exact_mod_cast hgrid
  have hpow : (0 : ℚ) < 2 ^ e := by positivity
  push_cast at habove
  by_cases hnear : ((below : ℚ) + 1) * 10 ^ k < (m + 1 / 2) * 2 ^ e
  · -- the upper neighbour is in the upper half of the interval
    right
    push_cast
    refine isNear_of_lt (lt_of_le_of_lt ?_ habove) hnear
    have hquarters : (lowQuarters m e : ℚ) ≤ 4 * m := by
      have : lowQuarters m e ≤ 4 * m := by
        rw [lowQuarters]
        split_ifs <;> omega
      exact_mod_cast this
    calc (lowQuarters m e : ℚ) * 2 ^ (e - 2) ≤ 4 * m * 2 ^ (e - 2) := by gcongr
      _ = m * 2 ^ e := by
          rw [IsNear.quarter_eq]
          ring
  · -- otherwise the lower neighbour is less than one step below the end of the interval
    left
    rw [not_lt] at hnear
    refine isNear_of_lt ?_ (hbelow.trans_lt ?_)
    · have hmantissa : (m : ℚ) ≤ 2 ^ 53 := by exact_mod_cast hfits.mantissa_lt.le
      rw [IsNear.quarter_eq, lowQuarters]
      split_ifs with hpower
      · have hm' : (m : ℚ) = 2 ^ 52 := by exact_mod_cast hpower.1
        rw [Nat.cast_sub (by omega)]
        push_cast
        rw [hm'] at hstep hnear ⊢
        norm_num at hstep hnear ⊢
        linarith
      · have hwide : (m : ℚ) * 2 ^ e ≤ 2 ^ 53 * 2 ^ e := by gcongr
        rw [Nat.cast_sub (by omega)]
        push_cast
        norm_num at hstep hnear hwide ⊢
        linarith
    · gcongr
      linarith

/-! ### The search -/

theorem le_leadingZeros {num den : Nat} (bound j : Nat) (h : den ≤ num * 10 ^ (j + bound)) :
    den ≤ num * 10 ^ leadingZeros num den bound j := by
  induction bound generalizing j with
  | zero => exact h
  | succ bound ih =>
    rw [leadingZeros]
    split_ifs with hfound
    · exact hfound
    · exact ih (j + 1) (by rwa [Nat.succ_add_eq_add_succ])

/-- As many zeros as were found lead up to the first digit. -/
theorem leadingZeros_le {num den : Nat} (hden : 0 < den) (bound : Nat)
    (h : (10 : ℚ) ^ (-bound : Int) < num / den) :
    (10 : ℚ) ^ (-leadingZeros num den bound 1 : Int) ≤ num / den := by
  have hden' : (0 : ℚ) < den := by exact_mod_cast hden
  have hiff : ∀ n : Nat, (10 : ℚ) ^ (-n : Int) ≤ num / den ↔ den ≤ num * 10 ^ n := by
    intro n
    rw [zpow_neg, zpow_natCast, le_div_iff₀ hden', inv_mul_le_iff₀ (by positivity), mul_comm]
    norm_cast
  rw [hiff]
  exact le_leadingZeros bound 1
    (((hiff bound).mp h.le).trans (Nat.mul_le_mul_left _ (Nat.pow_le_pow_right Nat.ofNat_pos (by omega))))

/-- The decimal point stands behind the leading digit. -/
theorem decimalPoint_le {num den : Nat} (hden : 0 < den)
    (hbound : (10 : ℚ) ^ (-400 : Int) < num / den) :
    (10 : ℚ) ^ (decimalPoint num den - 1) ≤ num / den := by
  rw [decimalPoint]
  split_ifs with hone
  · have hdigits : num / den ≠ 0 := (Nat.div_pos hone hden).ne'
    have hlow := (decimal_bounds hdigits 0).1
    rw [add_zero, zpow_zero, mul_one] at hlow
    exact hlow.trans Nat.cast_div_le
  · have hzeros := leadingZeros_le hden 400 hbound
    rwa [show ∀ j : Int, 1 - j - 1 = -j by intro j; omega]

theorem isNear_searchGrids {point : Int} (hlast : (nearestOnGrid? m e (point - 17)).isSome)
    (bound n : Nat) (hbound : n + bound = 17) :
    IsNear m e ((searchGrids m e point (bound + 1) n).1 *
      10 ^ (searchGrids m e point (bound + 1) n).2) := by
  obtain ⟨-, -, -, hnear, -⟩ := nearestOnGrid?_spec m e (point - n)
  rw [searchGrids]
  split
  · next c hfound => exact hnear c hfound
  · next hnone =>
    -- the last grid does not fail
    induction bound generalizing n with
    | zero =>
      obtain rfl : n = 17 := hbound
      rw [Nat.cast_ofNat] at hnone
      simp [hnone] at hlast
    | succ bound ih =>
      rw [searchGrids]
      obtain ⟨-, -, -, hnear, -⟩ := nearestOnGrid?_spec m e (point - (n + 1 : Nat))
      split
      · next c hfound => exact hnear c hfound
      · next hnone => exact ih (n + 1) (by omega) hnear hnone

theorem dropZeros_eq (bound digits : Nat) (k : Int) :
    ((dropZeros bound digits k).1 : ℚ) * 10 ^ (dropZeros bound digits k).2 = digits * 10 ^ k := by
  induction bound generalizing digits k with
  | zero => rfl
  | succ bound ih =>
    rw [dropZeros]
    split_ifs with hzero
    · obtain ⟨rest, rfl⟩ := Nat.dvd_of_mod_eq_zero hzero.2
      rw [ih, Nat.mul_div_cancel_left _ (by norm_num), zpow_add₀ (by norm_num)]
      push_cast
      ring
    · rfl

theorem isNear_shortest (hfits : Fits m e) (hm : 0 < m) :
    IsNear m e ((shortest m e).1 * 10 ^ (shortest m e).2) := by
  have hden := unscale_pos two_pos one_pos m (-e)
  have hvalue : ((unscale 2 m 1 (-e)).1 : ℚ) / (unscale 2 m 1 (-e)).2 = m * 2 ^ e := by
    rw [unscale_eq two_pos]
    simp
  have hself : IsNear m e (m * 2 ^ e) := by
    have hpow : (0 : ℚ) < 2 ^ e := by positivity
    refine isNear_of_lt ?_ (by gcongr; linarith)
    have hquarters : (lowQuarters m e : ℚ) < 4 * m := by
      have : lowQuarters m e < 4 * m := by
        rw [lowQuarters]
        split_ifs <;> omega
      exact_mod_cast this
    rw [IsNear.quarter_eq]
    nlinarith
  have hpoint := decimalPoint_le hden (hvalue ▸ (hself.bounds hfits hm).1)
  rw [hvalue] at hpoint
  rw [shortest]
  dsimp only
  rw [dropZeros_eq]
  refine isNear_searchGrids (isSome_nearestOnGrid? hfits hm ?_) 16 1 rfl
  convert hpoint using 2
  omega

/-- The digits of a positive number are not all zero. -/
theorem shortest_pos (hfits : Fits m e) (hm : 0 < m) : 0 < (shortest m e).1 := by
  have hpos := (isNear_shortest hfits hm).pos hm
  rcases Nat.eq_zero_or_pos (shortest m e).1 with hzero | hdigits
  · simp [hzero] at hpos
  · exact hdigits

/-- **The shortest digits read back.** Every decimal with the value of the digits that a number is written
with is read as that number. -/
theorem ofDecimal_shortest {digits : Nat} (hfits : Fits m e) (hm : 0 < m)
    (hvalue : (digits * 10 ^ k : ℚ) = (shortest m e).1 * 10 ^ (shortest m e).2) :
    ofDecimal negative digits k = finite negative m e :=
  ofDecimal_eq_finite hfits hm (hvalue ▸ isNear_shortest hfits hm)

end PromptPress.Binary64
