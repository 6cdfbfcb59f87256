import PromptPress.Proofs.Number.Rounding

/-!
# Bounds that rounding keeps

Rounding does not step over a floating point number: a quotient up to a bound that is itself represented
is rounded to a number up to that bound (`isUpTo_ofRatio`). An operation that rounds its exact result
once therefore keeps every bound of that result that is represented, and overflows in no such case.
-/

namespace PromptPress.Binary64

variable {negative : Bool} {num den m n : Nat} {e : Int} {bound bound' : ℚ} {x y : Binary64}

/-- A rational number that is the value of a floating point number, and not below zero. -/
def IsRepresented (bound : ℚ) : Prop :=
  ∃ (m : Nat) (e : Int), m < 2 ^ 53 ∧ minExponent ≤ e ∧ e ≤ maxExponent ∧ bound = m * 2 ^ e

/-- A finite number with a sign, and with a magnitude up to a bound. -/
def IsUpTo (negative : Bool) (bound : ℚ) (x : Binary64) : Prop :=
  ∃ (m : Nat) (e : Int), x = finite negative m e ∧ m * 2 ^ e ≤ bound

theorem isRepresented_mul_zpow (hm : m < 2 ^ 53) (hlow : minExponent ≤ e) (hhigh : e ≤ maxExponent) :
    IsRepresented (m * 2 ^ e) :=
  ⟨m, e, hm, hlow, hhigh, rfl⟩

theorem IsRepresented.nonneg (h : IsRepresented bound) : 0 ≤ bound := by
  obtain ⟨m, e, -, -, -, rfl⟩ := h
  positivity

theorem IsUpTo.isFinite (h : IsUpTo negative bound x) : x.isFinite := by
  obtain ⟨m, e, rfl, -⟩ := h
  rfl

theorem isUpTo_zero (negative : Bool) (h : 0 ≤ bound) :
    IsUpTo negative bound (finite negative 0 minExponent) :=
  ⟨0, minExponent, rfl, by simpa using h⟩

/-! ### Rounding -/

/-- Halving a mantissa that was rounded up does not change the value. -/
theorem carry_value (m : Nat) (e : Int) :
    ((carry m e).1 : ℚ) * 2 ^ (carry m e).2 = m * 2 ^ e := by
  rw [carry]
  split_ifs with h
  · rw [h, zpow_add₀ two_ne_zero]
    push_cast
    ring
  · rfl

/-- **Rounding keeps a bound** that is represented. -/
theorem isUpTo_ofRatio (hden : 0 < den) (hbound : IsRepresented bound) (h : (num / den : ℚ) ≤ bound) :
    IsUpTo negative bound (ofRatio negative num den) := by
  by_cases hnum : num = 0
  · subst hnum
    exact isUpTo_zero negative hbound.nonneg
  obtain ⟨m, e, hm, hlow, hhigh, rfl⟩ := hbound
  have hlog : Int.log 2 (num / den : ℚ) < 53 + e := by
    have hx : (0 : ℚ) < num / den := by positivity
    rw [← Int.lt_zpow_iff_log_lt one_lt_two hx, Nat.cast_ofNat, zpow_add₀ two_ne_zero]
    calc (num / den : ℚ) ≤ m * 2 ^ e := h
      _ < 2 ^ (53 : Int) * 2 ^ e := by
          gcongr
          exact_mod_cast hm
  rw [ofRatio_eq hnum]
  dsimp only
  rw [leadExponent_eq hnum hden.ne']
  -- the bound is a whole number of places at the exponent that is chosen
  obtain ⟨k, hk⟩ : ∃ k : Nat, e = max (Int.log 2 (num / den : ℚ) - 52) minExponent + k :=
    ⟨(e - max (Int.log 2 (num / den : ℚ) - 52) minExponent).toNat, by omega⟩
  generalize max (Int.log 2 (num / den : ℚ) - 52) minExponent = e₁ at hk ⊢
  subst hk
  have hplaces : (m : ℚ) * 2 ^ (e₁ + k) = (m * 2 ^ k : Nat) * 2 ^ e₁ := by
    rw [zpow_add₀ two_ne_zero, zpow_natCast]
    push_cast
    ring
  rw [hplaces] at h ⊢
  have hmantissa := mantissaAt_le hden rfl h
  have hexponent : (carry (mantissaAt num den e₁) e₁).2 ≤ maxExponent := by
    rw [carry]
    split_ifs with hcarry
    · obtain _ | k := k
      · rw [hcarry, Nat.pow_eq] at hmantissa
        omega
      · omega
    · omega
  rw [if_neg hexponent.not_gt]
  refine ⟨_, _, rfl, ?_⟩
  rw [carry_value]
  gcongr

/-! ### Operations -/

/-- The exact value of a number up to a bound is a quotient up to the bound. -/
theorem IsUpTo.toRatio? (h : IsUpTo negative bound x) :
    ∃ num den, x.toRatio? = some (negative, num, den) ∧ 0 < den ∧ (num / den : ℚ) ≤ bound := by
  obtain ⟨m, e, rfl, hvalue⟩ := h
  refine ⟨(unscale 2 m 1 (-e)).1, (unscale 2 m 1 (-e)).2, rfl, unscale_pos two_pos one_pos _ _, ?_⟩
  rw [unscale_eq two_pos]
  simpa using hvalue

theorem IsUpTo.mulNat (h : IsUpTo negative bound x) (hbound : IsRepresented (bound * n)) :
    IsUpTo negative (bound * n) (x.mulNat n) := by
  obtain ⟨num, den, hratio, hden, hvalue⟩ := h.toRatio?
  simp only [Binary64.mulNat, hratio]
  refine isUpTo_ofRatio hden hbound ?_
  rw [Nat.cast_mul, mul_div_right_comm]
  gcongr

theorem IsUpTo.divNat (h : IsUpTo negative bound x) (hn : 0 < n) (hbound : IsRepresented bound) :
    IsUpTo negative bound (x.divNat n) := by
  obtain ⟨num, den, hratio, hden, hvalue⟩ := h.toRatio?
  simp only [Binary64.divNat, hratio]
  refine isUpTo_ofRatio (Nat.mul_pos hden hn) hbound ?_
  calc (num / (den * n : Nat) : ℚ) ≤ num / den := by
        gcongr
        exact Nat.le_mul_of_pos_right den hn
    _ ≤ bound := hvalue

theorem IsUpTo.round? (h : IsUpTo negative bound x) (hbound : bound ≤ n) :
    ∃ r : Nat, r ≤ n ∧ x.round? = some (if negative then -(r : Int) else r) := by
  obtain ⟨num, den, hratio, hden, hvalue⟩ := h.toRatio?
  refine ⟨roundQuotient num den, roundQuotient_le hden ?_, by rw [Binary64.round?, hratio]; rfl⟩
  have hden' : (0 : ℚ) < den := by exact_mod_cast hden
  have hle := (div_le_iff₀ hden').mp (hvalue.trans hbound)
  exact_mod_cast hle

theorem IsUpTo.add (hx : IsUpTo false bound x) (hy : IsUpTo false bound' y)
    (hbound : IsRepresented (bound + bound')) : IsUpTo false (bound + bound') (x.add y) := by
  obtain ⟨m, e, rfl, hx⟩ := hx
  obtain ⟨n, f, rfl, hy⟩ := hy
  -- both numbers are whole numbers of the smaller places
  have hplaces (k : Nat) {g : Int} (hg : min e f ≤ g) :
      ((k * 2 ^ (g - min e f).toNat : Nat) : ℚ) * 2 ^ min e f = k * 2 ^ g := by
    rw [Nat.cast_mul, Nat.cast_pow, Nat.cast_ofNat, ← zpow_natCast, mul_assoc,
      ← zpow_add₀ two_ne_zero]
    congr 2
    omega
  simp only [Binary64.add, Nat.pow_eq, Bool.false_eq_true, if_false, Bool.and_self]
  split_ifs with hsum
  · exact isUpTo_zero false hbound.nonneg
  · have hnonneg : ¬ ((m * 2 ^ (e - min e f).toNat : Nat) : Int) +
        (n * 2 ^ (f - min e f).toNat : Nat) < 0 := by omega
    rw [decide_eq_false hnonneg]
    refine isUpTo_ofRatio (unscale_pos two_pos one_pos _ _) hbound ?_
    rw [unscale_eq two_pos, Nat.cast_one, div_one, Nat.cast_ofNat, zpow_neg, div_inv_eq_mul,
      ← Nat.cast_add, Int.natAbs_natCast, Nat.cast_add, add_mul,
      hplaces m (min_le_left e f), hplaces n (min_le_right e f)]
    exact add_le_add hx hy

end PromptPress.Binary64
