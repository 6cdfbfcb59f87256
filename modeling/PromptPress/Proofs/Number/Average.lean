import PromptPress.Number.Quantity
import PromptPress.Proofs.Number.Bounds

/-!
# Means that can be formed

A mean fails if floating point cannot hold it or the sum on the way to it. Quantities that leave room for
their number keep it from failing (`exists_average`): each partial sum has a bound that is represented,
the number of its terms times the bound of one.
-/

namespace PromptPress

open Binary64

variable {bound bound' : ℚ}

namespace Quantity

variable {x y : Quantity}

/-- A quantity that is not below zero, and up to a bound. -/
def IsUpTo (bound : ℚ) : Quantity → Prop
  | whole n => 0 ≤ n ∧ n ≤ bound
  | float x => x.IsUpTo false bound

theorem isUpTo_ofInt {n : Int} (hn : 0 ≤ n) (hle : n ≤ bound) (hbound : IsRepresented bound) :
    (Binary64.ofInt n).IsUpTo false bound := by
  obtain ⟨n, rfl⟩ := Int.eq_ofNat_of_zero_le hn
  rw [Binary64.ofInt, decide_eq_false hn.not_gt]
  exact isUpTo_ofRatio one_pos hbound (by simpa using hle)

theorem IsUpTo.toBinary64 (h : x.IsUpTo bound) (hbound : IsRepresented bound) :
    x.toBinary64.IsUpTo false bound := by
  cases x with
  | whole n => exact isUpTo_ofInt h.1 h.2 hbound
  | float x => exact h

theorem IsUpTo.isBeyondFloat (h : x.IsUpTo bound) (hbound : IsRepresented bound) :
    x.isBeyondFloat = false := by
  cases x with
  | whole n => rw [Quantity.isBeyondFloat, (isUpTo_ofInt h.1 h.2 hbound).isFinite, Bool.not_true]
  | float x => rfl

/-! ### Sums -/

theorem IsUpTo.add? (hx : x.IsUpTo bound) (hy : y.IsUpTo bound') (hbound : IsRepresented bound)
    (hbound' : IsRepresented bound') (hsum : IsRepresented (bound + bound')) :
    ∃ sum, x.add? y = some sum ∧ sum.IsUpTo (bound + bound') := by
  have hfloat : ¬ (x.isBeyondFloat || y.isBeyondFloat) := by
    rw [hx.isBeyondFloat hbound, hy.isBeyondFloat hbound']
    decide
  have hrounded := (hx.toBinary64 hbound).add (hy.toBinary64 hbound') hsum
  cases x with
  | float x => exact ⟨_, if_neg hfloat, hrounded⟩
  | whole m =>
    cases y with
    | float y => exact ⟨_, if_neg hfloat, hrounded⟩
    | whole n =>
      refine ⟨_, rfl, Int.add_nonneg hx.1 hy.1, ?_⟩
      rw [Int.cast_add]
      exact add_le_add hx.2 hy.2

/-- Multiples of the greatest power of two are represented as long as they have 53 digits. -/
theorem isRepresented_mul_maxExponent {n : Nat} (h : n < 2 ^ 53) :
    IsRepresented (n * 2 ^ maxExponent) :=
  isRepresented_mul_zpow h (by decide) le_rfl

theorem exists_foldlM_add? {quantities : List Quantity} {n : Nat} (hx : x.IsUpTo (n * 2 ^ maxExponent))
    (h : ∀ q ∈ quantities, q.IsUpTo (2 ^ maxExponent)) (hlength : n + quantities.length < 2 ^ 53) :
    ∃ sum, quantities.foldlM add? x = some sum ∧
      sum.IsUpTo ((n + quantities.length : Nat) * 2 ^ maxExponent) := by
  induction quantities generalizing x n with
  | nil => exact ⟨x, rfl, hx⟩
  | cons q quantities ih =>
    obtain ⟨hq, hrest⟩ := List.forall_mem_cons.mp h
    rw [List.length_cons] at hlength
    have hone : IsRepresented (2 ^ maxExponent) := by
      simpa using isRepresented_mul_maxExponent (n := 1) (by norm_num)
    have hnext : (n * 2 ^ maxExponent + 2 ^ maxExponent : ℚ) = (n + 1 : Nat) * 2 ^ maxExponent := by
      push_cast
      ring
    have hrepresented : IsRepresented (n * 2 ^ maxExponent + 2 ^ maxExponent) := by
      rw [hnext]
      exact isRepresented_mul_maxExponent (by omega)
    obtain ⟨sum, hadd, hsum⟩ :=
      hx.add? hq (isRepresented_mul_maxExponent (by omega)) hone hrepresented
    rw [hnext] at hsum
    obtain ⟨total, hfold, htotal⟩ := ih hsum hrest (by omega)
    refine ⟨total, by rw [List.foldlM_cons, hadd]; exact hfold, ?_⟩
    rwa [List.length_cons, ← Nat.add_assoc, Nat.add_right_comm]

/-- Quantities that leave room for their number have a sum. -/
theorem exists_sum? {quantities : List Quantity} (h : ∀ q ∈ quantities, q.IsUpTo (2 ^ maxExponent))
    (hlength : quantities.length < 2 ^ 53) :
    ∃ sum, sum? quantities = some sum ∧ sum.IsUpTo (quantities.length * 2 ^ maxExponent) := by
  have hstart : (whole 0).IsUpTo ((0 : Nat) * 2 ^ maxExponent) := ⟨le_rfl, by simp⟩
  simpa [sum?] using exists_foldlM_add? hstart h (by omega)

end Quantity

/-! ### The mean -/

theorem isUpTo_quotient {n : Int} {count : Nat} (hn : 0 ≤ n) (hcount : 0 < count)
    (h : n ≤ count * bound) (hbound : IsRepresented bound) :
    (quotient n count).IsUpTo false bound := by
  obtain ⟨n, rfl⟩ := Int.eq_ofNat_of_zero_le hn
  rw [quotient, decide_eq_false hn.not_gt, decide_eq_false (Int.natCast_nonneg count).not_gt]
  refine isUpTo_ofRatio hcount hbound ?_
  rw [Int.natAbs_natCast, Int.natAbs_natCast, div_le_iff₀' (by exact_mod_cast hcount)]
  exact_mod_cast h

/-- **Quantities that leave room for their number have a mean**. -/
theorem exists_average {quantities : List Quantity}
    (h : ∀ q ∈ quantities, q.IsUpTo (2 ^ maxExponent)) (hlength : quantities.length < 2 ^ 53) :
    ∃ mean, average quantities = .ok mean := by
  obtain rfl | hne := eq_or_ne quantities []
  · exact ⟨none, rfl⟩
  have hcount : 0 < quantities.length := List.length_pos_iff.mpr hne
  obtain ⟨sum, hsum, hvalue⟩ := Quantity.exists_sum? h hlength
  rw [average, if_neg (by simpa using hne), hsum]
  cases sum with
  | whole n =>
    have hone := Quantity.isRepresented_mul_maxExponent (n := 1) (by norm_num)
    rw [Nat.cast_one, one_mul] at hone
    obtain ⟨num, den, hratio, -⟩ := (isUpTo_quotient hvalue.1 hcount hvalue.2 hone).toRatio?
    simp [Binary64.round?, hratio]
  | float x =>
    have hrepresented := Quantity.isRepresented_mul_maxExponent hlength
    obtain ⟨num, den, hratio, -⟩ := (hvalue.divNat hcount hrepresented).toRatio?
    simp [Binary64.round?, hratio]

end PromptPress
