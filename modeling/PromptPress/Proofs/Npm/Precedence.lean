import Mathlib.Data.Prod.Lex
import Mathlib.Data.String.Basic
import Mathlib.Order.Compare
import PromptPress.Npm.Version

/-!
# Precedence of versions

The order of versions is linear: the numbers decide first (`Version.lt_iff`), and of versions with the
same numbers the prereleases, none at all coming last. Prereleases are not dense: right after a list of
identifiers comes the same list with a zero at its end (`isLE_append_zero`).
-/

namespace PromptPress.Npm

/-! ### Identifiers -/

namespace Identifier

instance : Std.TransCmp order where
  eq_swap {a b} := by
    cases a <;> cases b <;> simp only [order]
    case number.number => exact Std.OrientedOrd.eq_swap
    case word.word => exact Std.OrientedOrd.eq_swap
    all_goals rfl
  isLE_trans {a b c} hab hbc := by
    cases a <;> cases b <;> cases c <;> simp only [order] at *
    all_goals first | exact Std.TransOrd.isLE_trans hab hbc | contradiction | rfl

instance : Std.LawfulEqCmp order where
  compare_self {a} := by cases a <;> exact Std.ReflOrd.compare_self
  eq_of_compare {a b} h := by
    cases a <;> cases b <;> simp only [order] at h
    case number.number => exact congrArg number (Std.LawfulEqOrd.eq_of_compare h)
    case word.word => exact congrArg word (Std.LawfulEqOrd.eq_of_compare h)
    all_goals contradiction

/-- No identifier comes before the number zero. -/
theorem isLE_zero_order (a : Identifier) : ((number 0).order a).isLE = true := by
  cases a with
  | number n => cases n <;> rfl
  | word _ => rfl

end Identifier

/-! ### Lists of identifiers -/

theorem orderIdentifiers_eq : orderIdentifiers = List.compareLex Identifier.order := by
  funext as bs
  induction as generalizing bs with
  | nil => cases bs <;> rfl
  | cons a as ih =>
    cases bs with
    | nil => rfl
    | cons b bs => rw [orderIdentifiers, List.compareLex_cons_cons, ih]

instance : Std.TransCmp orderIdentifiers :=
  orderIdentifiers_eq ▸ inferInstance

instance : Std.LawfulEqCmp orderIdentifiers :=
  orderIdentifiers_eq ▸ inferInstance

/-- A list of identifiers that goes on has the number zero next, or something after it. -/
theorem isLE_append_zero {as bs : List Identifier} (h : orderIdentifiers as bs = .lt) :
    (orderIdentifiers (as ++ [.number 0]) bs).isLE = true := by
  induction as generalizing bs with
  | nil =>
    cases bs with
    | nil => cases h
    | cons b bs =>
      rw [List.nil_append, orderIdentifiers, Ordering.isLE_then_iff_and]
      refine ⟨b.isLE_zero_order, .inr ?_⟩
      cases bs <;> rfl
  | cons a as ih =>
    cases bs with
    | nil => cases h
    | cons b bs =>
      rw [List.cons_append, orderIdentifiers, Ordering.isLE_then_iff_or]
      rw [orderIdentifiers, Ordering.then_eq_lt] at h
      exact h.imp_right fun ⟨heq, hlt⟩ => ⟨heq, ih hlt⟩

theorem lt_append_zero (as : List Identifier) :
    orderIdentifiers as (as ++ [.number 0]) = .lt := by
  induction as with
  | nil => rfl
  | cons a as ih =>
    have heq : a.order a = .eq := Std.ReflCmp.compare_self
    rw [List.cons_append, orderIdentifiers, heq]
    exact ih

/-! ### Prereleases -/

instance : Std.TransCmp orderPrerelease where
  eq_swap {as bs} := by
    cases as <;> cases bs
    case cons.cons a as b bs =>
      exact (Std.OrientedCmp.eq_swap : orderIdentifiers (a :: as) (b :: bs) = _)
    all_goals rfl
  isLE_trans {as bs cs} hab hbc := by
    cases as <;> cases bs <;> cases cs
    case cons.cons.cons a as b bs c cs =>
      have hab' : (orderIdentifiers (a :: as) (b :: bs)).isLE := hab
      have hbc' : (orderIdentifiers (b :: bs) (c :: cs)).isLE := hbc
      exact (Std.TransCmp.isLE_trans hab' hbc' : (orderIdentifiers (a :: as) (c :: cs)).isLE)
    all_goals first | rfl | contradiction

instance : Std.LawfulEqCmp orderPrerelease where
  compare_self {as} := by
    cases as with
    | nil => rfl
    | cons a as => exact (Std.ReflCmp.compare_self : orderIdentifiers (a :: as) (a :: as) = .eq)
  eq_of_compare {as bs} h := by
    cases as <;> cases bs
    case cons.cons a as b bs =>
      have h' : orderIdentifiers (a :: as) (b :: bs) = .eq := h
      exact Std.LawfulEqCmp.eq_of_compare h'
    all_goals first | rfl | contradiction

/-! ### Versions -/

namespace Version

/-- The three numbers of a version, the first one counting most. -/
def numbers (v : Version) : ℕ ×ₗ ℕ ×ₗ ℕ :=
  toLex (v.major, toLex (v.minor, v.patch))

/-- Whether a version is a prerelease. -/
def isPrerelease (v : Version) : Bool :=
  !v.prerelease.isEmpty

theorem order_eq (a b : Version) :
    a.order b = (compare a.numbers b.numbers).then (orderPrerelease a.prerelease b.prerelease) := by
  simp only [Prod.Lex.compare_def, compareLex, compareOn, numbers, ofLex_toLex, Ordering.then_assoc]
  rfl

theorem ext_numbers {a b : Version} (hnumbers : a.numbers = b.numbers)
    (hprerelease : a.prerelease = b.prerelease) : a = b := by
  cases a
  cases b
  simp_all [numbers]

instance : Std.TransCmp order where
  eq_swap {a b} := by
    rw [order_eq, order_eq, Ordering.swap_then]
    congr 1 <;> exact Std.OrientedCmp.eq_swap
  isLE_trans {a b c} hab hbc := by
    rw [order_eq, Ordering.isLE_then_iff_or, compare_lt_iff_lt, compare_eq_iff_eq] at *
    rcases hab with hab | ⟨hab, hab'⟩ <;> rcases hbc with hbc | ⟨hbc, hbc'⟩
    · exact .inl (hab.trans hbc)
    · exact .inl (hab.trans_eq hbc)
    · exact .inl (hab.trans_lt hbc)
    · exact .inr ⟨hab.trans hbc, Std.TransCmp.isLE_trans hab' hbc'⟩

instance : Std.LawfulEqCmp order where
  compare_self {a} := by
    rw [order_eq, Ordering.then_eq_eq]
    exact ⟨Std.ReflCmp.compare_self, Std.ReflCmp.compare_self⟩
  eq_of_compare {a b} h := by
    rw [order_eq, Ordering.then_eq_eq, compare_eq_iff_eq] at h
    exact ext_numbers h.1 (Std.LawfulEqCmp.eq_of_compare h.2)

instance : Std.TransOrd Version :=
  inferInstanceAs (Std.TransCmp order)

/-- **The order of versions is linear.** -/
instance : LinearOrder Version where
  le a b := (a.order b).isLE
  lt a b := a.order b = .lt
  le_refl a := by
    have heq : a.order a = .eq := Std.ReflCmp.compare_self
    rw [heq]
    rfl
  le_trans a b c := Std.TransCmp.isLE_trans
  lt_iff_le_not_ge a b := by
    have hswap : b.order a = (a.order b).swap := Std.OrientedCmp.eq_swap
    rw [hswap]
    cases a.order b <;> decide
  le_antisymm a b hab hba :=
    Std.LawfulEqCmp.eq_of_compare (Std.OrientedCmp.isLE_antisymm hab hba)
  le_total a b := by
    have hswap : b.order a = (a.order b).swap := Std.OrientedCmp.eq_swap
    rw [hswap]
    cases a.order b <;> decide
  compare := order
  compare_eq_compareOfLessAndEq a b := by
    have heq : a.order b = .eq ↔ a = b := Std.LawfulEqCmp.compare_eq_iff_eq
    change a.order b = if a.order b = .lt then .lt else if a = b then .eq else .gt
    cases h : a.order b <;> simp [← heq, h]
  toDecidableLE a b := inferInstanceAs (Decidable (_ = true))
  toDecidableLT a b := inferInstanceAs (Decidable (_ = _))
  toDecidableEq := inferInstance

variable {a b : Version}

theorem order_eq_lt_iff : a.order b = .lt ↔ a < b :=
  Iff.rfl

theorem order_eq_gt_iff : a.order b = .gt ↔ b < a :=
  Std.OrientedCmp.gt_iff_lt

theorem isLE_order_iff : (a.order b).isLE ↔ a ≤ b :=
  Iff.rfl

/-- **The numbers decide first**, and prereleases where the numbers are the same. -/
theorem lt_iff : a < b ↔ a.numbers < b.numbers ∨
    a.numbers = b.numbers ∧ orderPrerelease a.prerelease b.prerelease = .lt := by
  rw [← order_eq_lt_iff, order_eq, Ordering.then_eq_lt, compare_lt_iff_lt, compare_eq_iff_eq]

theorem le_iff : a ≤ b ↔ a.numbers < b.numbers ∨
    a.numbers = b.numbers ∧ (orderPrerelease a.prerelease b.prerelease).isLE := by
  rw [← isLE_order_iff, order_eq, Ordering.isLE_then_iff_or, compare_lt_iff_lt, compare_eq_iff_eq]

end Version

end PromptPress.Npm
