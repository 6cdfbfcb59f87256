/-!
# Slices

Bounds of a slice may be counted from the end: a negative bound has the length added to it.  Bounds
outside a list are moved to its ends.
-/

namespace PromptPress

/-- The place that a bound names in a list of some length. -/
def boundIn (length : Nat) (bound : Int) : Nat :=
  if bound < 0 then (bound + length).toNat else min bound.toNat length

/-- The items before a bound. -/
def sliceTo {α : Type} (xs : List α) (stop : Int) : List α :=
  xs.take (boundIn xs.length stop)

/-- The items from one bound on and before another. -/
def slice {α : Type} (xs : List α) (start stop : Int) : List α :=
  (xs.take (boundIn xs.length stop)).drop (boundIn xs.length start)

end PromptPress
