import PromptPress.Npm.Range

/-!
# Inclusion of ranges

Each alternative of a range spans an interval of versions.  A range counts as included in another if
the interval of each of its alternatives lies within the interval of some alternative of the other.  How
texts are read as ranges and how versions are compared does not matter.
-/

namespace PromptPress.Npm

variable {ν : Type}

/-- An end of an interval: a version, and whether it belongs to the interval. -/
structure Bound (ν : Type) where
  version : ν
  inclusive : Bool
deriving DecidableEq, Inhabited

/-- An interval of versions; an end that is missing is open to that side. -/
structure Interval (ν : Type) where
  low : Option (Bound ν) := none
  high : Option (Bound ν) := none
deriving DecidableEq, Inhabited

variable [Ord ν]

/-- The tighter of two bounds; `side` is the order in which a tighter version stands to the other. -/
def Bound.tighter (side : Ordering) (current : Option (Bound ν)) (candidate : Bound ν) :
    Option (Bound ν) :=
  match current with
  | none => some candidate
  | some current =>
    match compare candidate.version current.version with
    | .eq => some ⟨current.version, current.inclusive && candidate.inclusive⟩
    | order => some (if order == side then candidate else current)

namespace Interval

/-- Raises the lower end. -/
def raise (i : Interval ν) (bound : Bound ν) : Interval ν :=
  { i with low := Bound.tighter .gt i.low bound }

/-- Lowers the upper end. -/
def cap (i : Interval ν) (bound : Bound ν) : Interval ν :=
  { i with high := Bound.tighter .lt i.high bound }

/-- The part of an interval in which a comparator holds. -/
def meet (i : Interval ν) (c : Comparator ν) : Interval ν :=
  match c.version with
  | none => i
  | some v =>
    match c.operator with
    | .greater => i.raise ⟨v, false⟩
    | .atLeast => i.raise ⟨v, true⟩
    | .less => i.cap ⟨v, false⟩
    | .atMost => i.cap ⟨v, true⟩
    | .equal => (i.raise ⟨v, true⟩).cap ⟨v, true⟩

/-- The interval in which all comparators hold. -/
def ofComparators (comparators : List (Comparator ν)) : Interval ν :=
  comparators.foldl meet {}

end Interval

/-- Whether an end of an inner interval does not lie beyond that of an outer one; `side` is the order
in which the inner version may stand to the outer one. -/
def Bound.within (side : Ordering) : Option (Bound ν) → Option (Bound ν) → Bool
  | _, none => true
  | none, some _ => false
  | some inner, some outer =>
    match compare inner.version outer.version with
    | .eq => outer.inclusive || !inner.inclusive
    | order => order == side

/-- Whether both ends of an interval lie within another. -/
def Interval.within (inner outer : Interval ν) : Bool :=
  Bound.within .gt inner.low outer.low && Bound.within .lt inner.high outer.high

/-- Whether each alternative of a range lies within some alternative of another. -/
def Range.within (required existing : Range ν) : Bool :=
  let outer := existing.map Interval.ofComparators
  required.all fun comparators => outer.any (Interval.ofComparators comparators).within

/-- Whether a range lies within another, both given as texts. -/
def rangeSubset (read : RangeReader ν) (required existing : String) : Except InvalidComparator Bool := do
  let outer ← read existing
  let inner ← read required
  return inner.within outer

/-- Whether a range that is there satisfies one that is asked for: the latter lies within it, or, if
either is not valid, their texts are equal. -/
def rangeSatisfied (read : RangeReader ν) (existing required : String) : Bool :=
  match rangeSubset read required existing with
  | .ok answer => answer
  | .error _ => existing == required

end PromptPress.Npm
