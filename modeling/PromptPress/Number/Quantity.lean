import PromptPress.Json.Value
import PromptPress.Number.Shortest

/-!
# Quantities

A measured quantity is a whole number or a floating point number.  Sums of whole numbers are exact;
once a floating point number has been added, every further sum is rounded, and a whole number beyond
the range of floating point can no longer be added.
-/

namespace PromptPress

/-- A number as it was measured or written. -/
inductive Quantity where
  | whole (n : Int)
  | float (x : Binary64)
deriving DecidableEq, Inhabited

namespace Quantity

/-- The quantity that a value stands for; a truth value counts as one or zero. -/
def ofJson? : Json → Option Quantity
  | .int n => some (whole n)
  | .float x => some (float x)
  | .bool b => some (whole (if b then 1 else 0))
  | _ => none

/-- The value of a quantity. -/
def toJson : Quantity → Json
  | whole n => .int n
  | float x => .float x

/-- The nearest floating point number. -/
def toBinary64 : Quantity → Binary64
  | whole n => .ofInt n
  | float x => x

/-- Whether a quantity is greater than zero. -/
def isPositive : Quantity → Bool
  | whole n => 0 < n
  | float x => x.isPositive

/-- Whether a quantity is zero. -/
def isZero : Quantity → Bool
  | whole n => n == 0
  | float x => x.isZero

/-- Whether a quantity is a whole number that is too large for a floating point number. -/
def isBeyondFloat : Quantity → Bool
  | whole n => !(Binary64.ofInt n).isFinite
  | float _ => false

/-- The sum of two quantities, if it can be formed. -/
def add? : Quantity → Quantity → Option Quantity
  | whole m, whole n => some (whole (m + n))
  | x, y =>
    if x.isBeyondFloat || y.isBeyondFloat then none
    else some (float (x.toBinary64.add y.toBinary64))

/-- The sum of all quantities, taken from the left, if it can be formed. -/
def sum? (quantities : List Quantity) : Option Quantity :=
  quantities.foldlM add? (whole 0)

/-- The text of a quantity. -/
def render : Quantity → String
  | whole n => toString n
  | float x => String.ofList (x.render Binary64.plain)

end Quantity

/-- The floating point number nearest to the quotient of two integers. -/
def quotient (num den : Int) : Binary64 :=
  .ofRatio (decide (num < 0) != decide (den < 0)) num.natAbs den.natAbs

/-- Why quantities have no average. -/
inductive AverageError where
  /-- The sum in floating point is infinite. -/
  | unbounded
  /-- The exact sum is too large for a quotient in floating point. -/
  | tooLarge
  /-- A whole number is too large to be added to a floating point number. -/
  | beyondFloat
deriving DecidableEq, Inhabited

/-- The message of an error. -/
def AverageError.message : AverageError → String
  | unbounded => "cannot convert float infinity to integer"
  | tooLarge => "integer division result too large for a float"
  | beyondFloat => "int too large to convert to float"

/-- The mean of quantities rounded to a whole number, a half to the even one; none if there are no
quantities. -/
def average (quantities : List Quantity) : Except AverageError (Option Int) :=
  if quantities.isEmpty then .ok none
  else
    match Quantity.sum? quantities with
    | none => .error .beyondFloat
    | some (.whole n) =>
      match (quotient n quantities.length).round? with
      | some mean => .ok (some mean)
      | none => .error .tooLarge
    | some (.float x) =>
      match (x.divNat quantities.length).round? with
      | some mean => .ok (some mean)
      | none => .error .unbounded

end PromptPress
