/-!
# Binary floating point numbers

Numbers of 53 significant bits with a bounded exponent, as exact values.  A finite number is
`± mantissa · 2 ^ exponent`; arithmetic is carried out on exact quotients and rounded once, to the
nearest number, and to the even one of two that are equally near.
-/

namespace PromptPress

/-- A binary floating point number of 64 bits. -/
inductive Binary64 where
  /-- The number `± mantissa · 2 ^ exponent`. -/
  | finite (negative : Bool) (mantissa : Nat) (exponent : Int)
  | infinite (negative : Bool)
  | undefined
deriving DecidableEq, Inhabited

namespace Binary64

/-- The exponent of the smallest numbers. -/
def minExponent : Int := -1074

/-- The exponent of the largest numbers. -/
def maxExponent : Int := 971

/-- Zero. -/
def zero : Binary64 := finite false 0 minExponent

/-- The quotient of two naturals rounded to the nearest natural, a half to the even one. -/
def roundQuotient (num den : Nat) : Nat :=
  let q := num / den
  let twice := 2 * (num % den)
  if twice < den then q
  else if den < twice then q + 1
  else q + q % 2

/-- The quotient `num / (den · base ^ e)` as a numerator and a denominator. -/
def unscale (base num den : Nat) (e : Int) : Nat × Nat :=
  if 0 ≤ e then (num, den * Nat.pow base e.toNat) else (num * Nat.pow base (-e).toNat, den)

/-- The floating point number nearest to `± num / den`. -/
def ofRatio (negative : Bool) (num den : Nat) : Binary64 :=
  if num = 0 then finite negative 0 minExponent
  else
    let e₀ : Int := (num.log2 : Int) - den.log2 - 53
    let (n₀, d₀) := unscale 2 num den e₀
    let e := max (if n₀ / d₀ < Nat.pow 2 53 then e₀ else e₀ + 1) minExponent
    let (n, d) := unscale 2 num den e
    let m := roundQuotient n d
    let (m, e) := if m = Nat.pow 2 53 then (Nat.pow 2 52, e + 1) else (m, e)
    if maxExponent < e then infinite negative else finite negative m e

/-- The floating point number nearest to an integer. -/
def ofInt (n : Int) : Binary64 :=
  ofRatio (n < 0) n.natAbs 1

/-- The floating point number nearest to `± digits · 10 ^ exponent`. -/
def ofDecimal (negative : Bool) (digits : Nat) (exponent : Int) : Binary64 :=
  if digits = 0 then finite negative 0 minExponent
  else
    -- beyond these bounds the answer no longer depends on the digits
    let magnitude : Int := (Nat.toDigits 10 digits).length + exponent
    if 400 < magnitude then infinite negative
    else if magnitude < -400 then finite negative 0 minExponent
    else
      let (num, den) := unscale 10 digits 1 (-exponent)
      ofRatio negative num den

/-- Whether the number is neither infinite nor undefined. -/
def isFinite : Binary64 → Bool
  | finite .. => true
  | _ => false

/-- The exact value of a finite number as sign, numerator and denominator. -/
def toRatio? : Binary64 → Option (Bool × Nat × Nat)
  | finite negative m e =>
    let (num, den) := unscale 2 m 1 (-e)
    some (negative, num, den)
  | _ => none

/-- The integer that a finite number is nearest to, cut off toward zero. -/
def truncate? (x : Binary64) : Option Int :=
  x.toRatio?.map fun (negative, num, den) =>
    if negative then -(num / den : Nat) else (num / den : Nat)

/-- Whether the number is a finite integer. -/
def isInteger (x : Binary64) : Bool :=
  match x.toRatio? with
  | some (_, num, den) => num % den == 0
  | none => false

/-- The integer nearest to a finite number, a half to the even one. -/
def round? (x : Binary64) : Option Int :=
  x.toRatio?.map fun (negative, num, den) =>
    if negative then -(roundQuotient num den : Nat) else (roundQuotient num den : Nat)

/-- The number with at most `places` decimals that is nearest to the exact value, as a float again. -/
def roundPlaces (x : Binary64) (places : Nat) : Binary64 :=
  match x.toRatio? with
  | some (negative, num, den) =>
    ofRatio negative (roundQuotient (num * Nat.pow 10 places) den) (Nat.pow 10 places)
  | none => x

/-- Whether a number is greater than zero. -/
def isPositive : Binary64 → Bool
  | finite negative m _ => !negative && m != 0
  | infinite negative => !negative
  | undefined => false

/-- Whether a number is zero, of either sign. -/
def isZero : Binary64 → Bool
  | finite _ m _ => m == 0
  | _ => false

/-- The sum of two numbers. -/
def add (x y : Binary64) : Binary64 :=
  match x, y with
  | undefined, _ | _, undefined => undefined
  | infinite a, infinite b => if a == b then infinite a else undefined
  | infinite a, _ => infinite a
  | _, infinite b => infinite b
  | finite a m e, finite b n f =>
    let low := min e f
    let m' : Int := (m * Nat.pow 2 (e - low).toNat : Nat)
    let n' : Int := (n * Nat.pow 2 (f - low).toNat : Nat)
    let sum := (if a then -m' else m') + (if b then -n' else n')
    if sum = 0 then finite (a && b) 0 minExponent
    else
      let (num, den) := unscale 2 sum.natAbs 1 (-low)
      ofRatio (sum < 0) num den

/-- A number divided by a positive natural. -/
def divNat (x : Binary64) (n : Nat) : Binary64 :=
  match x.toRatio? with
  | some (negative, num, den) => ofRatio negative num (den * n)
  | none => x

/-- A number times a natural. -/
def mulNat (x : Binary64) (n : Nat) : Binary64 :=
  match x.toRatio? with
  | some (negative, num, den) => ofRatio negative (num * n) den
  | none => x

end Binary64

end PromptPress
