import PromptPress.Number.Binary64
import PromptPress.Text.Digit

/-!
# The shortest decimal text of a floating point number

A finite number is written with the fewest digits that read back as the same number, and of those
with the digits nearest to it.  The decimal grids of 1, 2, …, 17 digits are tried in turn: the first
grid with a point inside the rounding interval wins, and only the two neighbours of the number can be
such points if any are.
-/

namespace PromptPress.Binary64

open PromptPress.Text

/-- The least `j ≥ 1` with `den ≤ num · 10 ^ j`, searched for up to a bound. -/
def leadingZeros (num den : Nat) : (bound : Nat) → Nat → Nat
  | 0, j => j
  | bound + 1, j => if den ≤ num * Nat.pow 10 j then j else leadingZeros num den bound (j + 1)

/-- The `p` with `10 ^ (p - 1) ≤ num / den < 10 ^ p`. -/
def decimalPoint (num den : Nat) : Int :=
  if den ≤ num then (Nat.toDigits 10 (num / den)).length
  else 1 - (leadingZeros num den 400 1 : Int)

/-- The candidate of `digits · 10 ^ k` nearest to the number, among those inside its interval. -/
def nearestOnGrid? (mantissa : Nat) (exponent k : Int) : Option Nat :=
  let quarter := exponent - 2
  let low := if mantissa = Nat.pow 2 52 ∧ minExponent < exponent then 4 * mantissa - 1 else 4 * mantissa - 2
  let high := 4 * mantissa + 2
  -- everything in units of one common denominator
  let (unit, den) := unscale 2 1 1 (-quarter)
  let (grid, den') := unscale 10 1 1 (-k)
  let toUnits (x : Nat) := x * unit * den'
  let toGrid (c : Nat) := c * grid * den
  let inside (c : Nat) :=
    if mantissa % 2 = 0 then toUnits low ≤ toGrid c ∧ toGrid c ≤ toUnits high
    else toUnits low < toGrid c ∧ toGrid c < toUnits high
  let value := toUnits (4 * mantissa)
  let below := value / toGrid 1
  let above := below + 1
  let nearer :=
    let down := value - toGrid below
    let up := toGrid above - value
    if down < up then below else if up < down then above else below + below % 2
  if inside below ∧ inside above then some nearer
  else if inside below then some below
  else if inside above then some above
  else none

/-- The first grid of `n, n + 1, …` digits with a point inside the interval. -/
def searchGrids (mantissa : Nat) (exponent point : Int) : (bound n : Nat) → Nat × Int
  | 0, _ => (mantissa, exponent)
  | bound + 1, n =>
    let k := point - n
    match nearestOnGrid? mantissa exponent k with
    | some c => (c, k)
    | none => searchGrids mantissa exponent point bound (n + 1)

/-- Moves the zeros at the end of the digits into the exponent. -/
def dropZeros : (bound digits : Nat) → Int → Nat × Int
  | 0, digits, k => (digits, k)
  | bound + 1, digits, k =>
    if digits ≠ 0 ∧ digits % 10 = 0 then dropZeros bound (digits / 10) (k + 1) else (digits, k)

/-- The fewest digits and the power of ten that read back as `mantissa · 2 ^ exponent`. -/
def shortest (mantissa : Nat) (exponent : Int) : Nat × Int :=
  let (num, den) := unscale 2 mantissa 1 (-exponent)
  let (digits, k) := searchGrids mantissa exponent (decimalPoint num den) 17 1
  dropZeros 20 digits k

/-- How floating point numbers are written out. -/
structure DecimalStyle where
  /-- The least decimal exponent that is written without an exponent. -/
  leastPositional : Int
  /-- The least decimal exponent above those that is written with an exponent again. -/
  leastScientific : Int
  /-- What stands for an infinite number after its sign. -/
  infinity : String
  /-- What stands for an undefined number. -/
  undefinedText : String

/-- Numbers between `10 ^ -4` and `10 ^ 16` are written without an exponent. -/
def plain : DecimalStyle := ⟨-4, 16, "inf", "nan"⟩

/-- The same as `plain`, with the constants of data files. -/
def constants : DecimalStyle := { plain with infinity := "Infinity", undefinedText := "NaN" }

/-- Writes `digits · 10 ^ k`, the digits not ending in a zero. -/
def showDecimal (style : DecimalStyle) (digits : Nat) (k : Int) : List Char :=
  let ds := showNat digits
  let exponent := k + ds.length - 1
  if exponent < style.leastPositional ∨ style.leastScientific ≤ exponent then
    let fraction := if ds.length ≤ 1 then [] else '.' :: ds.drop 1
    let sign := if exponent < 0 then '-' else '+'
    ds.take 1 ++ fraction ++ 'e' :: sign :: showPadded 2 exponent.natAbs
  else if exponent < 0 then
    '0' :: '.' :: List.replicate (-exponent - 1).toNat '0' ++ ds
  else if 0 ≤ k then
    ds ++ List.replicate k.toNat '0' ++ ['.', '0']
  else
    let whole := (exponent + 1).toNat
    ds.take whole ++ '.' :: ds.drop whole

/-- The text of a number in a notation. -/
def render (style : DecimalStyle) : Binary64 → List Char
  | finite negative m e =>
    let sign := if negative then ['-'] else []
    if m = 0 then sign ++ ['0', '.', '0']
    else
      let (digits, k) := shortest m e
      sign ++ showDecimal style digits k
  | infinite negative => (if negative then ['-'] else []) ++ style.infinity.toList
  | undefined => style.undefinedText.toList

end PromptPress.Binary64
