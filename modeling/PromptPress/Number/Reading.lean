import PromptPress.Number.Binary64
import PromptPress.Text.Blank
import PromptPress.Text.Digit

/-!
# Reading numbers from text

The number notation of settings and defaults: an optional sign, decimal digits of any script with
single underscores between them, and for floating point numbers a point, an exponent, or a name for
infinity.  Blanks around the number are ignored.
-/

namespace PromptPress.Number

open PromptPress.Text

/-- The most digits that an integer may be written with. -/
def maxDigits : Nat := 4300

/-- Blanks that may surround a number; the four ASCII separators are not among them. -/
def isMargin (c : Char) : Bool :=
  if c.toNat < 128 then c == ' ' || (9 ≤ c.toNat && c.toNat ≤ 13) else isBlank c

/-- Takes the sign off a text. -/
def takeSign : List Char → Bool × List Char
  | '-' :: cs => (true, cs)
  | '+' :: cs => (false, cs)
  | cs => (false, cs)

/-- Whether a text begins with a digit. -/
def startsWithDigit : List Char → Bool
  | [] => false
  | c :: _ => isDigit c

/-- Reads digits with single underscores between them, from the start of a text on.  Gives their
values, and what follows the last one. -/
def takeDigits (afterDigit : Bool) : List Char → List Nat × List Char
  | [] => ([], [])
  | c :: cs =>
    match digitValue? c with
    | some d =>
      let (ds, rest) := takeDigits true cs
      (d :: ds, rest)
    | none =>
      if afterDigit && c == '_' && startsWithDigit cs then takeDigits false cs else ([], c :: cs)

/-- Reads an integer. -/
def readInt? (s : List Char) : Option Int :=
  let (negative, body) := takeSign (trimBy isMargin s)
  match takeDigits false body with
  | (d :: ds, []) =>
    if maxDigits < ds.length + 1 then none
    else
      let n : Int := ofDigits 10 (d :: ds)
      some (if negative then -n else n)
  | _ => none

/-- Reads the exponent part of a floating point number up to the end of the text. -/
def readExponent? : List Char → Option Int
  | [] => some 0
  | c :: cs =>
    if c == 'e' || c == 'E' then
      let (negative, body) := takeSign cs
      match takeDigits false body with
      | (d :: ds, []) =>
        let n : Int := ofDigits 10 (d :: ds)
        some (if negative then -n else n)
      | _ => none
    else none

/-- Reads the fraction after the digits before the point, and the exponent. -/
def readFraction? (negative : Bool) (whole : List Nat) : List Char → Option Binary64
  | '.' :: rest =>
    let (fraction, after) := takeDigits false rest
    if whole.isEmpty && fraction.isEmpty then none
    else
      (readExponent? after).map fun e =>
        Binary64.ofDecimal negative (ofDigits 10 (whole ++ fraction)) (e - fraction.length)
  | rest =>
    if whole.isEmpty then none
    else (readExponent? rest).map fun e => Binary64.ofDecimal negative (ofDigits 10 whole) e

/-- Reads a floating point number; an infinite or undefined one may be named in any case. -/
def readFloat? (s : List Char) : Option Binary64 :=
  let (negative, body) := takeSign (trimBy isMargin s)
  match String.ofList (body.map Char.toLower) with
  | "inf" | "infinity" => some (.infinite negative)
  | "nan" => some .undefined
  | _ =>
    let (whole, rest) := takeDigits false body
    readFraction? negative whole rest

end PromptPress.Number
