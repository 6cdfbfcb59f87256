import PromptPress.Number.Reading
import PromptPress.Text.Pieces
import PromptPress.Yaml.Value

/-!
# Plain scalars

A text without quotes stands for null, a truth value or a number if it has the form of one, and else for
itself.  Integers may be written in base 2, 8, 10 or 16 or in sixties between colons; floating point
numbers need a point, and a sign in their exponent.
-/

namespace PromptPress.Yaml

open PromptPress.Text PromptPress.Number

/-- Why a configuration file cannot be read. -/
inductive ReadError where
  /-- The text is not in the format. -/
  | malformed
  /-- A number in some base has no digits. -/
  | noDigits (base : Nat)
  /-- An integer has more digits than can be read. -/
  | tooManyDigits (digits : Nat)
  /-- A number in sixties has so many parts that the first of them counts more than all floating point
  numbers. -/
  | tooManyParts
deriving DecidableEq, Inhabited

/-- The message of an error that is not one of the format. -/
def ReadError.message : ReadError → String
  | malformed => "malformed"
  | noDigits base => s!"invalid literal for int() with base {base}: \x27\x27"
  | tooManyDigits n =>
    s!"Exceeds the limit (4300 digits) for integer string conversion: value has {n} digits; " ++
      "use sys.set_int_max_str_digits() to increase the limit"
  | tooManyParts => "int too large to convert to float"

/-- Whether a character is a digit of the ten plain ones, or an underscore. -/
def isDecimal (c : Char) : Bool :=
  c.isDigit || c == '_'

/-- Whether a text is one or two digits that write less than sixty. -/
def isSixtieth : List Char → Bool
  | [c] => c.isDigit
  | [c, d] => '0' ≤ c && c ≤ '5' && d.isDigit
  | _ => false

/-- Whether a text has the form of an exponent with a sign. -/
def isExponent : List Char → Bool
  | [] => true
  | e :: sign :: digits =>
    (e == 'e' || e == 'E') && (sign == '+' || sign == '-') && !digits.isEmpty &&
      digits.all Char.isDigit
  | _ => false

/-- Whether a text is digits, beginning with a true one. -/
def isNumeral : List Char → Bool
  | [] => false
  | c :: cs => c.isDigit && cs.all isDecimal

/-- The parts of a text without a sign between colons, if all but the first are sixtieths. -/
def sixtieths? (s : List Char) : Option (List Char × List (List Char)) :=
  match cut (· == ':') s with
  | first :: next :: rest => if (next :: rest).all isSixtieth then some (first, next :: rest) else none
  | _ => none

/-- What remains of a text when underscores are left out. -/
def dropMarks (s : List Char) : List Char :=
  s.filter (· != '_')

/-- The number that digits write in a base. -/
def inBase (base : Nat) (digits : List Char) : Except ReadError Nat :=
  if digits.isEmpty then .error (.noDigits base)
  else if base == 10 && maxDigits < digits.length then .error (.tooManyDigits digits.length)
  else .ok (ofDigits base (digits.map fun c => (hexValue? c).getD 0))

/-- The whole number that a text without a sign stands for, if it has the form of one. -/
def natural? (s : List Char) : Option (Except ReadError Nat) :=
  match s with
  | '0' :: 'b' :: digits =>
    if !digits.isEmpty && digits.all (fun c => c == '0' || c == '1' || c == '_') then
      some (inBase 2 (dropMarks digits))
    else none
  | '0' :: 'x' :: digits =>
    if !digits.isEmpty && digits.all (fun c => (hexValue? c).isSome || c == '_') then
      some (inBase 16 (dropMarks digits))
    else none
  | ['0'] => some (.ok 0)
  | '0' :: digits =>
    if digits.all (fun c => '0' ≤ c && c ≤ '7' || c == '_') then
      some (inBase 8 ('0' :: dropMarks digits))
    else none
  | _ =>
    if isNumeral s then some (inBase 10 (dropMarks s))
    else
      match sixtieths? s with
      | some (first, rest) =>
        if isNumeral first then
          some ((inBase 10 (dropMarks first)).map fun n =>
            rest.foldl (fun sum part => sum * 60 + ofDigits 10 (part.map fun c => (hexValue? c).getD 0)) n)
        else none
      | none => none

/-- The floating point number that a decimal text without marks stands for. -/
def decimal (s : List Char) : Binary64 :=
  (readFloat? s).getD .zero

/-- Adds up texts of which each counts sixty times as much as the one before; the first counts `unit`
times. -/
def inSixties (sum : Binary64) (unit : Nat) : List (List Char) → Except ReadError Binary64
  | [] => .ok sum
  | text :: texts =>
    -- the number next to the unit counts, as the product is one of floating point numbers
    match (Binary64.ofInt unit).truncate? with
    | some n => inSixties (.add sum ((decimal text).mulNat n.natAbs)) (unit * 60) texts
    | none => .error .tooManyParts

/-- The floating point number that a text without a sign stands for, if it has the form of one. -/
def fraction? (s : List Char) : Option (Except ReadError Binary64) :=
  let (whole, rest) := s.span fun c => isDecimal c
  match rest with
  | '.' :: after =>
    let (digits, tail) := after.span fun c => isDecimal c
    let plain := isNumeral whole && isExponent tail
    let bare := whole.isEmpty && isNumeral digits && isExponent tail
    if plain || bare then some (.ok (decimal (dropMarks s))) else none
  | ':' :: _ =>
    match splitAtLast? (· == '.') s with
    | some (body, digits) =>
      match sixtieths? body with
      | some (first, parts) =>
        if isNumeral first && digits.all isDecimal then
          let texts := match (first :: parts).reverse with
            | [] => []
            | last :: before => (dropMarks (last ++ '.' :: digits) :: before.map dropMarks)
          some (inSixties .zero 1 texts)
        else none
      | none => none
    | none => none
  | _ => none

/-- The texts of the truth values. -/
def truthTexts : List (String × Bool) :=
  [("yes", true), ("Yes", true), ("YES", true), ("no", false), ("No", false), ("NO", false),
   ("true", true), ("True", true), ("TRUE", true), ("false", false), ("False", false),
   ("FALSE", false), ("on", true), ("On", true), ("ON", true), ("off", false), ("Off", false),
   ("OFF", false)]

/-- Takes the sign off a text. -/
def unsigned (s : List Char) : Bool × List Char :=
  takeSign s

/-- A floating point number with a sign. -/
def signed (negative : Bool) : Binary64 → Binary64
  | .finite sign m e => .finite (negative != sign) m e
  | .infinite sign => .infinite (negative != sign)
  | .undefined => .undefined

/-- The value of a plain scalar. -/
def resolve (s : List Char) : Except ReadError Yaml :=
  let (negative, body) := unsigned s
  let text := String.ofList s
  if ["", "~", "null", "Null", "NULL"].contains text then .ok .null
  else if text == "=" then .error .malformed
  else
    match truthTexts.find? (·.1 == text) with
    | some (_, b) => .ok (.bool b)
    | none =>
      match natural? body with
      | some (.ok n) => .ok (.int (if negative then -(n : Int) else n))
      | some (.error e) => .error e
      | none =>
        if [".inf", ".Inf", ".INF"].contains (String.ofList body) then .ok (.float (.infinite negative))
        else if [".nan", ".NaN", ".NAN"].contains text then .ok (.float .undefined)
        else
          match fraction? body with
          | some x =>
            if body.head? == some '.' && body.length < s.length then .ok (.str text)
            else x.map fun x => .float (signed negative x)
          | none => .ok (.str text)

end PromptPress.Yaml
