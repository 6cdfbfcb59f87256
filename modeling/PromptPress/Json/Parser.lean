import PromptPress.Interpreter
import PromptPress.Json.Raw
import PromptPress.Number.Reading
import PromptPress.Text.Pieces

/-!
# Reading JSON text

A reader for JSON text that says where a text stops being well formed.  Beyond the standard it takes
the constants `NaN`, `Infinity` and `-Infinity` where the caller allows them; of two fields with one
name the last value counts; whole numbers are exact, up to `Number.maxDigits` digits.  An escaped surrogate
without its other half is read as it is, so the values are raw ones.

Each array and each object takes a level of the stack while it is read, and the call that makes a number of
a constant takes one as well.  A text that takes more levels than are left is not read to its end.

A fault is noted with the number of characters that are left at it, and turned into an offset,
a line and a column at the end.
-/

namespace PromptPress.Json

open PromptPress.Text PromptPress.Number

/-- What a text lacks to be well formed. -/
inductive Reason where
  | value
  | name
  | colon
  | comma
  | extraData
  | unterminatedString
  | controlCharacter
  | badEscape
  | badUnicodeEscape
  | byteOrderMark
deriving DecidableEq, Inhabited

/-- The wording of a reason. -/
def Reason.text : Reason → String
  | value => "Expecting value"
  | name => "Expecting property name enclosed in double quotes"
  | colon => "Expecting ':' delimiter"
  | comma => "Expecting ',' delimiter"
  | extraData => "Extra data"
  | unterminatedString => "Unterminated string starting at"
  | controlCharacter => "Invalid control character at"
  | badEscape => "Invalid \\escape"
  | badUnicodeEscape => "Invalid \\uXXXX escape"
  | byteOrderMark => "Unexpected UTF-8 BOM (decode using utf-8-sig)"

/-- Why a text cannot be read. -/
inductive ReadError where
  /-- The text is not well formed at an offset in it. -/
  | malformed (reason : Reason) (offset line column : Nat)
  /-- A whole number has more digits than a reader takes. -/
  | tooManyDigits (count : Nat)
  /-- The text takes more levels than are left on the stack. -/
  | tooDeep (overflow : Overflow)
deriving DecidableEq, Inhabited

/-- The message of an error. -/
def ReadError.message : ReadError → String
  | malformed reason offset line column =>
    s!"{reason.text}: line {line} column {column} (char {offset})"
  | tooManyDigits count =>
    s!"Exceeds the limit ({maxDigits} digits) for integer string conversion: value has {count} " ++
      "digits; use sys.set_int_max_str_digits() to increase the limit"
  | tooDeep overflow => overflow.message

/-- A fault while reading, with the number of characters left at it. -/
inductive Fault where
  | at (reason : Reason) (left : Nat)
  | tooManyDigits (count : Nat)
  | tooDeep (overflow : Overflow)

/-- Blanks between the tokens of JSON text. -/
def isSpace (c : Char) : Bool :=
  c == ' ' || c == '\t' || c == '\n' || c == '\r'

/-- Drops blanks before the next token. -/
def skipSpaces (s : List Char) : List Char :=
  s.dropWhile isSpace

/-- The code unit that four hexadecimal digits name. -/
def unit? (a b c d : Char) : Option Nat := do
  let a ← hexValue? a
  let b ← hexValue? b
  let c ← hexValue? c
  let d ← hexValue? d
  return ((a * 16 + b) * 16 + c) * 16 + d

/-- The character of a pair of surrogate code units. -/
def pairChar? (high low : Nat) : Option Char :=
  if 0xD800 ≤ high ∧ high < 0xDC00 ∧ 0xDC00 ≤ low ∧ low < 0xE000 then
    some (Char.ofNat (0x10000 + (high - 0xD800) * 0x400 + (low - 0xDC00)))
  else none

/-- The point of a code unit that is not half of a pair. -/
def unitPoint (unit : Nat) : RawPoint :=
  if h : 0xD800 ≤ unit ∧ unit < 0xE000 then .loose ⟨unit - 0xD800, by omega⟩ else .char (Char.ofNat unit)

/-- The character that a one-letter escape stands for. -/
def escaped? : Char → Option Char
  | '"' => some '"'
  | '\\' => some '\\'
  | '/' => some '/'
  | 'b' => some '\x08'
  | 'f' => some '\x0c'
  | 'n' => some '\n'
  | 'r' => some '\r'
  | 't' => some '\t'
  | _ => none

/-- Puts a point in front of the string that is read after it. -/
def consPoint (p : RawPoint) :
    Except Fault (List RawPoint × List Char) → Except Fault (List RawPoint × List Char)
  | .ok (s, rest) => .ok (p :: s, rest)
  | .error e => .error e

/-- Reads a string after its opening quote, at which `start` characters were left. -/
def readString (start : Nat) : List Char → Except Fault (List RawPoint × List Char)
  | [] => .error (.at .unterminatedString start)
  | '"' :: rest => .ok ([], rest)
  | '\\' :: [] => .error (.at .unterminatedString start)
  | '\\' :: 'u' :: a :: b :: c :: d :: e :: rest =>
    match unit? a b c d with
    | none => .error (.at .badUnicodeEscape (rest.length + 6))
    | some high =>
      if 0xD800 ≤ high ∧ high < 0xDC00 then
        match e, rest with
        | '\\', 'u' :: f :: g :: h :: i :: j :: more =>
          match unit? f g h i with
          | none => .error (.at .badUnicodeEscape (more.length + 6))
          | some low =>
            match pairChar? high low with
            | some ch => consPoint (.char ch) (readString start (j :: more))
            | none =>
              consPoint (unitPoint high) (readString start ('\\' :: 'u' :: f :: g :: h :: i :: j :: more))
        | e, rest => consPoint (unitPoint high) (readString start (e :: rest))
      else consPoint (unitPoint high) (readString start (e :: rest))
  | '\\' :: 'u' :: rest => .error (.at .badUnicodeEscape (rest.length + 1))
  | '\\' :: c :: rest =>
    match escaped? c with
    | some ch => consPoint (.char ch) (readString start rest)
    | none => .error (.at .badEscape (rest.length + 2))
  | c :: rest =>
    if c < ' ' then .error (.at .controlCharacter (rest.length + 1))
    else consPoint (.char c) (readString start rest)
termination_by s => s.length

/-- The digits at the start of a text, and what follows them. -/
def spanDigits (s : List Char) : List Char × List Char :=
  (s.takeWhile Char.isDigit, s.dropWhile Char.isDigit)

/-- The digits of a fraction and what follows; no digits if there is no fraction. -/
def takeFraction : List Char → List Char × List Char
  | '.' :: c :: rest => if c.isDigit then spanDigits (c :: rest) else ([], '.' :: c :: rest)
  | s => ([], s)

/-- The sign and digits of an exponent and what follows; no digits if there is no exponent. -/
def takeExponent : List Char → Bool × List Char × List Char
  | [] => (false, [], [])
  | c :: cs =>
    if c == 'e' || c == 'E' then
      let (negative, body) := takeSign cs
      match spanDigits body with
      | ([], _) => (false, [], c :: cs)
      | (digits, rest) => (negative, digits, rest)
    else (false, [], c :: cs)

/-- The number that ASCII digits write. -/
def natOf (digits : List Char) : Nat :=
  ofDigits 10 (digits.map fun c => c.toNat - 48)

/-- The digits before the point: one zero, or digits that do not begin with one. -/
def takeWhole : List Char → List Char × List Char
  | '0' :: rest => (['0'], rest)
  | s => spanDigits s

/-- Reads a number after its sign. -/
def readNumber (negative : Bool) (s : List Char) : Except Fault (RawJson × List Char) :=
  let (whole, rest) := takeWhole s
  if whole.isEmpty then .error (.at .value (s.length + negative.toNat))
  else
    let (fraction, rest) := takeFraction rest
    let (down, exponent, rest) := takeExponent rest
    if fraction.isEmpty && exponent.isEmpty then
      if maxDigits < whole.length then .error (.tooManyDigits whole.length)
      else
        let n : Int := natOf whole
        .ok (.int (if negative then -n else n), rest)
    else
      let e : Int := natOf exponent
      let e := (if down then -e else e) - fraction.length
      .ok (.float (.ofDecimal negative (natOf (whole ++ fraction)) e), rest)

/-- The constants of the format. -/
def constantOf? (s : List Char) : Option (RawJson × List Char) :=
  let named (text : String) (value : RawJson) := (dropStart? text.toList s).map (value, ·)
  named "null" .null <|> named "true" (.bool true) <|> named "false" (.bool false)

/-- The constants for numbers that are not finite. -/
def numberConstantOf? (s : List Char) : Option (Binary64 × List Char) :=
  let named (text : String) (x : Binary64) := (dropStart? text.toList s).map (x, ·)
  named "NaN" .undefined <|> named "Infinity" (.infinite false) <|> named "-Infinity" (.infinite true)

/-- Makes a number of a constant, or refuses it if such numbers are not allowed. Refusing it is a call
inside a call. -/
def readNumberConstant (unbounded : Bool) (levels : Nat) (x : Binary64) (s rest : List Char) :
    Except Fault (RawJson × List Char) :=
  if levels < (if unbounded then 1 else 2) then .error (.tooDeep .call)
  else if unbounded then .ok (.float x, rest)
  else .error (.at .value s.length)

/-- Reads a value that is neither a string nor a container. -/
def readScalar (unbounded : Bool) (levels : Nat) (s : List Char) : Except Fault (RawJson × List Char) :=
  match constantOf? s with
  | some result => .ok result
  | none =>
    match numberConstantOf? s with
    | some (x, rest) => readNumberConstant unbounded levels x s rest
    | none =>
      match s with
      | '-' :: rest => readNumber true rest
      | s => readNumber false s

mutual

/-- Reads a value, on a stack with some levels left; `fuel` bounds the number of nested steps. -/
def readValue (unbounded : Bool) :
    (levels fuel : Nat) → List Char → Except Fault (RawJson × List Char)
  | _, 0, s => .error (.at .value s.length)
  | levels, fuel + 1, s =>
    match s with
    | [] => .error (.at .value 0)
    | '"' :: rest =>
      match readString (rest.length + 1) rest with
      | .ok (points, rest) => .ok (.str ⟨points⟩, rest)
      | .error e => .error e
    | '[' :: rest =>
      match levels with
      | 0 => .error (.tooDeep .array)
      | levels + 1 =>
        match skipSpaces rest with
        | ']' :: rest => .ok (.arr [], rest)
        | rest =>
          match readItems unbounded levels fuel rest with
          | .ok (items, rest) => .ok (.arr items, rest)
          | .error e => .error e
    | '{' :: rest =>
      match levels with
      | 0 => .error (.tooDeep .object)
      | levels + 1 =>
        match skipSpaces rest with
        | '}' :: rest => .ok (.obj [], rest)
        | rest =>
          match readFields unbounded levels fuel rest with
          | .ok (fields, rest) => .ok (.obj (Record.ofFields fields), rest)
          | .error e => .error e
    | s => readScalar unbounded levels s

/-- Reads the items of an array up to its end. -/
def readItems (unbounded : Bool) :
    (levels fuel : Nat) → List Char → Except Fault (List RawJson × List Char)
  | _, 0, s => .error (.at .value s.length)
  | levels, fuel + 1, s =>
    match readValue unbounded levels fuel s with
    | .error e => .error e
    | .ok (item, rest) =>
      match skipSpaces rest with
      | ']' :: rest => .ok ([item], rest)
      | ',' :: rest =>
        match readItems unbounded levels fuel (skipSpaces rest) with
        | .ok (items, rest) => .ok (item :: items, rest)
        | .error e => .error e
      | rest => .error (.at .comma rest.length)

/-- Reads the fields of an object up to its end. -/
def readFields (unbounded : Bool) :
    (levels fuel : Nat) → List Char → Except Fault (List (RawText × RawJson) × List Char)
  | _, 0, s => .error (.at .value s.length)
  | levels, fuel + 1, s =>
    match s with
    | '"' :: rest =>
      match readString (rest.length + 1) rest with
      | .error e => .error e
      | .ok (points, rest) =>
        match skipSpaces rest with
        | ':' :: rest =>
          match readValue unbounded levels fuel (skipSpaces rest) with
          | .error e => .error e
          | .ok (value, rest) =>
            match skipSpaces rest with
            | '}' :: rest => .ok ([(⟨points⟩, value)], rest)
            | ',' :: rest =>
              match readFields unbounded levels fuel (skipSpaces rest) with
              | .ok (fields, rest) => .ok ((⟨points⟩, value) :: fields, rest)
              | .error e => .error e
            | rest => .error (.at .comma rest.length)
        | rest => .error (.at .colon rest.length)
    | s => .error (.at .name s.length)

end

/-- The error of a fault in a text. -/
def Fault.toError (text : List Char) : Fault → ReadError
  | .at reason left =>
    let before := text.take (text.length - left)
    let lastLine := before.reverse.takeWhile (· != '\n')
    .malformed reason before.length (before.count '\n' + 1) (lastLine.length + 1)
  | .tooManyDigits count => .tooManyDigits count
  | .tooDeep overflow => .tooDeep overflow

/-- Reads a whole text as one value, blanks around it allowed. -/
def readDocument (unbounded : Bool) (levels : Nat) (text : List Char) : Except Fault RawJson :=
  match text with
  | '\uFEFF' :: _ => .error (.at .byteOrderMark text.length)
  | _ =>
    match readValue unbounded levels (2 * text.length + 2) (skipSpaces text) with
    | .error e => .error e
    | .ok (value, rest) =>
      match skipSpaces rest with
      | [] => .ok value
      | rest => .error (.at .extraData rest.length)

/-- Reads a text as one value; the constants for numbers that are not finite are allowed. -/
def parse (levels : Nat) (text : String) : Except ReadError RawJson :=
  (readDocument true levels text.toList).mapError (Fault.toError text.toList)

/-- Reads a text as one value, without constants for numbers that are not finite. -/
def parseStrict (levels : Nat) (text : String) : Except ReadError RawJson :=
  (readDocument false levels text.toList).mapError (Fault.toError text.toList)

end PromptPress.Json
