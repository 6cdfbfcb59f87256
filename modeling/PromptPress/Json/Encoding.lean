import PromptPress.Json.Parser
import PromptPress.Text.Decoding

/-!
# Encodings of JSON text

Bytes hold JSON text in UTF-8, UTF-16 or UTF-32.  A mark at their beginning tells which; without one the
places of zero bytes tell it, since JSON text begins with ASCII characters. Half of a pair that is encoded by
itself is no character, so bytes with such a half hold no text.
-/

namespace PromptPress.Json

open PromptPress.Text

/-- An encoding; the units of a wide one have their highest byte first or last. -/
inductive Encoding where
  | utf8
  | utf16 (highFirst : Bool)
  | utf32 (highFirst : Bool)
deriving DecidableEq, Inhabited

namespace Encoding

/-- The encoding that a mark tells, and what follows the mark. -/
def marked? : List UInt8 → Option (Encoding × List UInt8)
  | 0x00 :: 0x00 :: 0xfe :: 0xff :: rest => some (utf32 true, rest)
  | 0xff :: 0xfe :: 0x00 :: 0x00 :: rest => some (utf32 false, rest)
  | 0xfe :: 0xff :: rest => some (utf16 true, rest)
  | 0xff :: 0xfe :: rest => some (utf16 false, rest)
  | 0xef :: 0xbb :: 0xbf :: rest => some (utf8, rest)
  | _ => none

/-- The encoding that zero bytes tell. -/
def unmarked : List UInt8 → Encoding
  | a :: b :: c :: d :: _ =>
    if a = 0 then if b = 0 then utf32 true else utf16 true
    else if b = 0 then if c = 0 ∧ d = 0 then utf32 false else utf16 false
    else utf8
  | [a, b] => if a = 0 then utf16 true else if b = 0 then utf16 false else utf8
  | _ => utf8

/-- The encoding of bytes, and what follows the mark if there is one. -/
def detect (bytes : List UInt8) : Encoding × List UInt8 :=
  (marked? bytes).getD (unmarked bytes, bytes)

/-- The number that some bytes are in a place system of 256. -/
def unitOf (highFirst : Bool) (bytes : List UInt8) : Nat :=
  ofDigits 256 ((if highFirst then bytes else bytes.reverse).map UInt8.toNat)

/-- The units of two bytes each. -/
def units16? (highFirst : Bool) : List UInt8 → Option (List Nat)
  | [] => some []
  | a :: b :: rest => (units16? highFirst rest).map (unitOf highFirst [a, b] :: ·)
  | _ => none

/-- The units of four bytes each. -/
def units32? (highFirst : Bool) : List UInt8 → Option (List Nat)
  | [] => some []
  | a :: b :: c :: d :: rest => (units32? highFirst rest).map (unitOf highFirst [a, b, c, d] :: ·)
  | _ => none

/-- The character with a number. -/
def char? (n : Nat) : Option Char :=
  if n.isValidChar then some (Char.ofNat n) else none

/-- The characters of units of two bytes, behind a unit that may be the first half of a pair. -/
def chars16? : (half : Option Nat) → List Nat → Option (List Char)
  | none, [] => some []
  | some _, [] => none
  | none, unit :: rest =>
    match char? unit with
    | some c => (chars16? none rest).map (c :: ·)
    | none => chars16? (some unit) rest
  | some high, low :: rest =>
    match pairChar? high low with
    | some c => (chars16? none rest).map (c :: ·)
    | none => none

/-- The characters of bytes without a mark. -/
def chars? : Encoding → List UInt8 → Option (List Char)
  | utf8, bytes => (ofUtf8? bytes).map String.toList
  | utf16 highFirst, bytes => (units16? highFirst bytes).bind (chars16? none)
  | utf32 highFirst, bytes => (units32? highFirst bytes).bind fun units => units.mapM char?

end Encoding

/-- The text that bytes hold, if they hold one. -/
def ofBytes? (bytes : List UInt8) : Option String :=
  let (encoding, rest) := Encoding.detect bytes
  (encoding.chars? rest).map String.ofList

end PromptPress.Json
