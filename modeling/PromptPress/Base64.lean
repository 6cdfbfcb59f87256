/-!
# Base64

A strict reader for bytes written in base64.  Blanks have to be removed before; a foreign character, a
character after the padding and an incomplete group are refused.  Padding is what completes a group of
two or three characters; padding after whole groups is passed over.
-/

namespace PromptPress.Base64

/-- Why a text is no base64. -/
inductive ReadError where
  | notAscii
  | leadingPadding
  | excessData
  | discontinuousPadding
  | foreignCharacter
  /-- One character is left over after the whole groups. -/
  | loneCharacter (count : Nat)
  | incorrectPadding
deriving DecidableEq, Inhabited

/-- The message of an error. -/
def ReadError.message : ReadError → String
  | notAscii => "string argument should contain only ASCII characters"
  | leadingPadding => "Leading padding not allowed"
  | excessData => "Excess data after padding"
  | discontinuousPadding => "Discontinuous padding not allowed"
  | foreignCharacter => "Only base64 data is allowed"
  | loneCharacter count =>
    s!"Invalid base64-encoded string: number of data characters ({count}) " ++
      "cannot be 1 more than a multiple of 4"
  | incorrectPadding => "Incorrect padding"

/-- The six bits that a character stands for. -/
def value? (c : Char) : Option Nat :=
  if 'A' ≤ c && c ≤ 'Z' then some (c.toNat - 65)
  else if 'a' ≤ c && c ≤ 'z' then some (c.toNat - 71)
  else if '0' ≤ c && c ≤ '9' then some (c.toNat + 4)
  else if c == '+' then some 62
  else if c == '/' then some 63
  else none

/-- The bytes that the characters of one group complete. -/
def groupBytes : List Nat → List UInt8
  | [a, b] => [UInt8.ofNat (a * 4 + b / 16)]
  | [a, b, c] => [UInt8.ofNat (a * 4 + b / 16), UInt8.ofNat (b % 16 * 16 + c / 4)]
  | [a, b, c, d] =>
    [UInt8.ofNat (a * 4 + b / 16), UInt8.ofNat (b % 16 * 16 + c / 4), UInt8.ofNat (c % 4 * 64 + d)]
  | _ => []

/-- Puts bytes in front of those that are read after them. -/
def prepend (bytes : List UInt8) : Except ReadError (List UInt8) → Except ReadError (List UInt8)
  | .ok rest => .ok (bytes ++ rest)
  | .error e => .error e

/-- Reads on in a group that holds the values `group`, after `groups` whole ones and `pads` padding
characters in this place. -/
def readFrom (groups : Nat) (group : List Nat) (pads : Nat) (padded : Bool) :
    List Char → Except ReadError (List UInt8)
  | [] =>
    match group with
    | [] => .ok []
    | [_] => .error (.loneCharacter (4 * groups + 1))
    | _ => .error .incorrectPadding
  | c :: cs =>
    if c == '=' then
      if 2 ≤ group.length && 4 ≤ group.length + pads + 1 then
        if cs.isEmpty then .ok (groupBytes group) else .error .excessData
      else readFrom groups group (if 2 ≤ group.length then pads + 1 else pads) true cs
    else
      match value? c with
      | none => .error .foreignCharacter
      | some v =>
        if padded then .error .discontinuousPadding
        else if group.length == 3 then
          prepend (groupBytes (group ++ [v])) (readFrom (groups + 1) [] 0 false cs)
        else readFrom groups (group ++ [v]) 0 false cs

/-- Reads a text without blanks. -/
def decode (s : List Char) : Except ReadError (List UInt8) :=
  if s.any fun c => 128 ≤ c.toNat then .error .notAscii
  else if s.head? == some '=' then .error .leadingPadding
  else readFrom 0 [] 0 false s

/-- The character that stands for six bits. -/
def symbol (n : Nat) : Char :=
  if n < 26 then Char.ofNat (n + 65)
  else if n < 52 then Char.ofNat (n + 71)
  else if n < 62 then Char.ofNat (n - 4)
  else if n == 62 then '+' else '/'

/-- Writes bytes in base64, with padding. -/
def encode : List UInt8 → List Char
  | [] => []
  | [a] => [symbol (a.toNat / 4), symbol (a.toNat % 4 * 16), '=', '=']
  | [a, b] =>
    [symbol (a.toNat / 4), symbol (a.toNat % 4 * 16 + b.toNat / 16), symbol (b.toNat % 16 * 4), '=']
  | a :: b :: c :: rest =>
    symbol (a.toNat / 4) :: symbol (a.toNat % 4 * 16 + b.toNat / 16) ::
      symbol (b.toNat % 16 * 4 + c.toNat / 64) :: symbol (c.toNat % 64) :: encode rest

end PromptPress.Base64
