import PromptPress.Text.Digit
import PromptPress.Text.Pieces

/-!
# Texts of files

The text that the bytes of a file hold: UTF-8, with line breaks in any of the three notations.  Where bytes
are no text, `Utf8Fault` says which of them are at fault.
-/

namespace PromptPress.Text

/-- The string that bytes hold in UTF-8, if they are well formed. -/
def ofUtf8? (bytes : List UInt8) : Option String :=
  String.fromUTF8? ⟨bytes.toArray⟩

/-! ### Faults -/

/-- What is wrong with the first bytes that are not well formed. -/
inductive Utf8FaultKind where
  | start
  | continuation
  | cutShort
deriving DecidableEq, Inhabited

/-- The name of a kind of fault. -/
def Utf8FaultKind.name : Utf8FaultKind → String
  | start => "invalid start byte"
  | continuation => "invalid continuation byte"
  | cutShort => "unexpected end of data"

/-- The first bytes that are not well formed: where they begin, and what they are. -/
structure Utf8Fault where
  offset : Nat
  bytes : List UInt8
  kind : Utf8FaultKind
deriving DecidableEq, Inhabited

/-- The message of a fault. -/
def Utf8Fault.message (fault : Utf8Fault) : String :=
  let place := match fault.bytes with
    | [byte] => s!"byte 0x{String.ofList (showHex 2 byte.toNat)} in position {fault.offset}"
    | bytes => s!"bytes in position {fault.offset}-{fault.offset + bytes.length - 1}"
  s!"\x27utf-8\x27 codec can\x27t decode {place}: {fault.kind.name}"

/-- Whether a byte can go on with a character. -/
def isContinuation (byte : UInt8) : Bool :=
  0x80 ≤ byte && byte ≤ 0xbf

/-- Whether a byte can be the second one of a character with a given first byte. -/
def isSecond (first byte : UInt8) : Bool :=
  isContinuation byte &&
    (first != 0xe0 || 0xa0 ≤ byte) && (first != 0xed || byte < 0xa0) &&
    (first != 0xf0 || 0x90 ≤ byte) && (first != 0xf4 || byte < 0x90)

/-- How many bytes a character with a given first byte has. -/
def byteCount? (first : UInt8) : Option Nat :=
  if first < 0x80 then some 1
  else if first < 0xc2 then none
  else if first < 0xe0 then some 2
  else if first < 0xf0 then some 3
  else if first < 0xf5 then some 4
  else none

/-- How many bytes after the first one fit a character, of as many as it needs. -/
def fitting (first : UInt8) (needed : Nat) (rest : List UInt8) : Nat :=
  match rest.take needed with
  | [] => 0
  | second :: more => if isSecond first second then 1 + (more.takeWhile isContinuation).length else 0

/-- The first fault of bytes that begin at some offset. -/
def faultFrom (offset : Nat) : (fuel : Nat) → List UInt8 → Option Utf8Fault
  | 0, _ | _, [] => none
  | fuel + 1, first :: rest =>
    match byteCount? first with
    | none => some ⟨offset, [first], .start⟩
    | some count =>
      let fit := fitting first (count - 1) rest
      if fit = count - 1 then faultFrom (offset + count) fuel (rest.drop fit)
      else
        some ⟨offset, first :: rest.take fit, if rest.length ≤ fit then .cutShort else .continuation⟩

/-- The first fault of bytes. -/
def utf8Fault? (bytes : List UInt8) : Option Utf8Fault :=
  faultFrom 0 bytes.length bytes

/-- The string that bytes hold in UTF-8, or the first fault. -/
def decodeUtf8 (bytes : List UInt8) : Except Utf8Fault String :=
  match ofUtf8? bytes with
  | some text => .ok text
  | none => .error ((utf8Fault? bytes).getD default)

/-- The text of a file, in which every line break is a line feed, or the first fault of its bytes. -/
def decodeFile (bytes : List UInt8) : Except Utf8Fault String :=
  (decodeUtf8 bytes).map fun s => String.ofList (unifyBreaks s.toList)

end PromptPress.Text
