import PromptPress.Interpreter
import PromptPress.Json.Raw
import PromptPress.Number.Shortest

/-!
# Writing JSON text

Three ways to write a value: on one line, with a blank after each separator; over several lines, two
blanks deeper for each container; and as messages show it.  A value that was read is written over several
lines only if its texts can be encoded and it is not deeper than the stack (`RawJson.written`).
-/

namespace PromptPress.Json

open PromptPress.Text

/-- The code units that an escape names for a character. -/
def unitsOf (c : Char) : List Nat :=
  if c.toNat < 0x10000 then [c.toNat]
  else [0xD800 + (c.toNat - 0x10000) / 0x400, 0xDC00 + (c.toNat - 0x10000) % 0x400]

/-- How a character stands in a string; `ascii` escapes all that is not visible ASCII. -/
def stringChar (ascii : Bool) (c : Char) : List Char :=
  if c == '"' then ['\\', '"']
  else if c == '\\' then ['\\', '\\']
  else if c == '\n' then ['\\', 'n']
  else if c == '\r' then ['\\', 'r']
  else if c == '\t' then ['\\', 't']
  else if c == '\x08' then ['\\', 'b']
  else if c == '\x0c' then ['\\', 'f']
  else if c < ' ' || (ascii && '~' < c) then (unitsOf c).flatMap fun u => '\\' :: 'u' :: showHex 4 u
  else [c]

/-- A text as a string of the format. -/
def stringText (ascii : Bool) (s : String) : List Char :=
  '"' :: s.toList.flatMap (stringChar ascii) ++ ['"']

/-- The text of a value that is no container. -/
def scalarText (ascii : Bool) : Json → List Char
  | null => "null".toList
  | bool b => (if b then "true" else "false").toList
  | int n => showInt n
  | float x => x.render Binary64.constants
  | str s => stringText ascii s
  | arr _ | obj _ => []

mutual

/-- A value on one line. -/
def inline (ascii : Bool) : Json → List Char
  | arr items => '[' :: inlineItems ascii items
  | obj fields => '\x7b' :: inlineFields ascii fields
  | value => scalarText ascii value

/-- The items of an array on one line, up to its end. -/
def inlineItems (ascii : Bool) : List Json → List Char
  | [] => [']']
  | [item] => inline ascii item ++ [']']
  | item :: next :: items => inline ascii item ++ ',' :: ' ' :: inlineItems ascii (next :: items)

/-- The fields of an object on one line, up to its end. -/
def inlineFields (ascii : Bool) : List (String × Json) → List Char
  | [] => ['\x7d']
  | [(name, value)] => stringText ascii name ++ ':' :: ' ' :: inline ascii value ++ ['\x7d']
  | (name, value) :: next :: fields =>
    stringText ascii name ++ ':' :: ' ' :: inline ascii value ++
      ',' :: ' ' :: inlineFields ascii (next :: fields)

end

/-- A line break followed by the margin of a level. -/
def newLine (level : Nat) : List Char :=
  '\n' :: List.replicate (2 * level) ' '

mutual

/-- A value over several lines, at a level. -/
def layout (level : Nat) : Json → List Char
  | arr [] => ['[', ']']
  | arr (item :: items) => '[' :: layoutItems (level + 1) (item :: items)
  | obj [] => ['\x7b', '\x7d']
  | obj (field :: fields) => '\x7b' :: layoutFields (level + 1) (field :: fields)
  | value => scalarText false value

/-- The items of an array, one a line, up to its end. -/
def layoutItems (level : Nat) : List Json → List Char
  | [] => newLine (level - 1) ++ [']']
  | item :: items =>
    newLine level ++ layout level item ++ (if items.isEmpty then [] else [',']) ++
      layoutItems level items

/-- The fields of an object, one a line, up to its end. -/
def layoutFields (level : Nat) : List (String × Json) → List Char
  | [] => newLine (level - 1) ++ ['\x7d']
  | (name, value) :: fields =>
    newLine level ++ stringText false name ++ ':' :: ' ' :: layout level value ++
      (if fields.isEmpty then [] else [',']) ++ layoutFields level fields

end

/-- A value on one line; characters beyond ASCII stand for themselves. -/
def compact (value : Json) : String :=
  String.ofList (inline false value)

/-- A value over several lines. -/
def pretty (value : Json) : String :=
  String.ofList (layout 0 value)

/-- A text as a string of the format in visible ASCII characters. -/
def asciiString (s : String) : String :=
  String.ofList (stringText true s)

end PromptPress.Json

namespace PromptPress

open PromptPress.Text

/-! ### Values that were read -/

/-- Why a value cannot be written. -/
inductive WriteFault where
  /-- A number is infinite or undefined. -/
  | unbounded (number : Binary64)
  | unencodable (fault : EncodeFault)
  | tooDeep (overflow : Overflow)
deriving DecidableEq, Inhabited

/-- The message of a fault. -/
def WriteFault.message : WriteFault → String
  | unbounded number =>
    "Out of range float values are not JSON compliant: " ++
      String.ofList (number.render Binary64.plain)
  | unencodable fault => fault.message
  | tooDeep overflow => overflow.message

namespace RawJson

mutual

/-- Whether a value is not deeper than the levels that are left for writing it: each container that is not
empty takes one, and a floating point number as well. -/
def fits (levels : Nat) : RawJson → Bool
  | float _ => 0 < levels
  | arr (item :: items) =>
    match levels with
    | 0 => false
    | levels + 1 => fitsItems levels (item :: items)
  | obj (field :: fields) =>
    match levels with
    | 0 => false
    | levels + 1 => fitsFields levels (field :: fields)
  | _ => true

/-- Whether no item of an array is too deep. -/
def fitsItems (levels : Nat) : List RawJson → Bool
  | [] => true
  | item :: items => fits levels item && fitsItems levels items

/-- Whether no value of the fields of an object is too deep. -/
def fitsFields (levels : Nat) : List (RawText × RawJson) → Bool
  | [] => true
  | (_, value) :: fields => fits levels value && fitsFields levels fields

end

/-- What is written at once for a text, behind the mark that stands before it. -/
def chunk (before : List Char) (t : RawText) : RawText :=
  let body := t.points.flatMap fun
    | .char c => (Json.stringChar false c).map .char
    | .loose offset => [.loose offset]
  ⟨before.map .char ++ .char '"' :: body ++ [.char '"']⟩

/-- The string of a text that can be written behind a mark. -/
def writtenText (before : List Char) (t : RawText) : Except WriteFault String :=
  match (chunk before t).fault? with
  | none => .ok t.replaced
  | some fault => .error (.unencodable fault)

/-- A number that can be written.  Calls of functions write it, one if it is finite and two to refuse it. -/
def writtenNumber (levels : Nat) (x : Binary64) : Except WriteFault Json :=
  if x.isFinite then if levels < 1 then .error (.tooDeep .call) else .ok (.float x)
  else if levels < 2 then .error (.tooDeep .call) else .error (.unbounded x)

mutual

/-- The value that is written over several lines, on a stack with some levels left: each container that is
not empty takes one.  The fault is the first one in the order of writing. -/
def written (levels : Nat) (before : List Char) (depth : Nat) : RawJson → Except WriteFault Json
  | null => .ok .null
  | bool b => .ok (.bool b)
  | int n => .ok (.int n)
  | float x => writtenNumber levels x
  | str t => (writtenText before t).map .str
  | arr [] => .ok (.arr [])
  | arr (item :: items) =>
    match levels with
    | 0 => .error (.tooDeep .call)
    | levels + 1 => (writtenItems levels (depth + 1) '[' (item :: items)).map .arr
  | obj [] => .ok (.obj [])
  | obj (field :: fields) =>
    match levels with
    | 0 => .error (.tooDeep .call)
    | levels + 1 => (writtenFields levels (depth + 1) (field :: fields)).map .obj

/-- The items of an array that are written; a text among them is written together with the mark before
it. -/
def writtenItems (levels depth : Nat) (mark : Char) : List RawJson → Except WriteFault (List Json)
  | [] => .ok []
  | item :: items => do
    let item ← written levels (mark :: Json.newLine depth) depth item
    return item :: (← writtenItems levels depth ',' items)

/-- The fields of an object that are written. -/
def writtenFields (levels depth : Nat) :
    List (RawText × RawJson) → Except WriteFault (List (String × Json))
  | [] => .ok []
  | (name, value) :: fields => do
    let name ← writtenText [] name
    let value ← written levels [] depth value
    return (name, value) :: (← writtenFields levels depth fields)

end

mutual

/-- A value as messages show it inside other values. -/
def shown : RawJson → List Char
  | null => "None".toList
  | bool b => (if b then "True" else "False").toList
  | int n => showInt n
  | float x => x.render Binary64.plain
  | str t => t.quoted
  | arr items => '[' :: shownItems items
  | obj fields => '\x7b' :: shownFields fields

/-- The items of an array as messages show them. -/
def shownItems : List RawJson → List Char
  | [] => [']']
  | [item] => shown item ++ [']']
  | item :: next :: items => shown item ++ ',' :: ' ' :: shownItems (next :: items)

/-- The fields of an object as messages show them. -/
def shownFields : List (RawText × RawJson) → List Char
  | [] => ['\x7d']
  | [(name, value)] => name.quoted ++ ':' :: ' ' :: shown value ++ ['\x7d']
  | (name, value) :: next :: fields =>
    name.quoted ++ ':' :: ' ' :: shown value ++ ',' :: ' ' :: shownFields (next :: fields)

end

/-- A value as the text that it stands for: a text is itself, all else is shown as in messages. -/
def plainText : RawJson → RawText
  | str t => t
  | value => .ofChars value.shown

end RawJson

end PromptPress
