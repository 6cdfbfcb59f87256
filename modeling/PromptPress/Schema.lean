import PromptPress.Json.Parser
import PromptPress.Prompt.Basic
import PromptPress.Text.Lower
import PromptPress.Text.Word

/-!
# Schemas and defaults

A note of the form `@field name: type = default` declares a field that the component can be configured
with.  All declared fields together make a schema, and their defaults make a record that goes with it.
Of several declarations of one name the last one counts, but the default of each of them is read; there is
no schema if one of them is nested deeper than the stack.
-/

namespace PromptPress

open Text

/-- The types of fields. -/
inductive FieldType where
  | number
  | boolean
  | array
  | text
deriving DecidableEq, Inhabited

namespace FieldType

/-- The type of a name; what is not known is a text. -/
def ofName : String → FieldType
  | "number" => number
  | "boolean" => boolean
  | "array" => array
  | _ => text

/-- Whether a field of the type may be null. -/
def nullable (type : FieldType) : Bool :=
  type != boolean

/-- The value of a field that gives no default. -/
def absent : FieldType → RawJson
  | boolean => .bool false
  | _ => .null

/-- What a schema says about a field of the type. -/
def toJson (type : FieldType) : Json :=
  let described : Record Json :=
    match type with
    | number => [("type", .str "number")]
    | boolean => [("type", .str "boolean")]
    | array => [("type", .str "array"), ("items", .obj [("type", .str "string")])]
    | text => [("type", .str "string")]
  .obj (if type.nullable then described ++ [("nullable", .bool true)] else described)

/-- Whether a text is written as a number with a point or an exponent. -/
def hasFraction (s : List Char) : Bool :=
  s.any fun c => c == '.' || c == 'e' || c == 'E'

/-- A number default: whole unless it is written with a point or an exponent, null if the text is not
a finite number. -/
def numberDefault (s : List Char) : RawJson :=
  match Number.readFloat? s with
  | none => .null
  | some x =>
    if !x.isFinite then .null
    else if x.isInteger && !hasFraction s then Json.ofInt? x.truncate?
    else .float x

/-- A list default: a text that is not read as a list stands for the list of itself. -/
def arrayDefault [Interpreter] (value : String) : Except Overflow RawJson :=
  match Json.parseStrict (Interpreter.levels .readDefault) value with
  | .ok (.arr items) => .ok (.arr items)
  | .error (.tooDeep overflow) => .error overflow
  | _ => .ok (.arr [.str value])

/-- The default of a field from its text: a whole number stays one, a flag is set by the word `true`
anywhere in the text, and a list that cannot be read is a list of the text itself. -/
def default [Interpreter] (type : FieldType) (value : String) : Except Overflow RawJson :=
  match type with
  | number => .ok (numberDefault (trim value.toList))
  | boolean => .ok (.bool (occursIn "true".toList (value.toList.map Char.toLower)))
  | array => arrayDefault value
  | text => .ok (.str value)

end FieldType

/-- A declaration of a field in a note. -/
structure Directive where
  name : String
  type : FieldType
  defaultText : Option String
deriving DecidableEq

namespace Directive

/-- Whether a character is a letter in either case; the letter i also has forms with and without a
dot of their own. -/
def isLetter (letter c : Char) : Bool :=
  c.toLower == letter || (letter == 'i' && (c == 'İ' || c == 'ı'))

/-- What follows the letters of a word, in either case, at the start of a text. -/
def dropWord? : List Char → List Char → Option (List Char)
  | [], s => some s
  | _ :: _, [] => none
  | letter :: letters, c :: cs => if isLetter letter c then dropWord? letters cs else none

/-- Whether a character may stand in the name of a field. -/
def isNameChar (c : Char) : Bool :=
  isWord c || c == '.' || c == '-'

/-- The default text after the type of a field, up to the end of the line that it begins on. -/
def takeDefault (s : List Char) : Option (List Char) :=
  match s.dropWhile isBlank with
  | '=' :: rest =>
    match rest.dropWhile isBlank with
    | [] => if rest.any (· != '\n') then some [] else none
    | c :: cs => some (trim ((c :: cs).takeWhile (· != '\n')))
  | _ => none

/-- The declaration after the word `@field`. -/
def body? (s : List Char) : Option Directive :=
  match s, s.dropWhile isBlank with
  | c :: _, named =>
    if isBlank c then
      match named.takeWhile isNameChar, (named.dropWhile isNameChar).dropWhile isBlank with
      | n :: ns, ':' :: typed =>
        let typed := typed.dropWhile isBlank
        match typed.takeWhile isWord with
        | [] => none
        | type =>
          some
            { name := String.ofList (n :: ns)
              type := .ofName (String.ofList (lower type))
              defaultText := (takeDefault (typed.dropWhile isWord)).map String.ofList }
      | _, _ => none
    else none
  | [], _ => none

/-- The first declaration in a text. -/
def find? : List Char → Option Directive
  | [] => none
  | c :: cs => ((dropWord? "@field".toList (c :: cs)).bind body?).or (find? cs)

/-- The value that a field has by default. -/
def value [Interpreter] (d : Directive) : Except Overflow RawJson :=
  (d.defaultText.map d.type.default).getD (.ok d.type.absent)

/-- What a declaration makes of its field. -/
def field [Interpreter] (d : Directive) : Except Overflow (String × FieldType × RawJson) :=
  d.value.map fun value => (d.name, d.type, value)

end Directive

/-- The fields that a component can be configured with: the type and default of each. -/
structure Schema where
  title : String
  fields : Record (FieldType × RawJson)

namespace Schema

/-- The declarations in notes. -/
def directives (notes : List String) : List Directive :=
  notes.filterMap fun note => Directive.find? note.toList

/-- The message where there is no prompt to make a schema from. -/
def missingPromptMessage : String := "Parsed prompt missing component section"

/-- The title of the schema of a prompt. -/
def titleOf (prompt : Prompt) : String :=
  if prompt.name = "" then "Component" else prompt.name

/-- The schema of a prompt. -/
def ofPrompt [Interpreter] (prompt : Prompt) : Except Overflow Schema :=
  ((directives prompt.notes).mapM Directive.field).map fun fields =>
    { title := titleOf prompt, fields := Record.ofFields fields }

/-- The schema as a value. -/
def toJson (schema : Schema) : Json :=
  .obj
    [("title", .str schema.title), ("type", .str "object"),
     ("properties", .obj (schema.fields.map fun (name, type, _) => (name, type.toJson))),
     ("required", .arr [])]

/-- The defaults of the fields as a value. -/
def defaults (schema : Schema) : RawJson :=
  .obj (schema.fields.map fun (name, _, value) => (.ofString name, value))

/-- The remark on a schema without fields. -/
def warnings (schema : Schema) : List String :=
  if schema.fields.isEmpty then
    ["No @field metadata found; schema contains no configurable properties"]
  else []

end Schema

end PromptPress
