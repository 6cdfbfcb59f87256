import PromptPress.Archive.Basic
import PromptPress.Json.Encoding

/-!
# Titles of archives

The schema at the root of an archive may give a title.  A schema that is no JSON text, or not the record of
one, gives none; one that is nested deeper than the stack of the interpreter is a failure, and the reader says
why.
-/

namespace PromptPress

/-- A reader of schemas: the title that the bytes of one give, if they give one, or why it fails. -/
abbrev TitleReader := List UInt8 → Except String (Option RawText)

/-- The reader of JSON text on a stack with some levels left. -/
def TitleReader.ofLevels (levels : Nat) : TitleReader := fun bytes =>
  match Json.ofBytes? bytes with
  | none => .ok none
  | some text =>
    match Json.parse levels text with
    | .ok (.obj schema) => .ok (RawJson.field schema "title").text?
    | .error (.tooDeep overflow) => .error overflow.message
    | _ => .ok none

/-- The title of an archive. -/
def Archive.title (archive : Archive) (reader : TitleReader) : Except String (Option RawText) :=
  ((archive.content? "schema.json").map reader).getD (.ok none)

end PromptPress
