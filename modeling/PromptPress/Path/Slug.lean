import PromptPress.Text.Lower
import PromptPress.Text.Pieces
import PromptPress.Text.Word

/-!
# Slugs and name segments

Short names made from free text: slugs and hyphenated names of lower case letters, digits and single
hyphens, and segments of object keys.
-/

namespace PromptPress.Path

open PromptPress.Text

/-- Lower case letters and digits of a text, with one hyphen for all that lies between them. -/
def slugChars (s : List Char) : List Char :=
  join ['-'] (words (!isSlugChar ·) (lower s))

/-- The slug of a text. -/
def slugify (text : String) : String :=
  String.ofList (slugChars text.toList)

/-- Puts a hyphen wherever a capital follows a lower case letter or a digit. -/
def splitHumps : List Char → List Char
  | c :: d :: rest =>
    if isSlugChar c && d.isUpper then c :: '-' :: splitHumps (d :: rest) else c :: splitHumps (d :: rest)
  | s => s

/-- The letters and digits of a text in lower case, hyphens between words and at capitals. -/
def kebabChars (s : List Char) : List Char :=
  (join ['-'] (words (!isAsciiAlnum ·) (splitHumps (trim s)))).map Char.toLower

/-- The hyphenated form of a text, or a fallback if nothing is left of it. -/
def kebab (text : String) (fallback : String := "component") : String :=
  match kebabChars text.toList with
  | [] => fallback
  | chars => String.ofList chars

/-- Whether a character may stand in a segment of an object key. -/
def isKeyChar (c : Char) : Bool :=
  c.isAlphanum || c == '.' || c == '_' || c == '-'

/-- Characters that a segment of an object key neither begins nor ends with. -/
def isKeyEdge (c : Char) : Bool :=
  c == '-' || c == '.' || c == '_'

/-- A text with hyphens for what a key segment cannot hold. -/
def keyChars (s : List Char) : List Char :=
  let mapped := (trim s).map fun c => if isKeyChar c then c else '-'
  trimBy isKeyEdge (replaceRuns (· == '-') ['-'] false mapped)

/-- A segment of an object key made from a text, or a fallback if nothing is left of it. -/
def keySegment (text fallback : String) : String :=
  match keyChars text.toList with
  | [] => fallback
  | chars => String.ofList chars

end PromptPress.Path
