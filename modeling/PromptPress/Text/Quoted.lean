import PromptPress.Text.Digit
import PromptPress.Text.VisibleTable

/-!
# Quoted texts in messages

A text that a message shows is put in quotes, with escapes for what would not be visible.  Single
quotes are used unless the text holds a single quote and no double quote.
-/

namespace PromptPress.Text

/-- Whether a character has a visible shape; of the blanks only the space has. -/
def isVisible (c : Char) : Bool :=
  if c.toNat < 128 then 32 ≤ c.toNat && c.toNat < 127 else !invisibleRanges.holds c.toNat

/-- The escape of an invisible character: two, four or eight hexadecimal digits. -/
def hexEscape (code : Nat) : List Char :=
  if code < 0x100 then '\\' :: 'x' :: showHex 2 code
  else if code < 0x10000 then '\\' :: 'u' :: showHex 4 code
  else '\\' :: 'U' :: showHex 8 code

/-- How one character stands between the given quotes. -/
def quoteChar (quote c : Char) : List Char :=
  if c == quote || c == '\\' then ['\\', c]
  else if c == '\n' then ['\\', 'n']
  else if c == '\r' then ['\\', 'r']
  else if c == '\t' then ['\\', 't']
  else if isVisible c then [c]
  else hexEscape c.toNat

/-- The quote that a text is shown in. -/
def quoteFor (s : List Char) : Char :=
  if s.contains '\x27' && !s.contains '\x22' then '\x22' else '\x27'

/-- A text in quotes, with escapes for what is not visible. -/
def quoted (s : List Char) : List Char :=
  quoteFor s :: s.flatMap (quoteChar (quoteFor s)) ++ [quoteFor s]

/-- A string in quotes, with escapes for what is not visible. -/
def quotedString (s : String) : String :=
  String.ofList (quoted s.toList)

end PromptPress.Text
