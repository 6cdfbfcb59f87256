import PromptPress.Text.WordTable

/-!
# Word characters

A word character is a letter or a number of any script, or the underscore.
-/

namespace PromptPress.Text

/-- Letters and digits of ASCII. -/
def isAsciiAlnum (c : Char) : Bool :=
  c.isAlphanum

/-- Whether a character may stand in a word: a letter or number of any script, or the underscore. -/
def isWord (c : Char) : Bool :=
  if c.toNat < 128 then c.isAlphanum || c == '_' else wordRanges.holds c.toNat

/-- A lower case letter or a digit of ASCII. -/
def isSlugChar (c : Char) : Bool :=
  c.isLower || c.isDigit

end PromptPress.Text
