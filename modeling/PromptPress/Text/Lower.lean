import PromptPress.Text.CaseTable

/-!
# Lower case

The lower case form of a text.  Each character has a form of its own, with two exceptions: the
capital I with a dot becomes two characters, and a capital sigma at the end of a word takes the final
form of the letter.
-/

namespace PromptPress.Text

/-- The lower case form of a character on its own. -/
def lowerChar (c : Char) : Char :=
  if c.toNat < 128 then c.toLower
  else
    match lowerRows.find? (·.holds c.toNat) with
    | some row => Char.ofNat (c.toNat + row.shift).toNat
    | none => c

/-- Whether the first character that is not passed over has case. -/
def meetsCased : List Char → Bool
  | [] => false
  | c :: cs =>
    if caseIgnorableRanges.holds c.toNat then meetsCased cs else casedRanges.holds c.toNat

/-- A sigma is final when a cased letter comes before it and none after it; `before` is read backwards. -/
def isFinalSigma (before after : List Char) : Bool :=
  meetsCased before && !meetsCased after

/-- Lower case of a text, where `before` holds the characters to the left, nearest first. -/
def lowerAfter (before : List Char) : List Char → List Char
  | [] => []
  | c :: cs =>
    let rest := lowerAfter (c :: before) cs
    if c == 'Σ' then (if isFinalSigma before cs then 'ς' else 'σ') :: rest
    else if c == 'İ' then 'i' :: '\u0307' :: rest
    else lowerChar c :: rest

/-- The lower case form of a text. -/
def lower (s : List Char) : List Char :=
  lowerAfter [] s

/-- The lower case form of a string. -/
def lowerString (s : String) : String :=
  String.ofList (lower s.toList)

end PromptPress.Text
