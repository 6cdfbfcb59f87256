import PromptPress.Text.Digit
import PromptPress.Text.Pieces

/-!
# Package versions

A version has three numbers and may have prerelease identifiers; build metadata after a plus sign does
not count.  Versions are compared by their numbers first; a prerelease comes before its release, and
prereleases are compared identifier by identifier, numbers before words.
-/

namespace PromptPress.Npm

open PromptPress.Text

/-- A part of a prerelease: a number or a word. -/
inductive Identifier where
  | number (n : Nat)
  | word (text : String)
deriving DecidableEq, Inhabited

/-- A version of a package. -/
structure Version where
  major : Nat
  minor : Nat
  patch : Nat
  prerelease : List Identifier := []
deriving DecidableEq, Inhabited

/-- The order of two identifiers. -/
def Identifier.order : Identifier → Identifier → Ordering
  | number a, number b => compare a b
  | number _, word _ => .lt
  | word _, number _ => .gt
  | word a, word b => compare a b

/-- The order of two lists of identifiers of which neither is empty as a whole: the first difference
counts, and a list comes before its continuations. -/
def orderIdentifiers : List Identifier → List Identifier → Ordering
  | [], [] => .eq
  | [], _ :: _ => .lt
  | _ :: _, [] => .gt
  | a :: as, b :: bs => (a.order b).then (orderIdentifiers as bs)

/-- The order of two prereleases; none at all comes after every one. -/
def orderPrerelease (a b : List Identifier) : Ordering :=
  match a, b with
  | [], [] => .eq
  | [], _ :: _ => .gt
  | _ :: _, [] => .lt
  | a, b => orderIdentifiers a b

/-- The order of two versions. -/
def Version.order (a b : Version) : Ordering :=
  (compare a.major b.major).then <| (compare a.minor b.minor).then <|
    (compare a.patch b.patch).then (orderPrerelease a.prerelease b.prerelease)

instance : Ord Version := ⟨Version.order⟩

/-- Takes a number without leading zeros from the start of a text. -/
def takeNumber? : List Char → Option (List Char × List Char)
  | [] => none
  | c :: cs =>
    if c == '0' then some (['0'], cs)
    else if '1' ≤ c && c ≤ '9' then some (c :: cs.takeWhile isDigit, cs.dropWhile isDigit)
    else none

/-- The number that digits of any script write. -/
def numberOf (digits : List Char) : Nat :=
  ofDigits 10 (digits.filterMap digitValue?)

/-- Whether a character may stand in a word of a prerelease or of build metadata. -/
def isLabelChar (c : Char) : Bool :=
  c.isAlphanum || c == '-'

/-- The identifier that a text writes: a number without leading zeros, or a word that is not all
digits. -/
def Identifier.ofText? (s : List Char) : Option Identifier :=
  match takeNumber? s with
  | some (digits, []) => some (.number (numberOf digits))
  | _ =>
    match s.dropWhile isDigit with
    | c :: cs =>
      if isLabelChar c && cs.all isLabelChar then some (.word (String.ofList s)) else none
    | [] => none

/-- The identifiers that a text with points between them writes. -/
def identifiersOf? (s : List Char) : Option (List Identifier) :=
  (cut (· == '.') s).mapM Identifier.ofText?

/-- Whether a text is build metadata. -/
def isBuild (s : List Char) : Bool :=
  (cut (· == '.') s).all fun label => !label.isEmpty && label.all isLabelChar

/-- What may follow the three numbers of a version up to the end of a text: the text of a prerelease
and the identifiers in it, if there is one, and build metadata. -/
def readSuffix? : List Char → Option (Option (List Char × List Identifier))
  | [] => some none
  | '+' :: rest => if isBuild rest then some none else none
  | '-' :: rest =>
    match splitAtChar? (· == '+') rest with
    | none => (identifiersOf? rest).map fun ids => some (rest, ids)
    | some (pre, build) =>
      if isBuild build then (identifiersOf? pre).map fun ids => some (pre, ids) else none
  | _ => none

/-- Reads a version without a `v`, up to the end of a text. -/
def readNumbers? (s : List Char) : Option Version := do
  let (major, s) ← takeNumber? s
  let s ← dropStart? ['.'] s
  let (minor, s) ← takeNumber? s
  let s ← dropStart? ['.'] s
  let (patch, s) ← takeNumber? s
  let suffix ← readSuffix? s
  return ⟨numberOf major, numberOf minor, numberOf patch, (suffix.map (·.2)).getD []⟩

/-- Reads a version, with or without a `v` before it. -/
def Version.ofText? : List Char → Option Version
  | 'v' :: rest => readNumbers? rest
  | s => readNumbers? s

end PromptPress.Npm
