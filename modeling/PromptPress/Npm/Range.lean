import PromptPress.Npm.Version

/-!
# Ranges of versions

A range is a union of alternatives, each a list of comparators that have to hold together.  Its text
may use shorthands: `1.2 - 2.3`, `~1.2`, `^1.2.3`, `1.x` and `*`.  They are expanded into comparators
step by step, and what is no comparator in the end makes the range invalid.
-/

namespace PromptPress.Npm

open PromptPress.Text

/-- How a version is compared with the version of a comparator. -/
inductive Operator where
  | less
  | atMost
  | greater
  | atLeast
  | equal
deriving DecidableEq, Inhabited

/-- A condition on versions; without a version it always holds. -/
structure Comparator (ν : Type := Version) where
  operator : Operator
  version : Option ν
deriving DecidableEq, Inhabited

/-- A union of lists of comparators. -/
abbrev Range (ν : Type := Version) := List (List (Comparator ν))

/-- Whether an order stands in the relation of an operator. -/
def Operator.holds : Operator → Ordering → Bool
  | less, o => o == .lt
  | atMost, o => o != .gt
  | greater, o => o == .gt
  | atLeast, o => o != .lt
  | equal, o => o == .eq

/-- Whether a version passes a comparator. -/
def Comparator.passes {ν : Type} [Ord ν] (c : Comparator ν) (v : ν) : Bool :=
  match c.version with
  | none => true
  | some bound => c.operator.holds (compare v bound)

/-- Whether a version passes all comparators of some alternative. -/
def Range.passes {ν : Type} [Ord ν] (range : Range ν) (v : ν) : Bool :=
  range.any fun comparators => comparators.all (·.passes v)

/-- A text that is no comparator. -/
structure InvalidComparator where
  text : String
deriving DecidableEq, Inhabited

/-- The message of the error. -/
def InvalidComparator.message (e : InvalidComparator) : String :=
  s!"Invalid comparator: {e.text}"

/-- A reader of the texts of ranges. -/
abbrev RangeReader (ν : Type) := String → Except InvalidComparator (Range ν)

/-! ### Partial versions -/

/-- A version of which parts may be missing or be wildcards. -/
structure Partial where
  major : List Char
  minor : Option (List Char) := none
  patch : Option (List Char) := none
  prerelease : Option (List Char) := none

/-- Whether a part is missing or a wildcard. -/
def isWild (part : Option (List Char)) : Bool :=
  match part with
  | none => true
  | some part => part == ['x'] || part == ['X'] || part == ['*']

/-- Takes a number or a wildcard from the start of a text. -/
def takePart? : List Char → Option (List Char × List Char)
  | [] => none
  | c :: cs => if c == 'x' || c == 'X' || c == '*' then some ([c], cs) else takeNumber? (c :: cs)

/-- Whether a character may stand before the numbers of a partial version. -/
def isLead (c : Char) : Bool :=
  c == 'v' || c == '=' || isBlank c

/-- Reads a partial version up to the end of a text. -/
def Partial.ofText? (s : List Char) : Option Partial := do
  let (major, rest) ← takePart? (s.dropWhile isLead)
  match rest with
  | [] => return { major }
  | rest =>
    let (minor, rest) ← takePart? (← dropStart? ['.'] rest)
    match rest with
    | [] => return { major, minor := some minor }
    | rest =>
      let (patch, rest) ← takePart? (← dropStart? ['.'] rest)
      let suffix ← readSuffix? rest
      return { major, minor := some minor, patch := some patch, prerelease := suffix.map (·.1) }

/-- The number after the one that digits write, as digits. -/
def successor (digits : List Char) : List Char :=
  showNat (numberOf digits + 1)

/-- Three numbers with points between them. -/
def dotted (major minor patch : List Char) : List Char :=
  major ++ '.' :: minor ++ '.' :: patch

/-- The texts of the comparators "at least" and "less than". -/
def between (low high : List Char) : List (List Char) :=
  ['>' :: '=' :: low, '<' :: high]

private def nought : List Char := ['0']

/-- The text of a prerelease after a version; a hyphen is not doubled. -/
def withPrerelease (version : List Char) : Option (List Char) → List Char
  | none => version
  | some [] => version
  | some (c :: cs) => if c == '-' then version ++ c :: cs else version ++ '-' :: c :: cs

namespace Partial

private def minorText (p : Partial) : List Char := p.minor.getD []
private def patchText (p : Partial) : List Char := p.patch.getD []

/-- The least version that is meant, with its prerelease. -/
def low (p : Partial) : List Char :=
  withPrerelease (dotted p.major p.minorText p.patchText) p.prerelease

/-- The comparators of `~p`: the last number that is given may grow, or the last but one of three. -/
def tilde (p : Partial) : List (List Char) :=
  if isWild (some p.major) then [[]]
  else if isWild p.minor then
    between (dotted p.major nought nought) (dotted (successor p.major) nought nought)
  else
    let next := dotted p.major (successor p.minorText) nought
    if isWild p.patch then between (dotted p.major p.minorText nought) next else between p.low next

/-- The comparators of `^p`: the first number that is not zero must not grow. -/
def caret (p : Partial) : List (List Char) :=
  let nextMajor := dotted (successor p.major) nought nought
  let nextMinor := dotted p.major (successor p.minorText) nought
  if isWild (some p.major) then [[]]
  else if isWild p.minor then between (dotted p.major nought nought) nextMajor
  else if isWild p.patch then
    between (dotted p.major p.minorText nought) (if p.major == nought then nextMinor else nextMajor)
  else
    let nextPatch := dotted p.major p.minorText (successor p.patchText)
    between p.low
      (if p.major != nought then nextMajor else if p.minorText != nought then nextMinor else nextPatch)

/-- The comparators of an operator before a partial version, `written` being the whole text. -/
def compared (operator : List Char) (p : Partial) (written : List Char) : List (List Char) :=
  let wildMinor := isWild p.minor
  let wild := wildMinor || isWild p.patch
  let operator := if operator == ['='] && (isWild (some p.major) || wild) then [] else operator
  let minor := if wildMinor then nought else p.minorText
  let nextMajor := dotted (successor p.major) nought nought
  let next := if wildMinor then nextMajor else dotted p.major (successor minor) nought
  if isWild (some p.major) then
    if operator == ['>'] || operator == ['<'] then ["<0.0.0".toList] else [['*']]
  else if !wild then [written]
  else
    match operator with
    | [] => between (dotted p.major minor nought) next
    | ['>'] => ['>' :: '=' :: next]
    | ['<', '='] => ['<' :: next]
    | _ => [operator ++ dotted p.major minor nought]

end Partial

/-! ### Expanding a comparator -/

/-- The operator at the start of a text and what follows it. -/
def takeOperator : List Char → List Char × List Char
  | '<' :: '=' :: rest => (['<', '='], rest)
  | '>' :: '=' :: rest => (['>', '='], rest)
  | '<' :: rest => (['<'], rest)
  | '>' :: rest => (['>'], rest)
  | '=' :: rest => (['='], rest)
  | rest => ([], rest)

/-- Deletes stars, each with an operator before it. -/
def dropStars : List Char → List Char
  | [] => []
  | '<' :: '=' :: '*' :: rest => dropStars rest
  | '>' :: '=' :: '*' :: rest => dropStars rest
  | '<' :: '*' :: rest => dropStars rest
  | '>' :: '*' :: rest => dropStars rest
  | '=' :: '*' :: rest => dropStars rest
  | '*' :: rest => dropStars rest
  | c :: rest => c :: dropStars rest

/-- The comparators of a text that begins with a caret or a tilde, if it is such a shorthand. -/
def shorthand? : List Char → Option (List (List Char))
  | '^' :: rest => (Partial.ofText? rest).map Partial.caret
  | '~' :: '>' :: rest => (Partial.ofText? rest).map Partial.tilde
  | '~' :: rest => (Partial.ofText? rest).map Partial.tilde
  | _ => none

/-- Expands a text without blanks into the texts of comparators. -/
def expand (s : List Char) : List (List Char) :=
  match shorthand? s with
  | some comparators => comparators
  | none =>
    let (operator, rest) := takeOperator s
    match Partial.ofText? rest with
    | some p => (p.compared operator s).map dropStars
    | none => [dropStars s]

/-- The operator that a text writes; none means equality. -/
def Operator.ofText : List Char → Operator
  | ['<'] => less
  | ['<', '='] => atMost
  | ['>'] => greater
  | ['>', '='] => atLeast
  | _ => equal

/-- Reads a comparator. -/
def Comparator.ofText (s : List Char) : Except InvalidComparator Comparator :=
  if s.isEmpty then .ok ⟨.equal, none⟩
  else
    let (operator, rest) := takeOperator s
    match Version.ofText? rest with
    | some v => .ok ⟨.ofText operator, some v⟩
    | none => .error ⟨String.ofList s⟩

/-! ### Expanding an alternative -/

/-- Splits a text at the first hyphen with blanks on both sides. -/
def splitHyphen? : List Char → Option (List Char × List Char)
  | [] => none
  | c :: cs =>
    match cs with
    | '-' :: d :: rest =>
      if isBlank c && isBlank d then some ([], rest)
      else (splitHyphen? cs).map fun (before, after) => (c :: before, after)
    | _ => (splitHyphen? cs).map fun (before, after) => (c :: before, after)

/-- The lower bound of a hyphen range. -/
def hyphenLow (written : List Char) (p : Partial) : List Char :=
  if isWild (some p.major) then []
  else if isWild p.minor then ">=".toList ++ dotted p.major nought nought
  else if isWild p.patch then ">=".toList ++ dotted p.major (p.minor.getD []) nought
  else ">=".toList ++ written

/-- The upper bound of a hyphen range. -/
def hyphenHigh (written : List Char) (p : Partial) : List Char :=
  let minor := p.minor.getD []
  if isWild (some p.major) then []
  else if isWild p.minor then '<' :: dotted (successor p.major) nought nought
  else if isWild p.patch then '<' :: dotted p.major (successor minor) nought
  else
    match p.prerelease with
    | some pre => "<=".toList ++ dotted p.major minor (p.patch.getD []) ++ '-' :: pre
    | none => "<=".toList ++ written

/-- Expands a hyphen range into two comparators; any other text stays as it is. -/
def expandHyphen (s : List Char) : List Char :=
  match splitHyphen? s with
  | none => s
  | some (from', to') =>
    let low := trim from'
    let high := to'.dropWhile isBlank
    match Partial.ofText? low, Partial.ofText? (trim high) with
    | some p, some q => trim (hyphenLow low p ++ ' ' :: hyphenHigh (trim high) q)
    | _, _ => s

/-- What follows the labels of a prerelease or of build metadata at the start of a text. -/
def dropLabels (s : List Char) : List Char :=
  s.dropWhile fun c => isLabelChar c || c == '.'

/-- What follows the version or partial version at the start of a text, if one is there. -/
def dropVersion? (s : List Char) : Option (List Char) := do
  let (_, rest) ← takePart? s <|> (if (s.head?.map Char.isDigit).getD false then
    some (s.takeWhile Char.isDigit, s.dropWhile Char.isDigit) else none)
  let rest := rest.dropWhile fun c => c.isDigit || c == '.' || c == '*'
  return dropLabels (match rest with | '+' :: rest => rest | rest => rest)

/-- Drops the blanks between an operator and the version after it; `fuel` bounds the number of
steps. -/
def closeOperators : (fuel : Nat) → List Char → List Char
  | 0, s => s
  | _ + 1, [] => []
  | fuel + 1, c :: cs =>
    let (operator, rest) := takeOperator ((c :: cs).dropWhile isBlank)
    let body := rest.dropWhile isBlank
    match dropVersion? (body.dropWhile isLead) with
    | some after =>
      (c :: cs).takeWhile isBlank ++ operator ++ body.take (body.length - after.length) ++
        closeOperators fuel after
    | none => c :: closeOperators fuel cs

/-- Drops the blanks after tildes and carets; `skipping` says that one has just been passed. -/
def closeShorthands (skipping : Bool) : List Char → List Char
  | [] => []
  | '~' :: '>' :: d :: rest =>
    if isBlank d then '~' :: closeShorthands true rest
    else '~' :: '>' :: closeShorthands false (d :: rest)
  | c :: d :: rest =>
    if skipping && isBlank c then closeShorthands true (d :: rest)
    else if (c == '~' || c == '^') && isBlank d then c :: closeShorthands true rest
    else c :: closeShorthands false (d :: rest)
  | [c] => if skipping && isBlank c then [] else [c]

/-- The texts of the comparators of one alternative. -/
def comparatorTexts (alternative : List Char) : List (List Char) :=
  let hyphened := expandHyphen (trim alternative)
  match words isBlank (closeShorthands false (closeOperators (hyphened.length + 1) hyphened)) with
  | [] => [[]]
  | texts => texts.flatMap expand

/-- The alternatives of a range; `fuel` bounds their number. -/
def alternatives : (fuel : Nat) → List Char → List (List Char)
  | 0, s => [s]
  | fuel + 1, s =>
    match splitAt? ['|', '|'] s with
    | some (first, rest) => first :: alternatives fuel rest
    | none => [s]

/-- Reads the comparators of one alternative. -/
def readAlternative (s : List Char) : Except InvalidComparator (List Comparator) :=
  (comparatorTexts s).mapM Comparator.ofText

/-- Reads a range. -/
def Range.parse (text : String) : Except InvalidComparator Range :=
  (alternatives text.length text.toList).mapM readAlternative

end PromptPress.Npm
