import PromptPress.Text.Digit
import PromptPress.Text.Lower
import PromptPress.Text.Pieces
import PromptPress.Text.Word

/-!
# Cron expressions

Five fields say in which minutes, hours, days of the month, months and days of the week something is
due.  A field is a list of numbers, names, ranges and steps.  A range whose ends are the wrong way round
runs over the end of the field, and one whose ends are equal is the whole field.  Days of the week may be
counted within the month, as in `5#2`, the second Friday, and `l5`, the last one.
-/

namespace PromptPress.Cron

open PromptPress.Text

/-- Why an expression has no meaning. -/
inductive SyntaxError where
  /-- A part of the expression is not formed as it should be, or out of range. -/
  | malformed
  /-- A part of the expression is neither a number nor a name of its field. -/
  | unknownName
  /-- Counted and plain days of the week are mixed. -/
  | mixedWeekdays
deriving DecidableEq, Inhabited

/-- Which day of the week of a month is meant. -/
inductive Occurrence where
  | nth (n : Nat)
  | last
deriving DecidableEq, Inhabited

/-- The rules of a field. -/
structure FieldRule where
  least : Nat
  greatest : Nat
  names : List (String × Nat) := []
  /-- Whether the number after the greatest one means the least one. -/
  wrapsOnce : Bool := false
  /-- Whether `l` stands for the last one. -/
  hasLast : Bool := false
  /-- Whether a question mark may stand for any. -/
  hasAny : Bool := false
  /-- Whether single ones can be counted within a month. -/
  counts : Bool := false
deriving DecidableEq, Inhabited

/-- The rule of minutes. -/
def minuteRule : FieldRule := { least := 0, greatest := 59 }

/-- The rule of hours. -/
def hourRule : FieldRule := { least := 0, greatest := 23 }

/-- The rule of days of the month. -/
def dayRule : FieldRule := { least := 1, greatest := 31, hasLast := true, hasAny := true }

/-- The rule of months. -/
def monthRule : FieldRule :=
  { least := 1, greatest := 12
    names := [("jan", 1), ("feb", 2), ("mar", 3), ("apr", 4), ("may", 5), ("jun", 6), ("jul", 7),
      ("aug", 8), ("sep", 9), ("oct", 10), ("nov", 11), ("dec", 12)] }

/-- The rule of days of the week. -/
def weekdayRule : FieldRule :=
  { least := 0, greatest := 6, wrapsOnce := true, hasAny := true, counts := true
    names := [("sun", 0), ("mon", 1), ("tue", 2), ("wed", 3), ("thu", 4), ("fri", 5), ("sat", 6)] }

/-- What a field says: any value, or the listed ones. -/
structure Field where
  every : Bool := false
  values : List Nat := []
  /-- Whether the last one is meant too. -/
  last : Bool := false
  counted : List (Nat × Occurrence) := []
deriving DecidableEq, Inhabited

namespace Field

/-- Adds a value to those listed. -/
def addValue (field : Field) (value : Nat) : Field :=
  if field.values.contains value then field else { field with values := field.values ++ [value] }

/-- How many different entries a field has. -/
def entries (field : Field) : Nat :=
  field.values.length + (if field.every then 1 else 0) + (if field.last then 1 else 0)

end Field

/-- The number that a text of digits writes. -/
def number? (s : List Char) : Option Nat :=
  if s.isEmpty then none else (s.mapM digitValue?).map (ofDigits 10)

/-- A number after the greatest one of a field that wraps. -/
def FieldRule.wrap (rule : FieldRule) (n : Nat) : Nat :=
  if rule.wrapsOnce && n == rule.greatest + 1 then rule.least else n

/-- The number that a number or a name stands for, before it is checked. -/
def FieldRule.numberOf (rule : FieldRule) (s : List Char) : Except SyntaxError Nat :=
  match number? s with
  | some n => .ok (rule.wrap n)
  | none =>
    match rule.names.find? (·.1.toList == s) with
    | some (_, n) => .ok n
    | none => .error (if rule.hasLast && s == ['l'] then .malformed else .unknownName)

/-- The parts of `low-high` and `low-high/step`. -/
def rangeParts? (s : List Char) : Option (List Char × List Char × Option Nat) :=
  match splitAtChar? (· == '-') s with
  | none => none
  | some (low, rest) =>
    let high := rest.takeWhile fun c => c != '-' && c != '/'
    if low.isEmpty || high.isEmpty then none
    else
      match rest.drop high.length with
      | [] => some (low, high, none)
      | '/' :: digits => (number? digits).map fun step => (low, high, some step)
      | _ => none

/-- Writes `*/step` as a range with a step. -/
def FieldRule.spellStar (rule : FieldRule) (s : List Char) : List Char :=
  match s with
  | '*' :: '/' :: step =>
    if step.isEmpty then s else showNat rule.least ++ '-' :: showNat rule.greatest ++ '/' :: step
  | _ => s

/-- Writes `low/step` as a range with a step. -/
def FieldRule.spellStart (rule : FieldRule) (s : List Char) : List Char :=
  match splitAtLast? (· == '/') s with
  | some (low, step) =>
    if low.isEmpty || step.isEmpty then s
    else low ++ '-' :: showNat rule.greatest ++ '/' :: step
  | none => s

/-- The numbers from one on, in steps, that are less than a bound. -/
def steps (first stop step : Nat) : List Nat :=
  (List.range ((stop - first + step - 1) / step)).map fun i => first + i * step

/-- The numbers of a range. -/
def FieldRule.range (rule : FieldRule) (low high step : Nat) : List Nat :=
  if low < high then steps low (high + 1) step
  else if low = high then steps rule.least (rule.greatest + 1) step
  else
    let upper := steps low (rule.greatest + 1) step
    -- the numbers passed since the last one taken count for the step that runs over the end
    let skip := match upper.getLast? with
      | none => 0
      | some taken =>
        let passed := rule.greatest - taken
        let place := taken - rule.least
        if rule.greatest + 1 - rule.least < place + step && passed < step then step - passed else 0
    upper ++ steps (rule.least + skip) (high + 1) step

/-- The numbers of a range that is written out. -/
def FieldRule.rangeOf (rule : FieldRule) (low high : List Char) (step : Option Nat) :
    Except SyntaxError (List Nat) := do
  let high := if rule.hasLast && high == ['l'] then showNat rule.greatest else high
  let low ← rule.numberOf low
  let high ← rule.numberOf high
  let step := step.getD 1
  if rule.greatest < max low high || step == 0 then throw .malformed
  return rule.range low high step

/-- Adds one number to a field. -/
def FieldRule.take (rule : FieldRule) (occurrence : Option Occurrence) (n : Nat) (field : Field) :
    Except SyntaxError Field :=
  if n < rule.least || rule.greatest < n then .error .malformed
  else
    let field := field.addValue n
    .ok (match occurrence with
      | some o =>
        if field.counted.contains (n, o) then field
        else { field with counted := field.counted ++ [(n, o)] }
      | none => field)

/-- Adds numbers to a field, the last one first. -/
def FieldRule.takeAll (rule : FieldRule) (occurrence : Option Occurrence) (ns : List Nat)
    (field : Field) : Except SyntaxError Field :=
  ns.reverse.foldlM (fun field n => rule.take occurrence n field) field

/-- Whether a text is a name, or two names with a hyphen between them. -/
def isNameRange (names : List (String × Nat)) (s : List Char) : Bool :=
  match splitAtChar? (· == '-') s with
  | some (a, b) => names.any (·.1.toList == a) && names.any (·.1.toList == b)
  | none => false

/-- Splits the count from a day of the week: `5#2` and `l5`. -/
def splitCount (s : List Char) : Except SyntaxError (List Char × Option Occurrence) :=
  match splitAtLast? (· == '#') s with
  | some (day, count) =>
    match number? count with
    | none => .ok (s, none)
    | some n =>
      if !day.isEmpty && day.all isWord || isNameRange weekdayRule.names day ||
          isNameRange monthRule.names day then
        if 1 ≤ n && n ≤ 5 then .ok (day, some (.nth n)) else .error .malformed
      else .ok (s, none)
  | none =>
    match s with
    | 'l' :: day => .ok (if (number? day).isSome then (day, some .last) else (s, none))
    | _ => .ok (s, none)

/-- Adds what one part of a list says to a field. -/
def FieldRule.addPart (rule : FieldRule) (part : List Char) (field : Field) :
    Except SyntaxError Field := do
  let (part, occurrence) ← if rule.counts then splitCount part else pure (part, none)
  let starred := rule.spellStar part
  let started := rule.spellStart part
  match (rangeParts? starred).or (rangeParts? started) with
  | some (low, high, step) =>
    let numbers ← rule.rangeOf low high step
    rule.takeAll occurrence numbers field
  | none =>
    if started.head? == some '-' then throw .malformed
    if started == ['*'] then return { field with every := true }
    if rule.hasLast && started == ['l'] then return { field with last := true }
    let n ← rule.numberOf started
    rule.take occurrence n field

/-- Reads a field; the parts of a list are read from the last one on. -/
def FieldRule.parse (rule : FieldRule) (text : List Char) : Except SyntaxError Field :=
  if text.contains '?' then
    if text == ['?'] && rule.hasAny then .ok { every := true } else .error .malformed
  else (cut (· == ',') text).reverse.foldlM (fun field part => rule.addPart part field) {}

/-- When something is due. -/
structure Schedule where
  minutes : Field
  hours : Field
  days : Field
  months : Field
  weekdays : Field
deriving DecidableEq, Inhabited

/-- The fields that short names stand for. -/
def shortNames : List (String × String) :=
  [("@midnight", "0 0 * * *"), ("@hourly", "0 * * * *"), ("@daily", "0 0 * * *"),
   ("@weekly", "0 0 * * 0"), ("@monthly", "0 0 1 * *"), ("@yearly", "0 0 1 1 *"),
   ("@annually", "0 0 1 1 *")]

/-- A field that lists everything is any, unless that would change how it goes together with the other
field of days: that one has to hold an asterisk. -/
def Field.simplify (field : Field) (size : Nat) (otherHasStar : Bool) : Field :=
  if field.entries == size && otherHasStar then { field with every := true, values := [] } else field

/-- Reads an expression. -/
def Schedule.parse (expression : String) : Except SyntaxError Schedule := do
  let text := lower expression.toList
  let text := match shortNames.find? (·.1.toList == text) with
    | some (_, fields) => fields.toList
    | none => text
  match words isBlank text with
  | [minutes, hours, days, months, weekdays] =>
    let minuteField ← minuteRule.parse minutes
    let hourField ← hourRule.parse hours
    let dayField ← dayRule.parse days
    let monthField ← monthRule.parse months
    let weekdayField ← weekdayRule.parse weekdays
    let all := weekdayField.entries == 7
    let plain := weekdayField.values.any fun n => !weekdayField.counted.any (·.1 == n)
    if !weekdayField.counted.isEmpty && plain && !all then throw .mixedWeekdays
    return {
      minutes := minuteField
      hours := hourField
      days := dayField.simplify 31 (weekdays.contains '*')
      months := monthField
      weekdays := weekdayField.simplify 7 (days.contains '*') }
  | _ => throw .malformed

end PromptPress.Cron
