import PromptPress.Number.Binary64
import PromptPress.Text.Pieces
import PromptPress.Text.Digit
import PromptPress.Time.Calendar

/-!
# Moments

A moment is what a clock on the wall shows, to the microsecond, and, if it is known, how far that clock
is ahead of universal time.  Only moments that both know it, or both do not, can be compared.
-/

namespace PromptPress.Time

open PromptPress.Text

/-- Microseconds in a second. -/
def second : Int := 1000000

/-- Microseconds in a minute. -/
def minute : Int := 60 * second

/-- Microseconds in a day. -/
def wholeDay : Int := 24 * 60 * minute

/-- A date and time of day, with or without its distance from universal time. -/
structure Moment where
  /-- Microseconds that the clock shows since the beginning of year 1. -/
  clock : Int
  /-- Seconds that the clock is ahead of universal time. -/
  ahead : Option Int
deriving DecidableEq, Inhabited

/-- The first year that a moment cannot lie in. -/
def yearLimit : Int := 10000

/-- The first reading of a clock that is too late. -/
def clockLimit : Int :=
  (Date.mk yearLimit 1 1).day * wholeDay

namespace Moment

/-- The beginning of year 1 in universal time. -/
def earliest : Moment := ⟨0, some 0⟩

/-- The moment on the same clock in universal time. -/
def asUniversal (m : Moment) : Moment :=
  { m with ahead := some (m.ahead.getD 0) }

/-- Microseconds since the beginning of year 1 in universal time; an unknown distance counts as none. -/
def instant (m : Moment) : Int :=
  m.clock - (m.ahead.getD 0) * second

/-- Whether a moment lies before another, if they can be compared. -/
def isBefore? (a b : Moment) : Option Bool :=
  if a.ahead.isSome = b.ahead.isSome then some (a.instant < b.instant) else none

/-- The same moment on a clock some seconds ahead of universal time. -/
def inZone (m : Moment) (ahead : Int) : Moment :=
  ⟨m.instant + ahead * second, some ahead⟩

/-- The moment some microseconds later on the same clock. -/
def add (m : Moment) (span : Int) : Moment :=
  { m with clock := m.clock + span }

/-- Whether the year of a moment can be written. -/
def isInRange (m : Moment) : Bool :=
  0 ≤ m.clock && m.clock < clockLimit

/-- The date of a moment. -/
def date (m : Moment) : Date :=
  Date.ofDay (m.clock / wholeDay)

/-- The text of a distance from universal time. -/
def showAhead (ahead : Int) : List Char :=
  let total := ahead.natAbs
  let seconds := total % 60
  (if ahead < 0 then '-' else '+') :: showPadded 2 (total / 3600) ++
    ':' :: showPadded 2 (total / 60 % 60) ++
    (if seconds = 0 then [] else ':' :: showPadded 2 seconds)

/-- The text of a moment: date, time, microseconds unless zero, and the distance if it is known. -/
def render (m : Moment) : String :=
  let date := m.date
  let time := (m.clock % wholeDay).toNat
  let micros := time % 1000000
  let seconds := time / 1000000
  String.ofList <|
    showPadded 4 date.year.toNat ++ '-' :: showPadded 2 date.month.toNat ++
      '-' :: showPadded 2 date.dayOfMonth.toNat ++
      'T' :: showPadded 2 (seconds / 3600) ++ ':' :: showPadded 2 (seconds / 60 % 60) ++
      ':' :: showPadded 2 (seconds % 60) ++
      (if micros = 0 then [] else '.' :: showPadded 6 micros) ++
      (m.ahead.map showAhead).getD []

/-- The number that a text of decimal digits writes. -/
def digits? (s : List Char) : Option Int :=
  if s.isEmpty then none else (s.mapM digitValue?).map fun ds => (ofDigits 10 ds : Int)

/-- Numbers between colons. -/
def clockParts? (s : List Char) : Option (List Int) :=
  (cut (· == ':') s).mapM digits?

/-- Seconds of hours, minutes and seconds. -/
def secondsOf? : List Int → Option Int
  | [hours] => some (hours * 3600)
  | [hours, minutes] => some (hours * 3600 + minutes * 60)
  | [hours, minutes, seconds] => some (hours * 3600 + minutes * 60 + seconds)
  | _ => none

/-- Reads a time of day with a fraction of up to six digits, in microseconds. -/
def timeOfDay? (s : List Char) : Option Int :=
  let (whole, fraction) := (splitAtChar? (· == '.') s).getD (s, [])
  let fraction := (fraction ++ List.replicate (6 - fraction.length) '0').take 6
  match (clockParts? whole).bind secondsOf?, digits? fraction with
  | some seconds, some micros => some (seconds * second + micros)
  | _, _ => none

/-- Reads a date. -/
def date? (s : List Char) : Option Date :=
  match (cut (· == '-') s).mapM digits? with
  | some [year, month, day] => some ⟨year, month, day⟩
  | _ => none

/-- Splits a time from the distance from universal time behind it. -/
def splitAhead? (s : List Char) : Option (List Char × Option Int) :=
  if s.getLast? == some 'Z' then some (s.dropLast, some 0)
  else
    match splitAtChar? (fun c => c == '+' || c == '-') s with
    | none => some (s, none)
    | some (time, ahead) =>
      ((clockParts? ahead).bind secondsOf?).map fun seconds =>
        (time, some (if s[time.length]? == some '-' then -seconds else seconds))

/-- Reads the text of a moment. -/
def read? (text : String) : Option Moment :=
  let s := text.toList
  match date? (s.take 10), splitAhead? (s.drop 11) with
  | some date, some (time, ahead) =>
    let time := if time.isEmpty then some 0 else timeOfDay? time
    time.map fun t => ⟨date.day * wholeDay + t, ahead⟩
  | _, _ => none

end Moment

/-- The day on which clocks of computers begin to count. -/
def epochDay : Int := (Date.mk 1970 1 1).day

/-- Why there is no moment for a count of milliseconds: its year cannot be written. -/
structure YearOutOfRange where
  year : Int
deriving DecidableEq, Inhabited

/-- The message of the error. -/
def YearOutOfRange.message (e : YearOutOfRange) : String :=
  s!"year {e.year} is out of range"

/-- Microseconds since 1970 for milliseconds that were divided down to seconds in floating point: the
fraction of a second is rounded to the microsecond, a half to the even one. -/
def microsOfMillis (millis : Int) : Int :=
  let seconds := Binary64.ofRatio (millis < 0) millis.natAbs 1000
  match seconds.toRatio? with
  | none => 0
  | some (negative, num, den) =>
    let micros := ((Binary64.ofRatio negative (num % den) den).mulNat 1000000).round?.getD 0
    let whole : Int := (num / den : Nat)
    (if negative then -whole else whole) * second + micros

/-- The moment in universal time that lies some milliseconds after the beginning of 1970. -/
def momentOfMillis (millis : Int) : Except YearOutOfRange Moment :=
  let m : Moment := ⟨epochDay * wholeDay + microsOfMillis millis, some 0⟩
  if m.isInRange then .ok m else .error ⟨m.date.year⟩

end PromptPress.Time
