import PromptPress.Cron.Expression
import PromptPress.Time.Moment

/-!
# The next time

The next time of a schedule is the first full minute after a moment whose date and time of day the
schedule admits.  If both the day of the month and the day of the week are restricted, it is the earlier
of the times that each restriction gives alone.  Times are looked for in the year of the moment and the
fifty years after it.
-/

namespace PromptPress.Cron

open PromptPress.Time

/-- Whether a field admits a value. -/
def Field.admits (field : Field) (value : Int) : Bool :=
  field.every || field.values.any fun n => (n : Int) == value

/-- Whether a field of days admits the day of a date. -/
def Field.admitsDay (field : Field) (date : Date) : Bool :=
  field.admits date.dayOfMonth || (field.last && date.dayOfMonth == date.daysInMonth)

/-- Whether a counted day of the week falls on a date. -/
def fallsOn (date : Date) (counted : Nat × Occurrence) : Bool :=
  weekday date.day == counted.1 &&
    match counted.2 with
    | .nth n => (date.dayOfMonth - 1) / 7 + 1 == n
    | .last => date.daysInMonth < date.dayOfMonth + 7

/-- Whether a field of days of the week admits a date. -/
def Field.admitsWeekday (field : Field) (date : Date) : Bool :=
  if field.counted.isEmpty then field.admits (weekday date.day)
  else field.counted.any (fallsOn date)

namespace Schedule

/-- Whether a schedule admits a date. -/
def admitsDate (s : Schedule) (date : Date) : Bool :=
  s.months.admits date.month && s.days.admitsDay date && s.weekdays.admitsWeekday date

/-- The minutes of a day that a schedule admits, in order. -/
def minutesOfDay (s : Schedule) : List Int :=
  ((List.range 24).filter fun (h : Nat) => s.hours.admits h).flatMap fun h =>
    ((List.range 60).filter fun (m : Nat) => s.minutes.admits m).map fun m => ((h * 60 + m : Nat) : Int)

/-- The first time, in minutes, on the days from one on whose minute of the day is one of those given
and, on the first day, not before a bound. -/
def search (admits : Date → Bool) (times : List Int) : (days : Nat) → (day bound : Int) → Option Int
  | 0, _, _ => none
  | days + 1, day, bound =>
    let here := if admits (Date.ofDay day) then times.find? (bound ≤ ·) else none
    match here with
    | some time => some (day * 1440 + time)
    | none => search admits times days (day + 1) 0

/-- How many years after the present one are searched. -/
def searchYears : Int := 50

/-- The first time, in minutes of the local clock, that is not before one. -/
def firstFrom (s : Schedule) (minute : Int) : Option Int :=
  let day := minute / 1440
  let stop := (Date.mk ((Date.ofDay day).year + searchYears + 1) 1 1).day
  search s.admitsDate s.minutesOfDay (stop - day).toNat day (minute % 1440)

/-- The first time after a minute; none if one of two restrictions of days has no time. -/
def nextMinute (s : Schedule) (minute : Int) : Option Int :=
  if s.days.every || s.weekdays.every then s.firstFrom (minute + 1)
  else
    let byDay := { s with weekdays := { s.weekdays with every := true } }.firstFrom (minute + 1)
    let byWeekday := { s with days := { s.days with every := true } }.firstFrom (minute + 1)
    match byDay, byWeekday with
    | some a, some b => some (min a b)
    | _, _ => none

/-- The first time after a moment, on the same clock. -/
def next (s : Schedule) (m : Moment) : Option Moment :=
  (s.nextMinute (m.clock / minute)).map fun n => { m with clock := n * minute }

/-! ### Times come later -/

theorem le_of_find? {p : Int → Bool} {xs : List Int} {x : Int} (h : xs.find? p = some x) : p x := by
  induction xs with
  | nil => simp at h
  | cons y ys ih =>
    rw [List.find?_cons] at h
    split at h
    · simp_all
    · exact ih h

theorem le_search {admits : Date → Bool} {times : List Int} {days : Nat} {day bound found : Int}
    (h : search admits times days day bound = some found) (hb : bound ≤ 1440) :
    day * 1440 + bound ≤ found := by
  induction days generalizing day bound with
  | zero => simp [search] at h
  | succ days ih =>
    rw [search] at h
    split at h
    · next time eq =>
      have : bound ≤ time := by
        split at eq
        · simpa using le_of_find? eq
        · simp at eq
      simp only [Option.some.injEq] at h
      omega
    · have := ih h (by omega)
      omega

theorem le_firstFrom {s : Schedule} {minute found : Int} (h : s.firstFrom minute = some found) :
    minute ≤ found := by
  have := le_search h (by omega)
  omega

theorem lt_nextMinute {s : Schedule} {minute found : Int} (h : s.nextMinute minute = some found) :
    minute < found := by
  unfold nextMinute at h
  dsimp only at h
  split at h
  · have := le_firstFrom h
    omega
  · split at h
    · next a b ha hb =>
      have := le_firstFrom ha
      have := le_firstFrom hb
      simp only [Option.some.injEq] at h
      omega
    · simp at h

end Schedule

end PromptPress.Cron
