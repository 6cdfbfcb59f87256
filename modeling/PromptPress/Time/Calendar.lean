/-!
# The calendar

Days are numbered from the first of January of year 1.  The rules of leap years repeat after 400
years, and a year that begins in March has its leap day at the end; `Date.day` and `Date.ofDay` count
in such years.
-/

namespace PromptPress.Time

/-- A day of the calendar; months and days count from one. -/
structure Date where
  year : Int
  month : Int
  dayOfMonth : Int
deriving DecidableEq, Inhabited

namespace Date

/-- The number of a day, the first of January of year 1 being day zero. -/
def day (date : Date) : Int :=
  let year := if date.month ≤ 2 then date.year - 1 else date.year
  let month := if date.month ≤ 2 then date.month + 9 else date.month - 3
  let era := year / 400
  let yearOfEra := year % 400
  let dayOfYear := (153 * month + 2) / 5 + date.dayOfMonth - 1
  era * 146097 + yearOfEra * 365 + yearOfEra / 4 - yearOfEra / 100 + dayOfYear - 306

/-- The day with a number. -/
def ofDay (n : Int) : Date :=
  let era := (n + 306) / 146097
  let dayOfEra := (n + 306) % 146097
  let yearOfEra := (dayOfEra - dayOfEra / 1460 + dayOfEra / 36524 - dayOfEra / 146096) / 365
  let dayOfYear := dayOfEra - (365 * yearOfEra + yearOfEra / 4 - yearOfEra / 100)
  let month := (5 * dayOfYear + 2) / 153
  let year := yearOfEra + era * 400
  { year := if month < 10 then year else year + 1
    month := if month < 10 then month + 3 else month - 9
    dayOfMonth := dayOfYear - (153 * month + 2) / 5 + 1 }

/-- The first day of the month after the month of a day. -/
def nextMonth (date : Date) : Date :=
  if date.month = 12 then ⟨date.year + 1, 1, 1⟩ else ⟨date.year, date.month + 1, 1⟩

/-- How many days the month of a day has. -/
def daysInMonth (date : Date) : Int :=
  date.nextMonth.day - (Date.mk date.year date.month 1).day

end Date

/-- The day of the week of a numbered day, Sunday being zero. -/
def weekday (n : Int) : Int :=
  (n + 1) % 7

end PromptPress.Time
