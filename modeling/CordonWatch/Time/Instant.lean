import CordonWatch.Number.Power

/-!
# Instants and dates

An instant counts seconds since the start of 1970 and nanoseconds into the
second. The nanoseconds may run on into a second second, which is how a leap
second is named: it belongs to the second before it.

Dates are those of the Gregorian calendar, extended to all years. Years are
counted from March here, so that the leap day is the last day of its year,
and in eras of 400 years, which all have the same number of days.
-/

namespace CordonWatch

/-- A moment in universal time. -/
@[ext]
structure Instant where
  /-- Whole seconds since the start of 1970. -/
  seconds : Int
  /-- Nanoseconds into the second, below two thousand million. -/
  nanos : Nat
  deriving DecidableEq, Repr, Inhabited

/-- A day of the calendar. -/
@[ext]
structure Date where
  year : Int
  month : Nat
  day : Nat
  deriving DecidableEq, Repr, Inhabited

namespace Date

def isLeapYear (year : Int) : Bool :=
  year % 4 == 0 && (year % 100 != 0 || year % 400 == 0)

/-- Number of days of a month. -/
def daysInMonth (year : Int) (month : Nat) : Nat :=
  match month with
  | 2 => if isLeapYear year then 29 else 28
  | 4 | 6 | 9 | 11 => 30
  | _ => 31

/-- Whether month and day exist in that year. -/
def isValid (d : Date) : Bool :=
  1 ≤ d.month && d.month ≤ 12 && 1 ≤ d.day && d.day ≤ daysInMonth d.year d.month

/-- Days from the first of March to the first of a month, counted from March as 0. -/
def daysBefore (monthFromMarch : Nat) : Nat := (153 * monthFromMarch + 2) / 5

/-- Days since the first day of 1970. -/
def toDays (d : Date) : Int :=
  let year := if d.month ≤ 2 then d.year - 1 else d.year
  let era := year / 400
  let yearOfEra := year % 400
  let dayOfYear : Int := daysBefore ((d.month + 9) % 12) + d.day - 1
  let dayOfEra := yearOfEra * 365 + yearOfEra / 4 - yearOfEra / 100 + dayOfYear
  era * 146097 + dayOfEra - 719468

/-- The date that many days after the first day of 1970. -/
def ofDays (days : Int) : Date :=
  let fromEraStart := days + 719468
  let era := fromEraStart / 146097
  let dayOfEra := (fromEraStart % 146097).toNat
  -- The leap days that have passed are taken out before the division by 365: one in
  -- 1460 days, but for one in 36524, and the last day of the era.
  let yearOfEra := (dayOfEra - dayOfEra / 1460 + dayOfEra / 36524 - dayOfEra / 146096) / 365
  let dayOfYear := dayOfEra - (365 * yearOfEra + yearOfEra / 4 - yearOfEra / 100)
  let monthFromMarch := (5 * dayOfYear + 2) / 153
  let month := if monthFromMarch < 10 then monthFromMarch + 3 else monthFromMarch - 9
  { year := era * 400 + yearOfEra + (if month ≤ 2 then 1 else 0)
    month
    day := dayOfYear - daysBefore monthFromMarch + 1 }

end Date

namespace Instant

/-- The instant with the fraction of its second cut off. A leap second stays one. -/
def wholeSeconds (t : Instant) : Instant := ⟨t.seconds, t.nanos / 10 ^ 9 * 10 ^ 9⟩

/-- Nanoseconds since the start of 1970. -/
def toNanos (t : Instant) : Int := t.seconds * 10 ^ 9 + t.nanos

/-- The instant that many nanoseconds after the start of 1970. -/
def ofNanos (n : Int) : Instant := ⟨n / 10 ^ 9, (n % 10 ^ 9).toNat⟩

/-- The instant `n` nanoseconds later. -/
def addNanos (t : Instant) (n : Int) : Instant := ofNanos (t.toNanos + n)

/-- Whole seconds from `earlier` to `t`, cut off toward zero. -/
def secondsSince (t earlier : Instant) : Int := (t.toNanos - earlier.toNanos).tdiv (10 ^ 9)

/-- The day of an instant. -/
def date (t : Instant) : Date := Date.ofDays (t.seconds / 86400)

/-- Seconds into the day. -/
def secondOfDay (t : Instant) : Nat := (t.seconds % 86400).toNat

end Instant

end CordonWatch
