/-!
Instants of the proleptic Gregorian calendar, to the nanosecond.
-/
namespace ChartLint

/-- A day of the calendar. -/
structure Date where
  year : Int
  month : Nat
  day : Nat
  deriving DecidableEq

namespace Date

def isLeapYear (year : Int) : Bool := year % 4 == 0 && (year % 100 != 0 || year % 400 == 0)

def daysInMonth (year : Int) : Nat → Nat
  | 2 => if isLeapYear year then 29 else 28
  | 4 | 6 | 9 | 11 => 30
  | _ => 31

def isValid (date : Date) : Bool :=
  1 ≤ date.month && date.month ≤ 12 && 1 ≤ date.day && date.day ≤ daysInMonth date.year date.month

/-- Number of days from the first day of the year one to the first day of a year. -/
def daysBeforeYear (year : Int) : Int :=
  let full := year - 1
  365 * full + full / 4 - full / 100 + full / 400

/-- Number of days of a year before a month. -/
def daysBeforeMonth (year : Int) : Nat → Nat
  | 0 | 1 => 0
  | month + 2 => daysBeforeMonth year (month + 1) + daysInMonth year (month + 1)

/-- Number of days since the first day of the year one. -/
def dayNumber (date : Date) : Int :=
  daysBeforeYear date.year + daysBeforeMonth date.year date.month + date.day - 1

/-- The year of a day. Years last 365.2425 days on average, so the guess is off by at most one. -/
def yearOf (number : Int) : Int :=
  let guess := number * 400 / 146097 + 1
  if number < daysBeforeYear guess then guess - 1
  else if daysBeforeYear (guess + 1) ≤ number then guess + 1
  else guess

/-- The last month, up to a given one, that starts at or before a day of a year. -/
def monthOf (year : Int) (dayOfYear : Int) : Nat → Nat
  | 0 | 1 => 1
  | month + 2 =>
    if (daysBeforeMonth year (month + 2) : Int) ≤ dayOfYear then month + 2
    else monthOf year dayOfYear (month + 1)

/-- The day with a number. -/
def ofDayNumber (number : Int) : Date :=
  let year := yearOf number
  let dayOfYear := number - daysBeforeYear year
  let month := monthOf year dayOfYear 12
  ⟨year, month, (dayOfYear - daysBeforeMonth year month).toNat + 1⟩

end Date

/-- A moment, as the number of nanoseconds since the start of the year one. -/
structure Instant where
  nanoseconds : Int
  deriving DecidableEq

namespace Instant

def perSecond : Nat := 1000000000

def perDay : Nat := 86400 * perSecond

/-- A moment of a day, in hours, minutes, seconds and nanoseconds. -/
def ofClock (date : Date) (hour minute second nanosecond : Nat) : Instant :=
  ⟨date.dayNumber * perDay + ((hour * 60 + minute) * 60 + second : Nat) * perSecond + nanosecond⟩

/-- The moment a number of seconds before. -/
def back (instant : Instant) (seconds : Int) : Instant :=
  ⟨instant.nanoseconds - seconds * perSecond⟩

def date (instant : Instant) : Date := .ofDayNumber (instant.nanoseconds / perDay)

/-- Nanoseconds since the start of the day. -/
def sinceMidnight (instant : Instant) : Nat := (instant.nanoseconds % perDay).toNat

instance : LT Instant := ⟨fun a b => a.nanoseconds < b.nanoseconds⟩

instance (a b : Instant) : Decidable (a < b) :=
  inferInstanceAs (Decidable (a.nanoseconds < b.nanoseconds))

end Instant

end ChartLint
