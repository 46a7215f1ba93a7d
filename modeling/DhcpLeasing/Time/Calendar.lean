/-!
# The calendar

Dates of the proleptic Gregorian calendar, counted as days since 1970-01-01.
-/

namespace DhcpLeasing

/-- A date: month and day are counted from one. -/
structure Date where
  year : Int
  month : Nat
  day : Nat
  deriving DecidableEq, Repr

namespace Date

/-- Every fourth year has a leap day, but of the centuries only every fourth. -/
def isLeapYear (year : Int) : Bool :=
  year % 4 = 0 ∧ (year % 100 ≠ 0 ∨ year % 400 = 0)

/-- The lengths of the twelve months of a year. -/
def monthLengths (year : Int) : List Nat :=
  [31, if isLeapYear year then 29 else 28, 31, 30, 31, 30, 31, 31, 30, 31, 30, 31]

/-- The days from 1970-01-01 to the first day of a year. -/
def daysBeforeYear (year : Int) : Int :=
  let past := year - 1
  365 * past + past / 4 - past / 100 + past / 400 - 719162

/-- Whether there is such a day. -/
def isValid (date : Date) : Bool :=
  1 ≤ date.month && date.month ≤ 12 && 1 ≤ date.day &&
    date.day ≤ (monthLengths date.year).getD (date.month - 1) 0

/-- The days from 1970-01-01 to a date. -/
def toDays (date : Date) : Int :=
  let past : Nat := ((monthLengths date.year).take (date.month - 1)).foldl (· + ·) 0
  daysBeforeYear date.year + past + (date.day - 1)

/-- The year of a day. 146097 days make 400 years, which gives the year or one beside it. -/
def yearOfDay (days : Int) : Int :=
  -- counted in years of average length, which is off by one at most
  let guess := 400 * (days + 719162) / 146097 + 1
  if days < daysBeforeYear guess then guess - 1
  else if daysBeforeYear (guess + 1) ≤ days then guess + 1
  else guess

/-- How many of the given month lengths lie before a day, and the day within its month, both
counted from zero. -/
def splitDay : List Nat → Nat → Nat × Nat
  | [], day => (0, day)
  | length :: rest, day =>
    if day < length then (0, day)
    else
      let (month, day) := splitDay rest (day - length)
      (month + 1, day)

/-- The date of a day. -/
def ofDays (days : Int) : Date :=
  let year := yearOfDay days
  let (month, day) := splitDay (monthLengths year) (days - daysBeforeYear year).toNat
  ⟨year, month + 1, day + 1⟩

/-- The first year of the calendar. -/
def firstYear : Int := -262143

/-- The last year of the calendar. -/
def lastYear : Int := 262142

end Date

end DhcpLeasing
