/-!
# Calendar dates

The Gregorian calendar, extended in both directions, with a year 0. A date is a year, a month and a
day; its day number counts the days since 1970-01-01, which makes differences of dates and days of
the week plain arithmetic. `Date.dayNumber` and `Date.ofDayNumber` convert both ways. They look at a
year as if it began in March: then the leap day is the last of the year, and the months have lengths
that a quotient adds up (`Date.monthStart`).
-/

namespace MailSearch

/-- A year, a month from 1 and a day from 1. -/
structure Date where
  year : Int
  month : Int
  day : Int
deriving DecidableEq, Repr

namespace Date

/-- The first year that dates may have. -/
def minYear : Int := -262143

/-- The last year that dates may have. -/
def maxYear : Int := 262142

/-- Every fourth year is a leap year, but of the full centuries only every fourth. -/
def isLeapYear (year : Int) : Bool :=
  year % 4 == 0 && (year % 100 != 0 || year % 400 == 0)

/-- The number of days of a month. -/
def monthLength (year month : Int) : Int :=
  if month = 2 then if isLeapYear year then 29 else 28
  else if month = 4 ∨ month = 6 ∨ month = 9 ∨ month = 11 then 30
  else 31

/-- The date exists and its year is in range. -/
def Valid (d : Date) : Prop :=
  minYear ≤ d.year ∧ d.year ≤ maxYear ∧ 1 ≤ d.month ∧ d.month ≤ 12 ∧
    1 ≤ d.day ∧ d.day ≤ monthLength d.year d.month

instance (d : Date) : Decidable d.Valid :=
  inferInstanceAs (Decidable (_ ∧ _))

/-- The date of a year, a month and a day, if there is one. -/
def ofYmd? (year month day : Int) : Option Date :=
  let d : Date := ⟨year, month, day⟩
  if d.Valid then some d else none

/-- The number of days before a year that begins in March, counted from 1 March of the year 0. -/
def yearStart (year : Int) : Int :=
  365 * year + year / 4 - year / 100 + year / 400

/-- The number of days before a month in a year that begins in March; March is month 0. -/
def monthStart (month : Int) : Int :=
  (153 * month + 2) / 5

/-- The year, beginning in March, of the day that is `n` days after 1 March of the year 0. Four
hundred years have 146097 days, a century 36524 and four years 1461; the last century of the four
hundred years and the last year of four may be a day longer than the others. -/
def marchYear (n : Int) : Int :=
  let century := min (n % 146097 / 36524) 3
  let dayOfCentury := n % 146097 - 36524 * century
  400 * (n / 146097) + 100 * century + 4 * (dayOfCentury / 1461)
    + min (dayOfCentury % 1461 / 365) 3

/-- The number of days from 1 March of the year 0 to 1 January 1970. -/
def epoch : Int := 719468

/-- The number of days from 1970-01-01 to this date. -/
def dayNumber (d : Date) : Int :=
  if d.month ≤ 2 then yearStart (d.year - 1) + monthStart (d.month + 9) + (d.day - 1) - epoch
  else yearStart d.year + monthStart (d.month - 3) + (d.day - 1) - epoch

/-- The date that lies this number of days after 1970-01-01. -/
def ofDayNumber (n : Int) : Date :=
  let year := marchYear (n + epoch)
  let dayOfYear := n + epoch - yearStart year
  let month := (5 * dayOfYear + 2) / 153
  let day := dayOfYear - monthStart month + 1
  if month < 10 then ⟨year, month + 3, day⟩ else ⟨year + 1, month - 9, day⟩

end Date

/-- A day of the week. -/
inductive Weekday where
  | monday
  | tuesday
  | wednesday
  | thursday
  | friday
  | saturday
  | sunday
deriving DecidableEq, Repr

/-- How many days a day of the week comes after Monday. -/
def Weekday.index : Weekday → Int
  | monday => 0
  | tuesday => 1
  | wednesday => 2
  | thursday => 3
  | friday => 4
  | saturday => 5
  | sunday => 6

/-- How many days after Monday a day comes; day 0 was a Thursday. -/
def weekdayIndex (dayNumber : Int) : Int :=
  (dayNumber + 3) % 7

end MailSearch
