import MailSearch.Calendar.Date

/-!
# Instants

An instant is a number of seconds since 1970-01-01T00:00:00Z and a fraction in nanoseconds. It lies
in a fixed range, the years of `MailSearch.Date`. In the last second of a minute the fraction may
run on to two seconds: that is a leap second. Both facts are part of the type, and
`Instant.ofParts?` is the one way to make an instant, so an operation that would leave the range has
no result.
-/

namespace MailSearch

/-- A point in time. -/
structure Instant where
  /-- Whole seconds since the start of 1970. -/
  seconds : Int
  /-- The fraction of a second; at least a whole second within a leap second. -/
  nanos : Nat
  /-- Not before `-262143-01-01T00:00:00Z`. -/
  first_le : -8334601228800 ≤ seconds
  /-- Not after `262142-12-31T23:59:59Z`. -/
  le_last : seconds ≤ 8210266876799
  /-- Only the last second of a minute can be a leap second. -/
  nanos_lt : nanos < 1000000000 ∨ nanos < 2000000000 ∧ seconds % 60 = 59
deriving DecidableEq, Repr

namespace Instant

/-- The instant of these seconds and nanoseconds, if there is one. -/
def ofParts? (seconds : Int) (nanos : Nat) : Option Instant :=
  if h : (-8334601228800 ≤ seconds ∧ seconds ≤ 8210266876799) ∧
      (nanos < 1000000000 ∨ nanos < 2000000000 ∧ seconds % 60 = 59) then
    some ⟨seconds, nanos, h.1.1, h.1.2, h.2⟩
  else none

/-- The number of the day, in UTC. -/
def day (i : Instant) : Int :=
  i.seconds / 86400

/-- The date, in UTC. -/
def date (i : Instant) : Date :=
  Date.ofDayNumber i.day

/-- The start of a day. -/
def midnight? (day : Int) : Option Instant :=
  ofParts? (86400 * day) 0

/-- The instant this many seconds earlier. A leap second counts as the second after it, unless no
time passes at all. -/
def minusSeconds? (i : Instant) (seconds : Nat) : Option Instant :=
  if seconds = 0 then some i
  else if i.nanos < 1000000000 then ofParts? (i.seconds - seconds) i.nanos
  else ofParts? (i.seconds + 1 - seconds) (i.nanos - 1000000000)

/-- The same time of day this many months earlier, on the last day of the month if the month is too
short. -/
def minusMonths? (i : Instant) (months : Nat) : Option Instant := do
  let d := i.date
  let index := 12 * d.year + (d.month - 1) - months
  let year := index / 12
  let month := index % 12 + 1
  let target ← Date.ofYmd? year month (min d.day (Date.monthLength year month))
  ofParts? (86400 * target.dayNumber + i.seconds % 86400) i.nanos

end Instant

end MailSearch
