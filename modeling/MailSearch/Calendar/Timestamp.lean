import MailSearch.Calendar.Instant
import MailSearch.Text.Decimal

/-!
# Timestamps

The internet form of a date and time, `2024-03-15T12:30:00.25+01:00`. Every number has its full
width. A `T` in either case or one space divides date and time; a `Z` in either case or an offset of
hours and minutes ends the timestamp, with the minus sign of typography allowed as a sign. A second
60 is a leap second, in any minute. Digits of the fraction beyond nanoseconds are dropped.
-/

namespace MailSearch

namespace Text

/-- Exactly `n` digits at the front, as a number. -/
def digits? (n : Nat) (cs : List Char) : Option (Nat × List Char) :=
  let ds := cs.take n
  if ds.length == n then (natural? ds).map fun v => (v, cs.drop n) else none

/-- The text after the character `c`. -/
def skip? (c : Char) : List Char → Option (List Char)
  | [] => none
  | d :: cs => if d == c then some cs else none

end Text

namespace Timestamp

open Text

/-- A fraction of a second in nanoseconds, and the text after it. No fraction is `0`. -/
def fraction? (cs : List Char) : Option (Nat × List Char) :=
  match cs with
  | '.' :: rest =>
    let ds := rest.takeWhile Char.isDigit
    if ds.isEmpty then none
    else
      let kept := ds.take 9
      some (decimalValue kept * Nat.pow 10 (9 - kept.length), rest.dropWhile Char.isDigit)
  | _ => some (0, cs)

/-- An offset from UTC in minutes, with nothing after it. -/
def offset? (cs : List Char) : Option Int :=
  let distance? (cs : List Char) : Option Int := do
    let (hours, cs) ← digits? 2 cs
    let cs ← skip? ':' cs
    let (minutes, cs) ← digits? 2 cs
    if hours ≤ 23 && minutes ≤ 59 && cs.isEmpty then some (60 * hours + minutes) else none
  match cs with
  | ['Z'] | ['z'] => some 0
  | '+' :: cs => distance? cs
  | '-' :: cs | '−' :: cs => (distance? cs).map (-·)
  | _ => none

/-- The text after the mark between date and time. -/
def divider? : List Char → Option (List Char)
  | 'T' :: cs | 't' :: cs | ' ' :: cs => some cs
  | _ => none

/-- The instant that a timestamp names. -/
def read? (cs : List Char) : Option Instant := do
  let (year, cs) ← digits? 4 cs
  let cs ← skip? '-' cs
  let (month, cs) ← digits? 2 cs
  let cs ← skip? '-' cs
  let (day, cs) ← digits? 2 cs
  let cs ← divider? cs
  let (hour, cs) ← digits? 2 cs
  let cs ← skip? ':' cs
  let (minute, cs) ← digits? 2 cs
  let cs ← skip? ':' cs
  let (second, cs) ← digits? 2 cs
  let (nanos, cs) ← fraction? cs
  let offset ← offset? cs
  let date ← Date.ofYmd? year month day
  if hour ≤ 23 && minute ≤ 59 && second ≤ 60 then
    let leap := second == 60
    let seconds : Int :=
      86400 * date.dayNumber + 3600 * hour + 60 * minute + (if leap then 59 else second)
    Instant.ofParts? (seconds - 60 * offset) (if leap then nanos + 1000000000 else nanos)
  else none

end Timestamp

end MailSearch
