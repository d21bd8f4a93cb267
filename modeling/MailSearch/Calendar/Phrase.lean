import MailSearch.Calendar.Timestamp
import MailSearch.Text.Blank

/-!
# Date phrases

What may stand after `before:` and `after:`. Reading a phrase and finding the instant it names are
two steps. `Phrase.ofString?` reads a text, and knows nothing of the present. `Phrase.resolve` finds
the instant, given the present one. A phrase that is relative leans to the past, since mail lies in
the past: `monday` is the most recent Monday and `march` the first of the most recent March.

Phrases are read in any case (of the letters `A` to `Z`), a comma is a blank, and blanks only
separate words.
-/

namespace MailSearch

/-- A unit of time in `3 days ago`. -/
inductive TimeUnit where
  | minute
  | hour
  | day
  | week
  | month
  | year
deriving DecidableEq, Repr

/-- A phrase that names an instant. -/
inductive Phrase where
  /-- A full timestamp. -/
  | instant (moment : Instant)
  /-- The start of a date given in full. -/
  | date (date : Date)
  | now
  | today
  | yesterday
  /-- The start of the most recent such day, today included. -/
  | weekday (weekday : Weekday)
  /-- The start of the most recent such day before today. -/
  | lastWeekday (weekday : Weekday)
  /-- This many units before the present. -/
  | ago (count : Nat) (unit : TimeUnit)
  /-- The start of this week's Monday. -/
  | thisWeek
  | thisMonth
  | thisYear
  /-- A day of a month, in this year or, if it is still to come, in the last one. -/
  | monthDay (month day : Int)
deriving DecidableEq, Repr

namespace Phrase

open Text

/-- The days of the week by name. -/
def weekdays : List (String × Weekday) :=
  [("monday", .monday), ("tuesday", .tuesday), ("wednesday", .wednesday), ("thursday", .thursday),
    ("friday", .friday), ("saturday", .saturday), ("sunday", .sunday)]

/-- The months by name. -/
def months : List (String × Int) :=
  [("january", 1), ("february", 2), ("march", 3), ("april", 4), ("may", 5), ("june", 6),
    ("july", 7), ("august", 8), ("september", 9), ("october", 10), ("november", 11),
    ("december", 12)]

/-- Looks up a name that is given in full or by its first three letters. -/
def named? {α : Type} (table : List (String × α)) (word : String) : Option α :=
  (table.find? fun entry =>
    word == entry.1 || word.toList == entry.1.toList.take 3).map Prod.snd

/-- The unit that a word names in the singular. -/
def unit? (word : String) : Option TimeUnit :=
  match word with
  | "minute" | "min" => some .minute
  | "hour" | "hr" => some .hour
  | "day" => some .day
  | "week" | "wk" => some .week
  | "month" => some .month
  | "year" | "yr" => some .year
  | _ => none

/-- A word without one `s` at its end. -/
def singular (word : String) : String :=
  let cs := word.toList
  if cs.getLast? == some 's' then String.ofList cs.dropLast else word

/-- A month or a day of a numeric date: one or two digits. -/
def shortField? (cs : List Char) : Option (Int × List Char) :=
  let ds := (cs.takeWhile Char.isDigit).take 2
  (natural? ds).map fun n => (n, cs.drop ds.length)

/-- A year of a numeric date: one to four digits, or a sign and any number of them. -/
def yearField? (cs : List Char) : Option (Int × List Char) :=
  match cs with
  | '+' :: rest =>
    (natural? (rest.takeWhile Char.isDigit)).map fun n => (n, rest.dropWhile Char.isDigit)
  | '-' :: rest =>
    (natural? (rest.takeWhile Char.isDigit)).map fun n => (-n, rest.dropWhile Char.isDigit)
  | _ =>
    let ds := (cs.takeWhile Char.isDigit).take 4
    (natural? ds).map fun n => (n, cs.drop ds.length)

/-- A date as year, month and day with a mark between them. -/
def yearFirst? (mark : Char) (cs : List Char) : Option Date := do
  let (year, cs) ← yearField? cs
  let cs ← skip? mark cs
  let (month, cs) ← shortField? cs
  let cs ← skip? mark cs
  let (day, cs) ← shortField? cs
  if cs.isEmpty then Date.ofYmd? year month day else none

/-- A date as month, day and year with a mark between them. -/
def monthFirst? (mark : Char) (cs : List Char) : Option Date := do
  let (month, cs) ← shortField? cs
  let cs ← skip? mark cs
  let (day, cs) ← shortField? cs
  let cs ← skip? mark cs
  let (year, cs) ← yearField? cs
  if cs.isEmpty then Date.ofYmd? year month day else none

/-- A year of four digits. -/
def fullYear? (cs : List Char) : Option Date := do
  let (year, cs) ← digits? 4 cs
  if cs.isEmpty then Date.ofYmd? year 1 1 else none

/-- A numeric date in one word. The first form that gives a date that exists is taken, so `1/5/24`
is in the year 1 and `1/31/24` in the year 24. -/
def absolute? (word : String) : Option Date :=
  let cs := word.toList
  yearFirst? '-' cs <|> yearFirst? '/' cs <|> monthFirst? '/' cs <|>
    yearFirst? '-' (cs ++ ['-', '0', '1']) <|> fullYear? cs

/-- A month by name, with the day, the year or both. A single number above 31 is a year. -/
def monthly? (month : String) (rest : List String) : Option Phrase := do
  let month ← named? months month
  match ← rest.mapM integer? with
  | [] => some (.monthDay month 1)
  | [n] => if 31 < n then (Date.ofYmd? n month 1).map .date else some (.monthDay month n)
  | [day, year] => (Date.ofYmd? year month day).map .date
  | _ => none

/-- A phrase of one word that is not a numeric date. -/
def single? (word : String) : Option Phrase :=
  match word with
  | "now" => some .now
  | "today" => some .today
  | "yesterday" => some .yesterday
  | _ => (named? weekdays word).map .weekday <|> monthly? word []

/-- What may stand after `last`. -/
def last? (word : String) : Option Phrase :=
  match singular word with
  | "day" | "night" => some .yesterday
  | "week" => some (.ago 1 .week)
  | "month" => some (.ago 1 .month)
  | "year" => some (.ago 1 .year)
  | name => (named? weekdays name).map .lastWeekday

/-- What may stand after `this`. -/
def this? (word : String) : Option Phrase :=
  match word with
  | "week" => some .thisWeek
  | "month" => some .thisMonth
  | "year" => some .thisYear
  | _ => none

/-- A count and a unit before `ago`. -/
def ago? (count unit : String) : Option Phrase := do
  let n ← if count == "a" || count == "an" || count == "one" then some 1 else count? count
  let u ← unit? (singular unit)
  return .ago n u

/-- The phrase that words in lower case make up. -/
def ofWords? : List String → Option Phrase
  | [] => none
  | [word] => (absolute? word).map .date <|> single? word
  | ["last", word] => last? word
  | ["this", word] => this? word
  | [count, unit, "ago"] => ago? count unit
  | month :: rest => monthly? month rest

/-- Reads a phrase. A timestamp is tried first. -/
def ofString? (s : String) : Option Phrase :=
  let cs := trim s.toList
  (Timestamp.read? cs).map .instant <|>
    ofWords? (words ((lower cs).map fun c => if c == ',' then ' ' else c))

/-- The start of the most recent day of the week, today included unless `strict`. -/
def weekdayBefore? (now : Instant) (w : Weekday) (strict : Bool) : Option Instant :=
  let back := (weekdayIndex now.day - w.index) % 7
  Instant.midnight? (now.day - if strict && back == 0 then 7 else back)

/-- The instant `count` units before the present. Months are counted in 32 bits. -/
def before? (now : Instant) (count : Nat) : TimeUnit → Option Instant
  | .minute => now.minusSeconds? (60 * count)
  | .hour => now.minusSeconds? (3600 * count)
  | .day => now.minusSeconds? (86400 * count)
  | .week => now.minusSeconds? (604800 * count)
  | .month => now.minusMonths? count
  | .year => if 12 * count < 4294967296 then now.minusMonths? (12 * count) else none

/-- The most recent day of a month. The day has to exist in the present year. -/
def monthDayBefore? (now : Instant) (month day : Int) : Option Instant := do
  let year := now.date.year
  let candidate ← Date.ofYmd? year month day
  let found ← Date.ofYmd? (if now.day < candidate.dayNumber then year - 1 else year) month day
  Instant.midnight? found.dayNumber

/-- The instant that a phrase names at the instant `now`. -/
def resolve (p : Phrase) (now : Instant) : Option Instant :=
  match p with
  | instant moment => some moment
  | date d => Instant.midnight? d.dayNumber
  | .now => some now
  | today => Instant.midnight? now.day
  | yesterday => Instant.midnight? (now.day - 1)
  | weekday w => weekdayBefore? now w false
  | lastWeekday w => weekdayBefore? now w true
  | ago count unit => before? now count unit
  | thisWeek => Instant.midnight? (now.day - weekdayIndex now.day)
  | thisMonth => Instant.midnight? (Date.dayNumber { now.date with day := 1 })
  | thisYear => Instant.midnight? (Date.dayNumber ⟨now.date.year, 1, 1⟩)
  | monthDay month day => monthDayBefore? now month day

end Phrase

/-- A way to find the instant that a date phrase names at a given instant. -/
abbrev DateResolver := String → Instant → Option Instant

/-- The resolver that understands `MailSearch.Phrase`. -/
def DateResolver.standard : DateResolver := fun phrase now =>
  (Phrase.ofString? phrase).bind (·.resolve now)

end MailSearch
