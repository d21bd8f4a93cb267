import Mathlib.Data.Int.Init
import Mathlib.Data.Prod.Lex
import MailSearch.Calendar.Date

/-!
# Day numbers

The dates that exist and the whole numbers are the same thing in two forms. Months are counted from
January of the year 0 (`Date.monthIndex`), and the day number of a date is that of the first day of
its month (`Date.firstDay`), plus the days of the month before it (`Date.dayNumber_eq`). A month
begins where the one before it ends (`Date.firstDay_succ`), which is all there is to say about
lengths of months and leap years. So dates are ordered as their numbers are
(`Date.dayNumber_lt_iff`, `Date.dayNumber_le_iff`).

In the other direction, `Date.marchYear_spec` says that the year of a day is found rightly, and
`Date.ofDayNumber_spec` that every number is the number of the date found for it. A date is found
from its own number (`Date.ofDayNumber_dayNumber`).
-/

namespace MailSearch.Date

/-! ## Dates that exist -/

/-- The month is one of the twelve, and it has such a day. -/
structure Exists (d : Date) : Prop where
  one_le_month : 1 ≤ d.month
  month_le : d.month ≤ 12
  one_le_day : 1 ≤ d.day
  day_le : d.day ≤ monthLength d.year d.month

/-- A date that is accepted exists; the other way round the year has to be in range. -/
theorem Valid.exists {d : Date} (h : d.Valid) : d.Exists :=
  ⟨h.2.2.1, h.2.2.2.1, h.2.2.2.2.1, h.2.2.2.2.2⟩

/-- A date is made of its three parts, where they are a valid date. -/
theorem ofYmd?_eq_some {year month day : Int} {d : Date} :
    ofYmd? year month day = some d ↔ d = ⟨year, month, day⟩ ∧ d.Valid := by
  rw [ofYmd?]
  constructor
  · intro h
    split at h
    next hvalid => exact ⟨(Option.some.inj h).symm, Option.some.inj h ▸ hvalid⟩
    next => cases h
  · rintro ⟨rfl, hvalid⟩
    exact if_pos hvalid

/-! ## Months in a row -/

/-- The number of months from January of the year 0 to the month of a date. -/
def monthIndex (d : Date) : Int :=
  12 * d.year + (d.month - 1)

/-- The number of the first day of a month. -/
def firstDay (index : Int) : Int :=
  yearStart ((index - 2) / 12) + monthStart ((index - 2) % 12) - epoch

/-- A date is a month and a day of it. -/
theorem dayNumber_eq {d : Date} (h : d.Exists) :
    d.dayNumber = firstDay d.monthIndex + (d.day - 1) := by
  have hfirst := h.one_le_month
  have hlast := h.month_le
  rw [dayNumber, firstDay, monthIndex]
  split
  next hearly =>
    have hyear : (12 * d.year + (d.month - 1) - 2) / 12 = d.year - 1 := by omega
    have hmonth : (12 * d.year + (d.month - 1) - 2) % 12 = d.month + 9 := by omega
    rw [hyear, hmonth]
    omega
  next hlate =>
    have hyear : (12 * d.year + (d.month - 1) - 2) / 12 = d.year := by omega
    have hmonth : (12 * d.year + (d.month - 1) - 2) % 12 = d.month - 3 := by omega
    rw [hyear, hmonth]
    omega

/-- The rule of the leap years, as it is told. -/
theorem isLeapYear_iff {year : Int} :
    isLeapYear year ↔ year % 4 = 0 ∧ (year % 100 ≠ 0 ∨ year % 400 = 0) := by
  simp [isLeapYear]

theorem monthLength_february (year : Int) :
    monthLength year 2 = if isLeapYear year then 29 else 28 := rfl

/-- A year that begins in March ends with the February of the next calendar year. -/
theorem yearStart_succ (year : Int) :
    yearStart (year + 1) = yearStart year + monthStart 11 + monthLength (year + 1) 2 := by
  have hstart : monthStart 11 = 337 := rfl
  rw [yearStart, yearStart, hstart, monthLength_february]
  by_cases hleap : isLeapYear (year + 1)
  · rw [if_pos hleap]
    rw [isLeapYear_iff] at hleap
    omega
  · rw [if_neg hleap]
    rw [isLeapYear_iff] at hleap
    omega

/-- The other months are as long as the quotient says; March is month 0. -/
theorem monthStart_succ (year month : Int) (hfirst : 0 ≤ month) (hlast : month ≤ 10) :
    monthStart (month + 1) = monthStart month + monthLength year ((month + 2) % 12 + 1) := by
  obtain rfl | rfl | rfl | rfl | rfl | rfl | rfl | rfl | rfl | rfl | rfl : month = 0 ∨ month = 1 ∨
      month = 2 ∨ month = 3 ∨ month = 4 ∨ month = 5 ∨ month = 6 ∨ month = 7 ∨ month = 8 ∨
      month = 9 ∨ month = 10 := by omega
  all_goals rfl

/-- **A month begins where the one before it ends.** -/
theorem firstDay_succ (index : Int) :
    firstDay (index + 1) = firstDay index + monthLength (index / 12) (index % 12 + 1) := by
  rw [firstDay, firstDay]
  -- After February the year that begins in March changes, and only then.
  by_cases hfebruary : index % 12 = 1
  · have hyear : (index + 1 - 2) / 12 = (index - 2) / 12 + 1 := by omega
    have hmonth : (index + 1 - 2) % 12 = 0 := by omega
    have hlast : (index - 2) % 12 = 11 := by omega
    have hcalendar : index / 12 = (index - 2) / 12 + 1 := by omega
    have hstart : monthStart 0 = 0 := rfl
    have htwo : (1 : Int) + 1 = 2 := rfl
    rw [hyear, hmonth, hlast, hcalendar, hfebruary, yearStart_succ, hstart, htwo]
    omega
  · have hyear : (index + 1 - 2) / 12 = (index - 2) / 12 := by omega
    have hmonth : (index + 1 - 2) % 12 = (index - 2) % 12 + 1 := by omega
    have hcalendar : ((index - 2) % 12 + 2) % 12 = index % 12 := by omega
    have hlength := monthStart_succ (index / 12) ((index - 2) % 12) (by omega) (by omega)
    rw [hyear, hmonth, hlength, hcalendar]
    omega

/-- A day of a month that exists, by the number of the month. -/
theorem Exists.day_le_length {d : Date} (h : d.Exists) :
    d.day ≤ monthLength (d.monthIndex / 12) (d.monthIndex % 12 + 1) := by
  have hfirst := h.one_le_month
  have hlast := h.month_le
  have hyear : d.monthIndex / 12 = d.year := by rw [monthIndex]; omega
  have hmonth : d.monthIndex % 12 + 1 = d.month := by rw [monthIndex]; omega
  rw [hyear, hmonth]
  exact h.day_le

/-- No month is empty. -/
theorem monthLength_pos (year month : Int) : 0 < monthLength year month := by
  unfold monthLength
  split <;> split <;> decide

/-- The first days of the months come in the order of the months. -/
theorem firstDay_mono {k l : Int} (h : k ≤ l) : firstDay k ≤ firstDay l := by
  induction l, h using Int.leInduction with
  | base => exact Int.le_refl _
  | succ l _ ih =>
    have hpos := monthLength_pos (l / 12) (l % 12 + 1)
    rw [firstDay_succ]
    omega

/-- Every day of a month comes before every day of a later month. -/
theorem dayNumber_lt_of_month {d e : Date} (hd : d.Exists) (he : e.Exists)
    (h : d.monthIndex < e.monthIndex) : d.dayNumber < e.dayNumber := by
  have hnext : firstDay (d.monthIndex + 1) ≤ firstDay e.monthIndex := firstDay_mono h
  have hday := hd.day_le_length
  have hone := he.one_le_day
  rw [firstDay_succ] at hnext
  rw [dayNumber_eq hd, dayNumber_eq he]
  omega

/-- **Dates are ordered as their numbers are**, by the month and then by the day. -/
theorem dayNumber_lt_iff {d e : Date} (hd : d.Exists) (he : e.Exists) :
    d.dayNumber < e.dayNumber ↔
      d.monthIndex < e.monthIndex ∨ d.monthIndex = e.monthIndex ∧ d.day < e.day := by
  rcases Int.lt_trichotomy d.monthIndex e.monthIndex with hlt | heq | hgt
  · exact iff_of_true (dayNumber_lt_of_month hd he hlt) (.inl hlt)
  · rw [dayNumber_eq hd, dayNumber_eq he, heq]
    omega
  · have hafter := dayNumber_lt_of_month he hd hgt
    omega

/-- A later month, or a later day of the same month, has a greater number. -/
theorem dayNumber_le {d e : Date} (hd : d.Exists) (he : e.Exists)
    (h : d.monthIndex < e.monthIndex ∨ d.monthIndex = e.monthIndex ∧ d.day ≤ e.day) :
    d.dayNumber ≤ e.dayNumber := by
  rw [← Int.not_lt, dayNumber_lt_iff he hd]
  omega

/-- What dates are ordered by. -/
def key (d : Date) : Int ×ₗ Int ×ₗ Int :=
  toLex (d.year, toLex (d.month, d.day))

/-- The key by which dates are ordered tells them apart. -/
theorem key_injective : Function.Injective key := by
  intro d e h
  obtain ⟨hyear, hrest⟩ := Prod.mk.inj (toLex.injective h)
  obtain ⟨hmonth, hday⟩ := Prod.mk.inj (toLex.injective hrest)
  cases d
  cases e
  cases hyear
  cases hmonth
  cases hday
  rfl

/-- Dates are ordered by the year, then by the month, then by the day. -/
instance : LinearOrder Date :=
  LinearOrder.lift' key key_injective

/-- Dates are ordered by year, then by month, then by day. -/
theorem le_iff {d e : Date} : d ≤ e ↔ d.year < e.year ∨ d.year = e.year ∧
    (d.month < e.month ∨ d.month = e.month ∧ d.day ≤ e.day) := by
  have hkey : d ≤ e ↔ key d ≤ key e := Iff.rfl
  rw [hkey, key, key, Prod.Lex.toLex_le_toLex]
  exact or_congr_right (and_congr_right fun _ => Prod.Lex.toLex_le_toLex)

/-- The order of dates that exist is that of their numbers. -/
theorem dayNumber_le_iff {d e : Date} (hd : d.Exists) (he : e.Exists) :
    d.dayNumber ≤ e.dayNumber ↔ d ≤ e := by
  have hd1 := hd.one_le_month
  have hd12 := hd.month_le
  have he1 := he.one_le_month
  have he12 := he.month_le
  rw [← Int.not_lt, dayNumber_lt_iff he hd, le_iff, monthIndex, monthIndex]
  omega

/-! ## The date of a number -/

/-- The days before a year, when the year is taken apart as `marchYear` does. -/
theorem yearStart_parts (a : Int) {c q r : Int} (hc : 0 ≤ c ∧ c ≤ 3) (hq : 0 ≤ q ∧ q ≤ 24)
    (hr : 0 ≤ r ∧ r ≤ 3) :
    yearStart (400 * a + 100 * c + 4 * q + r) = 146097 * a + 36524 * c + 1461 * q + 365 * r := by
  have hfour : (400 * a + 100 * c + 4 * q + r) / 4 = 100 * a + 25 * c + q := by omega
  have hcentury : (400 * a + 100 * c + 4 * q + r) / 100 = 4 * a + c := by omega
  have hcycle : (400 * a + 100 * c + 4 * q + r) / 400 = a := by omega
  rw [yearStart, hfour, hcentury, hcycle]
  omega

/-- How `marchYear` takes a day apart: into cycles of four hundred years, centuries, groups of four
years, years and days. A year has a day more than 365 only if it is the last of four, and not the
last of a century unless it is the last of a cycle. -/
theorem marchYear_parts (n : Int) : ∃ a c q r day,
    marchYear n = 400 * a + 100 * c + 4 * q + r ∧ (0 ≤ c ∧ c ≤ 3) ∧ (0 ≤ q ∧ q ≤ 24) ∧
      (0 ≤ r ∧ r ≤ 3) ∧ n = 146097 * a + 36524 * c + 1461 * q + 365 * r + day ∧ 0 ≤ day ∧
      (day < 365 ∨ day = 365 ∧ r = 3 ∧ (q < 24 ∨ c = 3)) := by
  obtain ⟨c, hc⟩ : ∃ c, c = min (n % 146097 / 36524) 3 := ⟨_, rfl⟩
  obtain ⟨rest, hrest⟩ : ∃ rest, rest = n % 146097 - 36524 * c := ⟨_, rfl⟩
  obtain ⟨r, hr⟩ : ∃ r, r = min (rest % 1461 / 365) 3 := ⟨_, rfl⟩
  have hcentury : (0 ≤ c ∧ c ≤ 3) ∧ 0 ≤ rest ∧ (rest < 36524 ∨ rest = 36524 ∧ c = 3) := by omega
  have hgroup : 0 ≤ rest / 1461 ∧ rest / 1461 ≤ 24 := by omega
  have hyear : (0 ≤ r ∧ r ≤ 3) ∧ 0 ≤ rest % 1461 - 365 * r ∧
      (rest % 1461 - 365 * r < 365 ∨ rest % 1461 - 365 * r = 365 ∧ r = 3) := by omega
  refine ⟨n / 146097, c, rest / 1461, r, rest % 1461 - 365 * r, ?_, hcentury.1, hgroup, hyear.1,
    by omega, hyear.2.1, ?_⟩
  · rw [marchYear, ← hc, ← hrest, ← hr]
  · rcases hyear.2.2 with hday | ⟨hday, hlast⟩
    · exact .inl hday
    · exact .inr ⟨hday, hlast, by omega⟩

/-- **The year of a day is found.** -/
theorem marchYear_spec (n : Int) :
    yearStart (marchYear n) ≤ n ∧ n < yearStart (marchYear n + 1) := by
  obtain ⟨a, c, q, r, day, hyear, hc, hq, hr, hn, hday, hlast⟩ := marchYear_parts n
  have hstart : monthStart 11 = 337 := rfl
  have hleap : day = 365 → isLeapYear (marchYear n + 1) := by
    intro h
    rw [isLeapYear_iff, hyear]
    omega
  rw [yearStart_succ, monthLength_february, hstart, hyear, yearStart_parts a hc hq hr, ← hyear]
  rcases hlast with hshort | ⟨hlong, -⟩
  · split <;> omega
  · rw [if_pos (hleap hlong)]
    omega

/-- The month of a day is found, in a year that begins in March. -/
theorem monthStart_spec (day : Int) :
    monthStart ((5 * day + 2) / 153) ≤ day ∧ day < monthStart ((5 * day + 2) / 153 + 1) := by
  rw [monthStart, monthStart]
  omega

/-- The month of a day is found: the day lies between the first days of two months in a row. -/
theorem ofDayNumber_eq (n : Int) : ∃ index, firstDay index ≤ n ∧ n < firstDay (index + 1) ∧
    ofDayNumber n = ⟨index / 12, index % 12 + 1, n - firstDay index + 1⟩ := by
  obtain ⟨hstart, hend⟩ := marchYear_spec (n + epoch)
  rw [ofDayNumber]
  generalize marchYear (n + epoch) = year at *
  obtain ⟨day, hday⟩ : ∃ day, day = n + epoch - yearStart year := ⟨_, rfl⟩
  obtain ⟨hfirst, hlast⟩ := monthStart_spec day
  have hnext := yearStart_succ year
  have hmonth : 0 ≤ (5 * day + 2) / 153 ∧ (5 * day + 2) / 153 ≤ 11 := by
    have hleap : monthLength (year + 1) 2 ≤ 29 := by
      rw [monthLength_february]
      split <;> decide
    have heleven : monthStart 11 = 337 := rfl
    omega
  simp only [← hday]
  generalize (5 * day + 2) / 153 = month at *
  have hyear : (12 * year + month + 2 - 2) / 12 = year := by omega
  have hindex : (12 * year + month + 2 - 2) % 12 = month := by omega
  have hfirstDay : firstDay (12 * year + month + 2) =
      yearStart year + monthStart month - epoch := by
    rw [firstDay, hyear, hindex]
  refine ⟨12 * year + month + 2, by omega, ?_, ?_⟩
  · by_cases hfebruary : month = 11
    · have hyear' : (12 * year + month + 2 + 1 - 2) / 12 = year + 1 := by omega
      have hindex' : (12 * year + month + 2 + 1 - 2) % 12 = 0 := by omega
      have hzero : monthStart 0 = 0 := rfl
      rw [firstDay, hyear', hindex', hzero]
      omega
    · have hyear' : (12 * year + month + 2 + 1 - 2) / 12 = year := by omega
      have hindex' : (12 * year + month + 2 + 1 - 2) % 12 = month + 1 := by omega
      rw [firstDay, hyear', hindex']
      omega
  · rw [hfirstDay]
    split <;> rw [Date.mk.injEq] <;> omega

/-- **Every number is the number of a date that exists.** -/
theorem ofDayNumber_spec (n : Int) : (ofDayNumber n).Exists ∧ (ofDayNumber n).dayNumber = n := by
  obtain ⟨index, hle, hlt, hdate⟩ := ofDayNumber_eq n
  rw [firstDay_succ] at hlt
  have hexists : (ofDayNumber n).Exists := by
    rw [hdate]
    refine ⟨?_, ?_, ?_, ?_⟩ <;> dsimp only <;> omega
  have hindex : (ofDayNumber n).monthIndex = index := by
    rw [hdate, monthIndex]
    dsimp only
    omega
  refine ⟨hexists, ?_⟩
  rw [dayNumber_eq hexists, hindex, hdate]
  dsimp only
  omega

/-- A date that exists is the date of its number. -/
theorem ofDayNumber_dayNumber {d : Date} (h : d.Exists) : ofDayNumber d.dayNumber = d := by
  obtain ⟨hexists, hnumber⟩ := ofDayNumber_spec d.dayNumber
  exact le_antisymm ((dayNumber_le_iff hexists h).1 hnumber.le)
    ((dayNumber_le_iff h hexists).1 hnumber.ge)

end MailSearch.Date
