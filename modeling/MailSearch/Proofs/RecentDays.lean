import Mathlib.Order.Bounds.Defs
import MailSearch.Proofs.PassingTime
import MailSearch.Proofs.PhraseTexts

/-!
# A month without a year

`resolve_month_day`: a day of a month that is named without a year means the latest date, up to
today, that has this month and day (`Date.occurrences`). The search looks at the present year and at
the one before it, and that is enough for every day but one. The leap day is found only within a
leap year and from that day on; at all other times the phrase is not understood, although there is
such a date in the past (`leap_day_is_not_found`).

The range of dates and the range of instants are the same (`Date.valid_iff`): the date of every
instant is in range (`Instant.date_valid`), and so is the start of every date
(`Instant.exists_midnight`).
-/

namespace MailSearch

/-! ## The range -/

namespace Date

/-- No month has more than 31 days. -/
theorem monthLength_le (year month : Int) : monthLength year month ≤ 31 := by
  unfold monthLength
  split <;> split <;> decide

/-- A date that exists is in range if its number is. -/
theorem valid_iff {d : Date} (h : d.Exists) :
    d.Valid ↔ -96465292 ≤ d.dayNumber ∧ d.dayNumber ≤ 95026236 := by
  have hfirst : Exists ⟨minYear, 1, 1⟩ := ⟨by decide, by decide, by decide, by decide⟩
  have hlast : Exists ⟨maxYear, 12, 31⟩ := ⟨by decide, by decide, by decide, by decide⟩
  have hday : d.day ≤ 31 := h.day_le.trans (monthLength_le _ _)
  have hone := h.one_le_month
  have htwelve := h.month_le
  have hday' := h.one_le_day
  show d.Valid ↔ dayNumber ⟨minYear, 1, 1⟩ ≤ d.dayNumber ∧
    d.dayNumber ≤ dayNumber ⟨maxYear, 12, 31⟩
  rw [dayNumber_le_iff hfirst h, dayNumber_le_iff h hlast, le_iff, le_iff]
  constructor
  · rintro ⟨hmin, hmax, -⟩
    dsimp only
    omega
  · intro hrange
    dsimp only at hrange
    exact ⟨by omega, by omega, hone, htwelve, hday', h.day_le⟩

end Date

namespace Instant

variable {t : Instant} {d : Date}

/-- The start of a day. -/
def IsMidnight (t : Instant) : Prop :=
  t.seconds % 86400 = 0 ∧ t.nanos = 0

/-- The date of every instant is in range. -/
theorem date_valid (t : Instant) : t.date.Valid := by
  have hfirst := t.first_le
  have hlast := t.le_last
  rw [Date.valid_iff t.date_exists, dayNumber_date, day]
  omega

/-- The midnight of a date is the instant at which that date begins. -/
theorem midnight?_eq_some (h : d.Exists) :
    midnight? d.dayNumber = some t ↔ t.date = d ∧ t.IsMidnight := by
  rw [midnight?, ofParts?_eq_some]
  constructor
  · rintro ⟨hseconds, hnanos⟩
    have hday : t.day = d.dayNumber := by
      rw [day, hseconds]
      omega
    refine ⟨?_, ?_, hnanos⟩
    · rw [date, hday, Date.ofDayNumber_dayNumber h]
    · omega
  · rintro ⟨rfl, hseconds, hnanos⟩
    rw [dayNumber_date, day]
    exact ⟨by omega, hnanos⟩

/-- Every date in range has a start. -/
theorem exists_midnight (h : d.Valid) : ∃ t, midnight? d.dayNumber = some t := by
  have hrange := (Date.valid_iff h.exists).1 h
  exact ⟨⟨86400 * d.dayNumber, 0, by omega, by omega, .inl (by decide)⟩,
    ofParts?_eq_some.2 ⟨rfl, rfl⟩⟩

end Instant

/-! ## The latest occurrence -/

namespace Date

variable {year year' month day : Int}

/-- The dates in range up to the last one that have this month and day. -/
def occurrences (month day : Int) (last : Date) : Set Date :=
  { d | d.Valid ∧ d.month = month ∧ d.day = day ∧ d ≤ last }

/-- A date that exists is accepted if its year is in range. -/
theorem Exists.valid {d : Date} (h : d.Exists) (hfirst : minYear ≤ d.year)
    (hlast : d.year ≤ maxYear) : d.Valid :=
  ⟨hfirst, hlast, h.one_le_month, h.month_le, h.one_le_day, h.day_le⟩

/-- A day of a month that is not the leap day is in every year if it is in one. -/
theorem Exists.of_year (h : Exists ⟨year, month, day⟩) (hday : ¬ (month = 2 ∧ day = 29)) :
    Exists ⟨year', month, day⟩ := by
  have hlength : day ≤ monthLength year month := h.day_le
  refine ⟨h.one_le_month, h.month_le, h.one_le_day, ?_⟩
  show day ≤ monthLength year' month
  unfold monthLength at *
  split at hlength
  next hfebruary =>
    rw [if_pos hfebruary]
    split at hlength <;> split <;> omega
  next hother => rwa [if_neg hother]

/-- The 29th of February is accepted in leap years only. -/
theorem valid_leapDay :
    Valid ⟨year, 2, 29⟩ ↔ minYear ≤ year ∧ year ≤ maxYear ∧ isLeapYear year := by
  have hlength : (29 : Int) ≤ monthLength year 2 ↔ isLeapYear year := by
    rw [monthLength_february]
    split <;> simp_all
  simp [Valid, hlength]

/-- No two years in a row are leap years. -/
theorem not_isLeapYear_pred (h : isLeapYear year) : ¬ isLeapYear (year - 1) := by
  rw [isLeapYear_iff] at *
  omega

/-- Two dates with the same month and day are ordered as their years are. -/
theorem le_iff_year : (⟨year, month, day⟩ : Date) ≤ ⟨year', month, day⟩ ↔ year ≤ year' := by
  rw [le_iff]
  dsimp only
  omega

end Date

namespace Phrase

variable {now t : Instant} {month day : Int}

/-- What is found is an occurrence, in the present year or the one before. -/
theorem mem_occurrences (h : monthDayBefore? now month day = some t) :
    t.date ∈ Date.occurrences month day now.date := by
  obtain ⟨-, year, hvalid, hyear, hmidnight⟩ := monthDayBefore?_eq_some.1 h
  obtain ⟨hdate, -⟩ := (Instant.midnight?_eq_some hvalid.exists).1 hmidnight
  rw [hdate]
  refine ⟨hvalid, rfl, rfl, ?_⟩
  rcases hyear with ⟨rfl, hearly⟩ | ⟨rfl, -⟩
  · exact hearly
  · rw [Date.le_iff]
    dsimp only
    omega

/-- **The latest occurrence is found**, unless it is a leap day. -/
theorem monthDayBefore?_isGreatest {d : Date}
    (hd : IsGreatest (Date.occurrences month day now.date) d) (hday : ¬ (month = 2 ∧ day = 29)) :
    ∃ t, monthDayBefore? now month day = some t ∧ t.date = d ∧ t.IsMidnight := by
  obtain ⟨year, month, day⟩ := d
  obtain ⟨⟨hvalid, rfl, rfl, hle⟩, hlatest⟩ := hd
  obtain ⟨hmin, hmax, -⟩ := now.date_valid
  obtain ⟨t, ht⟩ := Instant.exists_midnight hvalid
  have hvalid' {other : Int} (hfirst : Date.minYear ≤ other) (hlast : other ≤ Date.maxYear) :
      Date.Valid ⟨other, month, day⟩ :=
    (hvalid.exists.of_year hday).valid hfirst hlast
  have hyear : year ≤ now.date.year := by
    rw [Date.le_iff] at hle
    dsimp only at hle
    omega
  refine ⟨t, monthDayBefore?_eq_some.2 ⟨hvalid' hmin hmax, year, hvalid, ?_, ht⟩,
    (Instant.midnight?_eq_some hvalid.exists).1 ht⟩
  -- The occurrence of the present year, or if it is still to come that of the year before, is not
  -- after the latest one, and there is none in a later year.
  rcases le_or_gt (⟨now.date.year, month, day⟩ : Date) now.date with hearly | hlate
  · have hthis := hlatest ⟨hvalid' hmin hmax, rfl, rfl, hearly⟩
    rw [Date.le_iff_year] at hthis
    exact .inl ⟨le_antisymm hyear hthis, hearly⟩
  · have hbefore : year ≤ now.date.year - 1 := by
      have hlt := hle.trans_lt hlate
      rw [← not_le, Date.le_iff_year] at hlt
      omega
    have hoccurs : (⟨now.date.year - 1, month, day⟩ : Date) ≤ now.date := by
      rw [Date.le_iff]
      dsimp only
      omega
    have hprevious := hlatest ⟨hvalid' (hvalid.1.trans hbefore) (by omega), rfl, rfl, hoccurs⟩
    rw [Date.le_iff_year] at hprevious
    exact .inr ⟨le_antisymm hbefore hprevious, hlate⟩

/-- **The leap day is found from that day on, until the year ends.** In any other year, and earlier
in that year, the year that is tried has none. -/
theorem monthDayBefore?_leapDay :
    monthDayBefore? now 2 29 = some t ↔
      Date.isLeapYear now.date.year ∧ ⟨now.date.year, 2, 29⟩ ≤ now.date ∧
        t.date = ⟨now.date.year, 2, 29⟩ ∧ t.IsMidnight := by
  obtain ⟨hmin, hmax, -⟩ := now.date_valid
  rw [monthDayBefore?_eq_some]
  constructor
  · rintro ⟨hvalid, year, hfound, hyear, hmidnight⟩
    have hleap := (Date.valid_leapDay.1 hvalid).2.2
    rcases hyear with ⟨rfl, hearly⟩ | ⟨rfl, -⟩
    · exact ⟨hleap, hearly, (Instant.midnight?_eq_some hvalid.exists).1 hmidnight⟩
    · exact absurd (Date.valid_leapDay.1 hfound).2.2 (Date.not_isLeapYear_pred hleap)
  · rintro ⟨hleap, hearly, hdate⟩
    have hvalid := Date.valid_leapDay.2 ⟨hmin, hmax, hleap⟩
    exact ⟨hvalid, _, hvalid, .inl ⟨rfl, hearly⟩,
      (Instant.midnight?_eq_some hvalid.exists).2 hdate⟩

end Phrase

/-- **A month without a year means its latest occurrence, but for the leap day.** For a text that
names a day of a month, the day being one that some year has: if it is not the leap day, the text
means the start of the latest date up to today with this month and day, if there is one in range,
and otherwise nothing. The leap day is understood only in a leap year and from that day on, and then
it is that of the present year. -/
theorem resolve_month_day {text : String} {month day : Int}
    (htext : Phrase.NamesDay text month day) (hexists : ∃ year, Date.Exists ⟨year, month, day⟩)
    (now : Instant) :
    (¬ (month = 2 ∧ day = 29) →
      (∀ d, IsGreatest (Date.occurrences month day now.date) d →
        ∃ t, DateResolver.standard text now = some t ∧ t.date = d ∧ t.IsMidnight) ∧
      (Date.occurrences month day now.date = ∅ → DateResolver.standard text now = none)) ∧
    (month = 2 ∧ day = 29 → ∀ t, DateResolver.standard text now = some t ↔
      Date.isLeapYear now.date.year ∧ ⟨now.date.year, 2, 29⟩ ≤ now.date ∧
        t.date = ⟨now.date.year, 2, 29⟩ ∧ t.IsMidnight) := by
  obtain ⟨year, hexists⟩ := hexists
  have hthirtyone : day ≤ 31 := hexists.day_le.trans (Date.monthLength_le _ _)
  have hresolve : DateResolver.standard text now = Phrase.monthDayBefore? now month day := by
    rw [DateResolver.standard, htext.ofString? hthirtyone]
    rfl
  rw [hresolve]
  refine ⟨fun hday => ⟨fun d hd => Phrase.monthDayBefore?_isGreatest hd hday, fun hempty => ?_⟩, ?_⟩
  · rw [Option.eq_none_iff_forall_not_mem]
    intro t ht
    have hmem := Phrase.mem_occurrences ht
    rw [hempty] at hmem
    exact hmem
  · rintro ⟨rfl, rfl⟩ t
    exact Phrase.monthDayBefore?_leapDay

/-- At noon of a leap day, `Mar` is the first of March of the year before, and the leap day is
today. -/
theorem resolve_month_day_leap :
    let now : Instant := ⟨1709208000, 0, by decide, by decide, .inl (by decide)⟩
    now.date = ⟨2024, 2, 29⟩ ∧ Phrase.NamesDay "Mar" 3 1 ∧ Phrase.NamesDay "FEBRUARY 29" 2 29 ∧
    IsGreatest (Date.occurrences 3 1 now.date) ⟨2023, 3, 1⟩ ∧
    (∃ t, DateResolver.standard "Mar" now = some t ∧ t.date = ⟨2023, 3, 1⟩ ∧ t.IsMidnight) ∧
    ∃ t, DateResolver.standard "FEBRUARY 29" now = some t ∧ t.date = now.date := by
  intro now
  have hdate : now.date = ⟨2024, 2, 29⟩ := by decide +kernel
  have hmarch : Phrase.NamesDay "Mar" 3 1 := .month (by decide +kernel)
  have hleap : Phrase.NamesDay "FEBRUARY 29" 2 29 :=
    @Phrase.NamesDay.monthDay "FEBRUARY" "29" 2 29 (by decide +kernel) (by decide +kernel)
  have hgreatest : IsGreatest (Date.occurrences 3 1 now.date) ⟨2023, 3, 1⟩ := by
    rw [hdate]
    refine ⟨⟨by decide, rfl, rfl, Date.le_iff.2 (by decide)⟩, ?_⟩
    rintro ⟨year, _, _⟩ ⟨-, rfl, rfl, hle⟩
    rw [Date.le_iff_year]
    rw [Date.le_iff] at hle
    dsimp only at hle
    omega
  have hexists : ∃ year, Date.Exists ⟨year, 3, 1⟩ :=
    ⟨2023, by decide, by decide, by decide, by decide⟩
  have hexists' : ∃ year, Date.Exists ⟨year, 2, 29⟩ :=
    ⟨2024, by decide, by decide, by decide, by decide⟩
  refine ⟨hdate, hmarch, hleap, hgreatest,
    ((resolve_month_day hmarch hexists now).1 (by decide)).1 _ hgreatest, ?_⟩
  obtain ⟨t, ht⟩ := Instant.exists_midnight now.date_valid
  rw [Instant.midnight?_eq_some now.date_exists] at ht
  refine ⟨t, ((resolve_month_day hleap hexists' now).2 ⟨rfl, rfl⟩ t).2 ?_, ht.1⟩
  rw [ht.1, hdate]
  exact ⟨by decide, le_rfl, rfl, ht.2⟩

/-- A year after a leap day the phrase for it is not understood, although it has a latest
occurrence. -/
theorem leap_day_is_not_found :
    let now : Instant := ⟨1742041800, 0, by decide, by decide, .inl (by decide)⟩
    Phrase.NamesDay "february 29" 2 29 ∧
    IsGreatest (Date.occurrences 2 29 now.date) ⟨2024, 2, 29⟩ ∧
    DateResolver.standard "february 29" now = none := by
  intro now
  have hdate : now.date = ⟨2025, 3, 15⟩ := by decide +kernel
  refine ⟨@Phrase.NamesDay.monthDay "february" "29" 2 29 (by decide +kernel) (by decide +kernel),
    ?_, by decide +kernel⟩
  rw [hdate]
  refine ⟨⟨by decide, rfl, rfl, Date.le_iff.2 (by decide)⟩, ?_⟩
  rintro ⟨year, _, _⟩ ⟨hvalid, rfl, rfl, hle⟩
  have hleap := (Date.valid_leapDay.1 hvalid).2.2
  rw [Date.isLeapYear_iff] at hleap
  rw [Date.le_iff_year]
  rw [Date.le_iff] at hle
  dsimp only at hle
  omega

end MailSearch
