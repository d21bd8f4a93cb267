import MailSearch.Proofs.PastDates

/-!
# As time passes, no phrase goes back a day

`resolve_date_le`: of two instants at which a phrase is understood, the later one gives it no
earlier date. This is so of dates only. Within a day a phrase can go back, for a leap second is left
for the second after it (`resolve_date_le_leap`).

Each way of going back in time has one lemma that says on which day it ends: the start of a day
(`Instant.day_of_midnight?`), a number of seconds (`Instant.minusSeconds?_eq_some`), a number of
months (`Instant.minusMonths?_eq_some`) and a day of a month (`Phrase.monthDayBefore?_eq_some`).
What is left is to compare two days, and where they are days of the calendar, two dates.
-/

namespace MailSearch

/-! ## Dates -/

namespace Date

/-- A day of the month with this number, or its last day if the month is too short. -/
def clamped (index day : Int) : Date :=
  ⟨index / 12, index % 12 + 1, min day (monthLength (index / 12) (index % 12 + 1))⟩

/-- A later day is not cut back to an earlier one. -/
theorem clamped_le {k l a b : Int} (h : k < l ∨ k = l ∧ a ≤ b) : clamped k a ≤ clamped l b := by
  rw [le_iff]
  rcases h with hmonth | ⟨rfl, hday⟩
  · dsimp only [clamped]
    omega
  · refine .inr ⟨rfl, .inr ⟨rfl, ?_⟩⟩
    dsimp only [clamped]
    omega

/-- Dates are ordered by the number of the month, and then by the day. -/
theorem monthIndex_of_le {d e : Date} (hd : d.Exists) (he : e.Exists) (h : d ≤ e) :
    d.monthIndex < e.monthIndex ∨ d.monthIndex = e.monthIndex ∧ d.day ≤ e.day := by
  rw [← dayNumber_le_iff hd he, ← Int.not_lt, dayNumber_lt_iff he hd] at h
  omega

/-- Every month has a first day. -/
theorem exists_first {year month : Int} (hfirst : 1 ≤ month) (hlast : month ≤ 12) :
    Exists ⟨year, month, 1⟩ :=
  ⟨hfirst, hlast, Int.le_refl 1, monthLength_pos _ _⟩

end Date

/-- The last day with this day of the week up to the day `n`. -/
def Weekday.lastUpTo (w : Weekday) (n : Int) : Int :=
  7 * ((n + 3 - w.index) / 7) + w.index - 3

/-- The last such weekday up to a day moves forward with the day. -/
theorem Weekday.lastUpTo_mono {w : Weekday} {m n : Int} (h : m ≤ n) :
    w.lastUpTo m ≤ w.lastUpTo n := by
  rw [lastUpTo, lastUpTo]
  omega

/-! ## Going back -/

namespace Instant

variable {i j now now' : Instant}

/-- A later instant is on the same day or a later one. -/
theorem day_le_day (h : i ≤ j) : i.day ≤ j.day := by
  rw [le_iff] at h
  rw [day, day]
  omega

/-- The dates of two instants are ordered as their days are. -/
theorem date_le_date_iff : i.date ≤ j.date ↔ i.day ≤ j.day := by
  rw [← Date.dayNumber_le_iff i.date_exists j.date_exists, dayNumber_date, dayNumber_date]

/-- The start of a day is on that day. -/
theorem day_of_midnight? {n : Int} (h : midnight? n = some i) : i.day = n := by
  obtain ⟨hseconds, -⟩ := ofParts?_eq_some.1 h
  rw [day, hseconds]
  omega

/-- The midnights of days come in the order of the days. -/
theorem midnight?_day_le {m n : Int} (hle : m ≤ n) (h : midnight? m = some i)
    (h' : midnight? n = some j) : i.day ≤ j.day := by
  rw [day_of_midnight? h, day_of_midnight? h']
  exact hle

/-- How many seconds earlier an instant is. A leap second counts as the second after it. -/
theorem minusSeconds?_eq_some {seconds : Nat} (h : now.minusSeconds? seconds = some i) :
    seconds = 0 ∧ i = now ∨
      seconds ≠ 0 ∧ i.seconds = now.seconds + now.nanos / 1000000000 - seconds := by
  have hnanos := now.nanos_lt
  rw [minusSeconds?] at h
  split at h
  next hzero => exact .inl ⟨hzero, (Option.some.inj h).symm⟩
  next hsome =>
    refine .inr ⟨hsome, ?_⟩
    split at h
    all_goals
      obtain ⟨hseconds, -⟩ := ofParts?_eq_some.1 h
      omega

/-- The second that a leap second counts as is not after any later instant. -/
theorem minusSeconds?_day_le {seconds : Nat} (hle : now ≤ now')
    (h : now.minusSeconds? seconds = some i) (h' : now'.minusSeconds? seconds = some j) :
    i.day ≤ j.day := by
  rcases minusSeconds?_eq_some h with ⟨hzero, rfl⟩ | ⟨hsome, hi⟩
  · rcases minusSeconds?_eq_some h' with ⟨-, rfl⟩ | ⟨hsome, -⟩
    · exact day_le_day hle
    · exact absurd hzero hsome
  · rcases minusSeconds?_eq_some h' with ⟨hzero, -⟩ | ⟨-, hj⟩
    · exact absurd hzero hsome
    · have hnanos := now.nanos_lt
      rw [le_iff] at hle
      rw [day, day, hi, hj]
      omega

/-- The day on which going back by months ends. -/
theorem minusMonths?_eq_some {months : Nat} (h : now.minusMonths? months = some i) :
    ∃ target, target = Date.clamped (now.date.monthIndex - months) now.date.day ∧ target.Exists ∧
      i.day = target.dayNumber := by
  simp only [minusMonths?, Option.bind_eq_bind, Option.bind_eq_some_iff] at h
  obtain ⟨target, htarget, hparts⟩ := h
  obtain ⟨hdate, hvalid⟩ := Date.ofYmd?_eq_some.1 htarget
  obtain ⟨hseconds, -⟩ := ofParts?_eq_some.1 hparts
  refine ⟨target, hdate, hvalid.exists, ?_⟩
  rw [day, hseconds]
  omega

/-- The day of the month is cut back to the end of the month, the same for both. -/
theorem minusMonths?_day_le {months : Nat} (hle : now ≤ now')
    (h : now.minusMonths? months = some i) (h' : now'.minusMonths? months = some j) :
    i.day ≤ j.day := by
  obtain ⟨target, htarget, hexists, hi⟩ := minusMonths?_eq_some h
  obtain ⟨target', htarget', hexists', hj⟩ := minusMonths?_eq_some h'
  have hdate : now.date ≤ now'.date := date_le_date_iff.2 (day_le_day hle)
  have hmonth := Date.monthIndex_of_le now.date_exists now'.date_exists hdate
  rw [hi, hj, Date.dayNumber_le_iff hexists hexists', htarget, htarget']
  exact Date.clamped_le (by omega)

end Instant

/-! ## Phrases -/

namespace Phrase

variable {p : Phrase} {now now' t t' : Instant}

/-- The most recent day of the week is the last one up to today, or up to yesterday. -/
theorem weekdayBefore?_eq (now : Instant) (w : Weekday) (strict : Bool) :
    weekdayBefore? now w strict =
      Instant.midnight? (w.lastUpTo (if strict then now.day - 1 else now.day)) := by
  rw [weekdayBefore?, weekdayIndex, Weekday.lastUpTo]
  congr 1
  cases strict with
  | false =>
    rw [Bool.false_and, if_neg Bool.false_ne_true, if_neg Bool.false_ne_true]
    omega
  | true =>
    rw [Bool.true_and, if_pos rfl]
    split
    next hsame =>
      rw [beq_iff_eq] at hsame
      omega
    next hother =>
      rw [beq_iff_eq] at hother
      omega

/-- The last such weekday before now moves forward with the time. -/
theorem weekdayBefore?_day_le {w : Weekday} {strict : Bool} (hle : now ≤ now')
    (h : weekdayBefore? now w strict = some t) (h' : weekdayBefore? now' w strict = some t') :
    t.day ≤ t'.day := by
  have hday := Instant.day_le_day hle
  rw [weekdayBefore?_eq] at h h'
  refine Instant.midnight?_day_le (Weekday.lastUpTo_mono ?_) h h'
  split <;> omega

/-- Some units of time before now move forward with the time, counted in days. In hours and minutes
they need not: two days of long months can end up as the same last day of a short one. -/
theorem before?_day_le {count : Nat} {unit : TimeUnit} (hle : now ≤ now')
    (h : before? now count unit = some t) (h' : before? now' count unit = some t') :
    t.day ≤ t'.day := by
  cases unit with
  | minute | hour | day | week => exact Instant.minusSeconds?_day_le hle h h'
  | month => exact Instant.minusMonths?_day_le hle h h'
  | year =>
    rw [before?] at h h'
    split at h
    next hsmall =>
      rw [if_pos hsmall] at h'
      exact Instant.minusMonths?_day_le hle h h'
    next => cases h

/-- The first of a month, in the years of two instants. -/
theorem first_day_le {year year' month month' : Int} (hfirst : 1 ≤ month) (hlast : month ≤ 12)
    (hfirst' : 1 ≤ month') (hlast' : month' ≤ 12)
    (hle : year < year' ∨ year = year' ∧ month ≤ month') :
    Date.dayNumber ⟨year, month, 1⟩ ≤ Date.dayNumber ⟨year', month', 1⟩ := by
  rw [Date.dayNumber_le_iff (Date.exists_first hfirst hlast) (Date.exists_first hfirst' hlast'),
    Date.le_iff]
  dsimp only
  omega

/-- Where a day of a month is found: in the present year if it has come, and otherwise in the year
before. It has to exist in the present year either way. -/
theorem monthDayBefore?_eq_some {month day : Int} :
    monthDayBefore? now month day = some t ↔
      Date.Valid ⟨now.date.year, month, day⟩ ∧ ∃ year, Date.Valid ⟨year, month, day⟩ ∧
        (year = now.date.year ∧ ⟨now.date.year, month, day⟩ ≤ now.date ∨
          year = now.date.year - 1 ∧ now.date < ⟨now.date.year, month, day⟩) ∧
        Instant.midnight? (Date.dayNumber ⟨year, month, day⟩) = some t := by
  simp only [monthDayBefore?, Option.bind_eq_bind, Option.bind_eq_some_iff, Date.ofYmd?_eq_some]
  -- Whether the day is still to come is asked of the numbers, and is the same for the dates.
  have hcome (hvalid : Date.Valid ⟨now.date.year, month, day⟩) :
      now.day < Date.dayNumber ⟨now.date.year, month, day⟩ ↔
        now.date < ⟨now.date.year, month, day⟩ := by
    rw [← not_le, ← not_le, ← now.dayNumber_date,
      Date.dayNumber_le_iff hvalid.exists now.date_exists]
  constructor
  · rintro ⟨candidate, ⟨rfl, hvalid⟩, found, ⟨rfl, hfound⟩, hmidnight⟩
    simp only [hcome hvalid] at hfound hmidnight
    refine ⟨hvalid, _, hfound, ?_, hmidnight⟩
    split
    next hlate => exact .inr ⟨rfl, hlate⟩
    next hearly => exact .inl ⟨rfl, not_lt.1 hearly⟩
  · rintro ⟨hvalid, year, hfound, hyear, hmidnight⟩
    have hchosen : (if now.day < Date.dayNumber ⟨now.date.year, month, day⟩ then now.date.year - 1
        else now.date.year) = year := by
      simp only [hcome hvalid]
      rcases hyear with ⟨rfl, hearly⟩ | ⟨rfl, hlate⟩
      · exact if_neg (not_lt.2 hearly)
      · exact if_pos hlate
    exact ⟨_, ⟨rfl, hvalid⟩, _, ⟨rfl, hchosen ▸ hfound⟩, hchosen ▸ hmidnight⟩

/-- The last such day of the year before now moves forward with the time. -/
theorem monthDayBefore?_day_le {month day : Int} (hle : now ≤ now')
    (h : monthDayBefore? now month day = some t) (h' : monthDayBefore? now' month day = some t') :
    t.day ≤ t'.day := by
  obtain ⟨-, year, hvalid, hyear, hmidnight⟩ := monthDayBefore?_eq_some.1 h
  obtain ⟨-, year', hvalid', hyear', hmidnight'⟩ := monthDayBefore?_eq_some.1 h'
  refine Instant.midnight?_day_le ?_ hmidnight hmidnight'
  have hdate : now.date ≤ now'.date := Instant.date_le_date_iff.2 (Instant.day_le_day hle)
  -- In a later year the day is found no earlier than the year before it. In the same year, what has
  -- come at one instant has come at the later one.
  have hyears : year ≤ year' := by
    rcases (Date.le_iff.1 hdate) with hlt | ⟨hsame, -⟩
    · omega
    · rcases hyear with ⟨rfl, hearly⟩ | ⟨rfl, -⟩
      · rcases hyear' with ⟨rfl, -⟩ | ⟨rfl, hlate⟩
        · exact hsame.le
        · rw [← hsame] at hlate
          exact absurd (hearly.trans hdate) (not_le.2 hlate)
      · omega
  rw [Date.dayNumber_le_iff hvalid.exists hvalid'.exists, Date.le_iff]
  dsimp only
  omega

/-- **As time passes, no phrase goes back a day.** -/
theorem resolve_day_le (hle : now ≤ now') (h : p.resolve now = some t)
    (h' : p.resolve now' = some t') : t.day ≤ t'.day := by
  have hday := Instant.day_le_day hle
  have hdate := Date.le_iff.1 (Instant.date_le_date_iff.2 hday)
  have hexists := now.date_exists
  have hexists' := now'.date_exists
  cases p with
  | instant | date =>
    rw [Option.some.inj (h.symm.trans h')]
  | now =>
    cases h
    cases h'
    exact hday
  | today => exact Instant.midnight?_day_le hday h h'
  | yesterday => exact Instant.midnight?_day_le (Int.sub_le_sub_right hday 1) h h'
  | weekday | lastWeekday => exact weekdayBefore?_day_le hle h h'
  | ago => exact before?_day_le hle h h'
  | thisWeek =>
    refine Instant.midnight?_day_le ?_ h h'
    rw [weekdayIndex, weekdayIndex]
    omega
  | thisMonth =>
    refine Instant.midnight?_day_le (first_day_le hexists.one_le_month hexists.month_le
      hexists'.one_le_month hexists'.month_le ?_) h h'
    omega
  | thisYear =>
    refine Instant.midnight?_day_le (first_day_le (Int.le_refl 1) (by decide) (Int.le_refl 1)
      (by decide) ?_) h h'
    omega
  | monthDay => exact monthDayBefore?_day_le hle h h'

end Phrase

/-- **As time passes, no phrase goes back a day.** If a phrase is understood at two instants, then
the date of what it names at the earlier one is not after the date of what it names at the later
one. -/
theorem resolve_date_le {text : String} {now now' t t' : Instant} (hle : now ≤ now')
    (h : DateResolver.standard text now = some t)
    (h' : DateResolver.standard text now' = some t') : t.date ≤ t'.date := by
  obtain ⟨p, hp, hresolve⟩ := Option.bind_eq_some_iff.1 h
  obtain ⟨p', hp', hresolve'⟩ := Option.bind_eq_some_iff.1 h'
  obtain rfl := Option.some.inj (hp.symm.trans hp')
  exact Instant.date_le_date_iff.2 (Phrase.resolve_day_le hle hresolve hresolve')

/-- From a leap second to the second after it, `a day ago` goes back by a fraction of a second, but
stays on its day. -/
theorem resolve_date_le_leap :
    let now : Instant := ⟨86399, 1500000000, by decide, by decide, .inr (by decide)⟩
    let now' : Instant := ⟨86400, 200000000, by decide, by decide, .inl (by decide)⟩
    let t : Instant := ⟨0, 500000000, by decide, by decide, .inl (by decide)⟩
    let t' : Instant := ⟨0, 200000000, by decide, by decide, .inl (by decide)⟩
    now ≤ now' ∧ DateResolver.standard "a day ago" now = some t ∧
    DateResolver.standard "a day ago" now' = some t' ∧ t' < t ∧ t.date ≤ t'.date := by
  intro now now' t t'
  have hle : now ≤ now' := Instant.le_iff.2 (.inl (by decide))
  have h : DateResolver.standard "a day ago" now = some t := by decide +kernel
  have h' : DateResolver.standard "a day ago" now' = some t' := by decide +kernel
  exact ⟨hle, h, h', Instant.lt_iff.2 (.inr ⟨rfl, by decide⟩), resolve_date_le hle h h'⟩

end MailSearch
