import Mathlib.Data.Prod.Lex
import MailSearch.Calendar.Phrase
import MailSearch.Proofs.DayNumbers

/-!
# Relative dates lie in the past

`resolve_later_absolute`: if a phrase names an instant that is still to come, it names that instant
at all times. The phrases are of two kinds. A timestamp and a date given in full mean the same at
all times (`Phrase.resolve_absolute`). All others lean to the past, and what they name is never
later than the present (`Phrase.resolve_le`): some go back to the start of a day, some a number of
seconds, some a number of months, and for each of these there is one lemma about instants.
-/

namespace MailSearch

namespace Instant

variable {i j : Instant}

/-! ## The order of instants -/

/-- What instants are ordered by. -/
def key (i : Instant) : Int ×ₗ Nat :=
  toLex (i.seconds, i.nanos)

/-- The key by which instants are ordered tells them apart. -/
theorem key_injective : Function.Injective key := by
  intro i j h
  obtain ⟨hseconds, hnanos⟩ := Prod.mk.inj (toLex.injective h)
  cases i
  cases j
  cases hseconds
  cases hnanos
  rfl

/-- Instants are ordered by their seconds and, within a second, by its fraction. -/
instance : LinearOrder Instant :=
  LinearOrder.lift' key key_injective

/-- Instants are ordered by second, then by nanosecond. -/
theorem le_iff : i ≤ j ↔ i.seconds < j.seconds ∨ i.seconds = j.seconds ∧ i.nanos ≤ j.nanos :=
  Prod.Lex.toLex_le_toLex

/-- The strict order of instants, in the same words. -/
theorem lt_iff : i < j ↔ i.seconds < j.seconds ∨ i.seconds = j.seconds ∧ i.nanos < j.nanos :=
  Prod.Lex.toLex_lt_toLex

/-! ## Going back -/

/-- The date of an instant exists. -/
theorem date_exists (i : Instant) : i.date.Exists :=
  (Date.ofDayNumber_spec i.day).1

/-- The date of an instant is the one that has its day number. -/
theorem dayNumber_date (i : Instant) : i.date.dayNumber = i.day :=
  (Date.ofDayNumber_spec i.day).2

/-- An instant has the parts that it is made of. -/
theorem ofParts?_eq_some {seconds : Int} {nanos : Nat} :
    ofParts? seconds nanos = some i ↔ i.seconds = seconds ∧ i.nanos = nanos := by
  rw [ofParts?]
  constructor
  · intro h
    split at h
    next => cases h; exact ⟨rfl, rfl⟩
    next => cases h
  · rintro ⟨rfl, rfl⟩
    exact dif_pos ⟨⟨i.first_le, i.le_last⟩, i.nanos_lt⟩

/-- A day that is not after today has begun. -/
theorem midnight?_le {day : Int} (hday : day ≤ i.day) (h : midnight? day = some j) : j ≤ i := by
  obtain ⟨hseconds, hnanos⟩ := ofParts?_eq_some.1 h
  rw [Instant.day] at hday
  rw [le_iff]
  omega

/-- Going back by seconds. A leap second is left for the second after it, but by one second at
least. -/
theorem minusSeconds?_le {seconds : Nat} (h : i.minusSeconds? seconds = some j) : j ≤ i := by
  rw [minusSeconds?] at h
  split at h
  next => cases h; exact le_rfl
  next hsome =>
    split at h
    all_goals
      obtain ⟨hseconds, hnanos⟩ := ofParts?_eq_some.1 h
      rw [le_iff]
      omega

/-- Going back by months. The day is no later if the month is the same, and the time of day is
kept. -/
theorem minusMonths?_le {months : Nat} (h : i.minusMonths? months = some j) : j ≤ i := by
  simp only [minusMonths?, Option.bind_eq_bind, Option.bind_eq_some_iff] at h
  obtain ⟨target, htarget, hparts⟩ := h
  obtain ⟨hdate, hvalid⟩ := Date.ofYmd?_eq_some.1 htarget
  have hday : target.dayNumber ≤ i.date.dayNumber := by
    refine Date.dayNumber_le hvalid.exists i.date_exists ?_
    rw [hdate, Date.monthIndex, Date.monthIndex]
    dsimp only
    omega
  obtain ⟨hseconds, hnanos⟩ := ofParts?_eq_some.1 hparts
  rw [dayNumber_date, day] at hday
  rw [le_iff]
  omega

end Instant

/-! ## Phrases -/

namespace Phrase

variable {p : Phrase} {now t : Instant}

/-- The phrase says when, and not how long before the present. -/
def isAbsolute : Phrase → Bool
  | instant _ | date _ => true
  | .now | today | yesterday | weekday _ | lastWeekday _ | ago .. | thisWeek | thisMonth | thisYear
  | monthDay .. => false

/-- An absolute phrase names one instant. -/
theorem resolve_absolute (hp : p.isAbsolute) (now now' : Instant) :
    p.resolve now = p.resolve now' := by
  cases p with
  | instant | date => rfl
  | _ => cases hp

/-- The last such weekday is not after now. -/
theorem weekdayBefore?_le {w : Weekday} {strict : Bool}
    (h : weekdayBefore? now w strict = some t) : t ≤ now := by
  refine Instant.midnight?_le ?_ h
  have hback := Int.emod_nonneg (weekdayIndex now.day - w.index) (b := 7) (by decide)
  split <;> omega

/-- Some units of time before now are not after now. -/
theorem before?_le {count : Nat} {unit : TimeUnit} (h : before? now count unit = some t) :
    t ≤ now := by
  cases unit with
  | minute | hour | day | week => exact Instant.minusSeconds?_le h
  | month => exact Instant.minusMonths?_le h
  | year =>
    rw [before?] at h
    split at h
    next => exact Instant.minusMonths?_le h
    next => cases h

/-- A day of a month is taken from the year before if it is still to come in this one. -/
theorem monthDayBefore?_le {month day : Int} (h : monthDayBefore? now month day = some t) :
    t ≤ now := by
  simp only [monthDayBefore?, Option.bind_eq_bind, Option.bind_eq_some_iff] at h
  obtain ⟨candidate, hcandidate, found, hfound, hmidnight⟩ := h
  refine Instant.midnight?_le ?_ hmidnight
  split at hfound
  next =>
    obtain ⟨hdate, hvalid⟩ := Date.ofYmd?_eq_some.1 hfound
    have hexists := now.date_exists
    have hmonth := hvalid.exists.month_le
    rw [← now.dayNumber_date]
    refine Date.dayNumber_le hvalid.exists hexists (.inl ?_)
    have hfirst := hexists.one_le_month
    rw [hdate] at hmonth ⊢
    rw [Date.monthIndex, Date.monthIndex]
    dsimp only at hmonth ⊢
    omega
  next hlate =>
    rw [hcandidate] at hfound
    cases hfound
    exact Int.not_lt.1 hlate

/-- The first of this month, and the first of this year. -/
theorem dayNumber_first_le {month : Int} (hfirst : 1 ≤ month) (hmonth : month ≤ now.date.month) :
    Date.dayNumber ⟨now.date.year, month, 1⟩ ≤ now.day := by
  have hexists := now.date_exists
  have hlast := hexists.month_le
  have hday := hexists.one_le_day
  have hone : Date.Exists ⟨now.date.year, month, 1⟩ :=
    ⟨hfirst, Int.le_trans hmonth hlast, Int.le_refl 1, Date.monthLength_pos _ _⟩
  rw [← now.dayNumber_date]
  refine Date.dayNumber_le hone hexists ?_
  rw [Date.monthIndex, Date.monthIndex]
  dsimp only
  omega

/-- **A relative phrase names no instant after the present.** -/
theorem resolve_le (hp : p.isAbsolute = false) (h : p.resolve now = some t) : t ≤ now := by
  cases p with
  | instant | date => cases hp
  | now => cases h; exact le_rfl
  | today => exact Instant.midnight?_le (Int.le_refl _) h
  | yesterday => exact Instant.midnight?_le (Int.sub_le_self _ (by decide)) h
  | weekday | lastWeekday => exact weekdayBefore?_le h
  | ago => exact before?_le h
  | thisWeek =>
    exact Instant.midnight?_le (Int.sub_le_self _ (Int.emod_nonneg _ (by decide))) h
  | thisMonth =>
    exact Instant.midnight?_le (dayNumber_first_le now.date_exists.one_le_month (Int.le_refl _)) h
  | thisYear =>
    exact Instant.midnight?_le (dayNumber_first_le (Int.le_refl 1) now.date_exists.one_le_month) h
  | monthDay => exact monthDayBefore?_le h

end Phrase

/-- **What is still to come does not depend on the present.** If a phrase names an instant that is
later than the present, it names this instant at all times. -/
theorem resolve_later_absolute {text : String} {now t : Instant}
    (h : DateResolver.standard text now = some t) (hlater : now < t) (now' : Instant) :
    DateResolver.standard text now' = some t := by
  obtain ⟨p, hp, hresolve⟩ := Option.bind_eq_some_iff.1 h
  rw [DateResolver.standard, hp, Option.bind_some]
  cases habsolute : p.isAbsolute with
  | true => rw [Phrase.resolve_absolute habsolute now' now, hresolve]
  | false => exact absurd (Phrase.resolve_le habsolute hresolve) (not_le_of_gt hlater)

/-- On a leap day, a date with a year is still to come, and the same day of the month without it was
a year ago. -/
theorem resolve_later_absolute_march :
    let now : Instant := ⟨1709208000, 0, by decide, by decide, .inl (by decide)⟩
    let t : Instant := ⟨1930435200, 0, by decide, by decide, .inl (by decide)⟩
    DateResolver.standard "March 5, 2031" now = some t ∧ now < t ∧
    (∀ now', DateResolver.standard "March 5, 2031" now' = some t) ∧
    DateResolver.standard "march 5" now = Instant.midnight? 19421 := by
  intro now t
  have hresolve : DateResolver.standard "March 5, 2031" now = some t := by decide +kernel
  have hlater : now < t := Instant.lt_iff.2 (.inl (by decide))
  exact ⟨hresolve, hlater, resolve_later_absolute hresolve hlater, by decide +kernel⟩

end MailSearch
