import MailSearch.Proofs.RecentDays

/-!
# Days of the week

`resolve_weekday`: a day of the week means the one date with that day among today and the six days
before it, and after `last` the one among the seven days before today. It is nothing only if that
date lies before the first one. The Monday found in this way is the beginning of this week.

A window of seven days has each day of the week once, and where is known in advance
(`Weekday.fallsOn_iff`). What is left is to see that the start of this date is found whenever there
is one (`Instant.midnight?_startIs`).
-/

namespace MailSearch

/-! ## Windows of seven days -/

/-- The date has this day of the week. -/
def Date.HasWeekday (d : Date) (w : Weekday) : Prop :=
  weekdayIndex d.dayNumber = w.index

instance (d : Date) (w : Weekday) : Decidable (d.HasWeekday w) :=
  inferInstanceAs (Decidable (_ = _))

example : Date.HasWeekday ⟨2024, 3, 15⟩ .friday ∧ Date.HasWeekday ⟨0, 2, 29⟩ .tuesday := by decide

/-- A date with this day of the week that lies from `far` to `near` days before today. It may be out
of range. -/
structure Weekday.FallsOn (w : Weekday) (today : Date) (far near : Int) (d : Date) : Prop where
  real : d.Exists
  weekday : d.HasWeekday w
  after : today.dayNumber - far ≤ d.dayNumber
  before : d.dayNumber ≤ today.dayNumber - near

namespace Weekday

variable {w : Weekday} {m n : Int}

/-- There are seven weekdays, counted from zero. -/
theorem index_range (w : Weekday) : 0 ≤ w.index ∧ w.index ≤ 6 := by
  cases w <;> decide

/-- Of seven days in a row, one has this day of the week. -/
theorem eq_lastUpTo_iff :
    weekdayIndex m = w.index ∧ n - 6 ≤ m ∧ m ≤ n ↔ m = w.lastUpTo n := by
  have hrange := w.index_range
  rw [weekdayIndex, lastUpTo]
  omega

/-- **Exactly one date in the window has this day of the week.** -/
theorem fallsOn_iff (w : Weekday) (today : Date) (near : Int) (d : Date) :
    w.FallsOn today (near + 6) near d ↔
      d = Date.ofDayNumber (w.lastUpTo (today.dayNumber - near)) := by
  constructor
  · rintro ⟨hexists, hweekday, hafter, hbefore⟩
    have hday := eq_lastUpTo_iff.1 ⟨hweekday, by omega, hbefore⟩
    rw [← hday, Date.ofDayNumber_dayNumber hexists]
  · rintro rfl
    obtain ⟨hexists, hnumber⟩ := Date.ofDayNumber_spec (w.lastUpTo (today.dayNumber - near))
    obtain ⟨hweekday, hafter, hbefore⟩ := eq_lastUpTo_iff.2 hnumber
    exact ⟨hexists, hweekday, by omega, hbefore⟩

end Weekday

/-! ## Starts of days -/

/-- What is found is the start of this date, or nothing if the date lies before the first one. -/
structure Date.StartIs (d : Date) (found : Option Instant) : Prop where
  none_iff : found = none ↔ d < ⟨minYear, 1, 1⟩
  some_iff : ∀ t, found = some t ↔ t.date = d ∧ t.IsMidnight

/-- **The start of a day that has come is found**, back to the first date. -/
theorem Instant.midnight?_startIs (now : Instant) {n : Int} (h : n ≤ now.day) :
    (Date.ofDayNumber n).StartIs (midnight? n) := by
  obtain ⟨hexists, hnumber⟩ := Date.ofDayNumber_spec n
  have hfirst : Date.Exists ⟨Date.minYear, 1, 1⟩ := Date.exists_first (by decide) (by decide)
  have hsome (t : Instant) : midnight? n = some t ↔ t.date = Date.ofDayNumber n ∧ t.IsMidnight := by
    rw [← midnight?_eq_some hexists, hnumber]
  refine ⟨?_, hsome⟩
  rw [← not_le, ← Date.dayNumber_le_iff hfirst hexists]
  constructor
  · intro hnone hle
    have hlast := now.date_valid
    rw [Date.valid_iff now.date_exists, dayNumber_date] at hlast
    have hvalid : (Date.ofDayNumber n).Valid :=
      (Date.valid_iff hexists).2 ⟨hle, by omega⟩
    obtain ⟨t, ht⟩ := exists_midnight hvalid
    rw [hnumber, hnone] at ht
    cases ht
  · intro hlt
    rw [Option.eq_none_iff_forall_not_mem]
    intro t ht
    obtain ⟨hdate, -⟩ := (hsome t).1 ht
    exact hlt (hdate ▸ ((Date.valid_iff t.date_exists).1 t.date_valid).1)

/-! ## Phrases -/

namespace Phrase

open Text

variable {name : String} {w : Weekday}

/-- The day that is found is the one in the window. -/
theorem midnight?_lastUpTo (now : Instant) (w : Weekday) {near : Int} (hnear : 0 ≤ near) :
    ∃ d, (∀ d', w.FallsOn now.date (near + 6) near d' ↔ d' = d) ∧
      d.StartIs (Instant.midnight? (w.lastUpTo (now.day - near))) := by
  have hwindow := w.fallsOn_iff now.date near
  rw [now.dayNumber_date] at hwindow
  obtain ⟨-, -, hbefore⟩ := Weekday.eq_lastUpTo_iff.2 (Eq.refl (w.lastUpTo (now.day - near)))
  exact ⟨_, hwindow, now.midnight?_startIs (by omega)⟩

/-- A day of the week by name is understood. -/
theorem ofString?_weekday (h : IsName (withShort weekdays) name w) :
    ofString? name = some (.weekday w) := by
  have hnames : ∀ entry ∈ withShort weekdays,
      (IsWhole entry.1.toList ∧ entry.1.toList.head?.any Char.isDigit = false) ∧
        ofWords? [entry.1] = some (.weekday entry.2) := by decide +kernel
  obtain ⟨hwhole, hhead⟩ := IsName.isWhole (fun entry hentry => (hnames entry hentry).1) h
  rw [(Spaced.word hwhole).ofString? hhead]
  exact (hnames _ h).2

/-- So it is after `last`, also with an `s` at the end. -/
theorem ofString?_lastWeekday (h : IsName (withPlural (withShort weekdays)) name w) :
    ofString? ("last " ++ name) = some (.lastWeekday w) := by
  have hnames : ∀ entry ∈ withPlural (withShort weekdays),
      (IsWhole entry.1.toList ∧ entry.1.toList.head?.any Char.isDigit = false) ∧
        last? entry.1 = some (.lastWeekday entry.2) := by decide +kernel
  obtain ⟨hwhole, -⟩ := IsName.isWhole (fun entry hentry => (hnames entry hentry).1) h
  have hspaced : Spaced [['l', 'a', 's', 't'], name.toList] ("last " ++ name).toList := by
    rw [String.toList_append]
    exact .more (by decide) (by decide) (.word hwhole)
  rw [hspaced.ofString? (by rintro _ ⟨⟩; rfl)]
  exact (hnames _ h).2

/-- This week begins with the most recent Monday. -/
theorem resolve_thisWeek (now : Instant) :
    thisWeek.resolve now = (weekday .monday).resolve now := by
  have hmonday : now.day - weekdayIndex now.day = Weekday.monday.lastUpTo now.day := by
    rw [weekdayIndex, Weekday.lastUpTo, Weekday.index]
    omega
  rw [resolve, resolve, weekdayBefore?_eq, hmonday]
  rfl

end Phrase

/-- **A day of the week means the right date, at every instant.** By its name in full or by three
letters, in any case, it is the start of the one date with that day of the week from six days before
today to today. After `last`, also with an `s`, it is that of the one date from seven days before
today to the day before. Either is nothing exactly if this date lies before the first one. The
beginning of this week is the most recent Monday. -/
theorem resolve_weekday (now : Instant) :
    (∀ name w, Phrase.IsName (Phrase.withShort Phrase.weekdays) name w →
      ∃ d, (∀ d', w.FallsOn now.date 6 0 d' ↔ d' = d) ∧
        d.StartIs (DateResolver.standard name now)) ∧
    (∀ name w, Phrase.IsName (Phrase.withPlural (Phrase.withShort Phrase.weekdays)) name w →
      ∃ d, (∀ d', w.FallsOn now.date 7 1 d' ↔ d' = d) ∧
        d.StartIs (DateResolver.standard ("last " ++ name) now)) ∧
    ∀ name, Phrase.IsName (Phrase.withShort Phrase.weekdays) name .monday →
      DateResolver.standard "this week" now = DateResolver.standard name now := by
  have hweekday {name w} (h : Phrase.IsName (Phrase.withShort Phrase.weekdays) name w) :
      DateResolver.standard name now = (Phrase.weekday w).resolve now :=
    DateResolver.standard_eq (Phrase.ofString?_weekday h) now
  refine ⟨fun name w h => ?_, fun name w h => ?_, fun name h => ?_⟩
  · have hwindow := Phrase.midnight?_lastUpTo now w (Int.le_refl 0)
    rw [hweekday h, Phrase.resolve, Phrase.weekdayBefore?_eq]
    simpa using hwindow
  · rw [DateResolver.standard_eq (Phrase.ofString?_lastWeekday h), Phrase.resolve,
      Phrase.weekdayBefore?_eq]
    exact Phrase.midnight?_lastUpTo now w (Int.zero_le_ofNat 1)
  · have hweek : Phrase.ofString? "this week" = some .thisWeek := by decide +kernel
    rw [hweekday h, ← Phrase.resolve_thisWeek, DateResolver.standard_eq hweek]

/-- On a Friday the day itself is meant and, after `last`, the Friday before it. On the first date
of all, which is a Thursday, the most recent Wednesday is out of range. -/
theorem resolve_weekday_friday :
    let now : Instant := ⟨1710505800, 0, by decide, by decide, .inl (by decide)⟩
    let first : Instant := ⟨-8334601228800, 0, by decide, by decide, .inl (by decide)⟩
    let today : Instant := ⟨1710460800, 0, by decide, by decide, .inl (by decide)⟩
    let weekAgo : Instant := ⟨1709856000, 0, by decide, by decide, .inl (by decide)⟩
    (Phrase.IsName (Phrase.withShort Phrase.weekdays) "FRI" .friday ∧
      DateResolver.standard "FRI" now = some today ∧ today.date = ⟨2024, 3, 15⟩) ∧
    (Phrase.IsName (Phrase.withPlural (Phrase.withShort Phrase.weekdays)) "Fridays" .friday ∧
      DateResolver.standard "last Fridays" now = some weekAgo ∧ weekAgo.date = ⟨2024, 3, 8⟩) ∧
    Phrase.IsName (Phrase.withShort Phrase.weekdays) "wed" .wednesday ∧
      DateResolver.standard "wed" first = none := by
  intro now first today weekAgo
  have hfriday : Phrase.IsName (Phrase.withShort Phrase.weekdays) "FRI" .friday := by
    decide +kernel
  have hfridays : Phrase.IsName (Phrase.withPlural (Phrase.withShort Phrase.weekdays)) "Fridays"
      .friday := by decide +kernel
  have hwednesday : Phrase.IsName (Phrase.withShort Phrase.weekdays) "wed" .wednesday := by
    decide +kernel
  have htoday : today.date = ⟨2024, 3, 15⟩ := by decide +kernel
  have hweekAgo : weekAgo.date = ⟨2024, 3, 8⟩ := by decide +kernel
  refine ⟨⟨hfriday, ?_, htoday⟩, ⟨hfridays, ?_, hweekAgo⟩, hwednesday, ?_⟩
  · obtain ⟨d, hfalls, hstart⟩ := (resolve_weekday now).1 _ _ hfriday
    have hd := (hfalls today.date).1 ⟨today.date_exists, by decide +kernel, by decide +kernel,
      by decide +kernel⟩
    exact (hstart.some_iff today).2 ⟨hd, rfl, rfl⟩
  · obtain ⟨d, hfalls, hstart⟩ := (resolve_weekday now).2.1 _ _ hfridays
    have hd := (hfalls weekAgo.date).1 ⟨weekAgo.date_exists, by decide +kernel, by decide +kernel,
      by decide +kernel⟩
    exact (hstart.some_iff weekAgo).2 ⟨hd, rfl, rfl⟩
  · obtain ⟨d, hfalls, hstart⟩ := (resolve_weekday first).1 _ _ hwednesday
    have hd := (hfalls ⟨-262144, 12, 31⟩).1 ⟨⟨by decide, by decide, by decide, by decide⟩,
      by decide +kernel, by decide +kernel, by decide +kernel⟩
    rw [hstart.none_iff, ← hd, ← not_le, Date.le_iff]
    decide

end MailSearch
