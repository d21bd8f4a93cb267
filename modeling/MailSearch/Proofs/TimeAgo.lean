import MailSearch.Proofs.Numerals
import MailSearch.Proofs.RecentDays

/-!
# How long ago

`resolve_ago`: so many units ago is exactly so many units before the present, and nothing only where
that lies before the first instant. Minutes to weeks are a number of seconds. Months are counted in
the calendar, and years are twelve of them: the time of day stays, and the day of the month too if
the month has it, and otherwise it is the last day.

Both kinds of length are gone back on a time line without ends, `TimeSpan.Back`, where there is
always one second to arrive at (`TimeSpan.back_iff`). An instant is found if this second is in range
(`Phrase.before?_eq`). There are two more tests on the way, of the date that is reached and of the
number of months, which must fit into 32 bits. Neither turns down anything that is in range.
-/

namespace MailSearch

/-! ## Going back on a time line without ends -/

/-- A length of time: a number of seconds, or a number of months of the calendar. -/
inductive TimeSpan where
  | seconds (n : Nat)
  | months (n : Nat)
deriving DecidableEq, Repr

/-- How long a unit is. -/
def TimeUnit.span : TimeUnit → TimeSpan
  | minute => .seconds 60
  | hour => .seconds 3600
  | day => .seconds 86400
  | week => .seconds 604800
  | month => .months 1
  | year => .months 12

namespace Date

/-- The date of a second since 1970, in range or not. -/
def ofSecond (s : Int) : Date :=
  ofDayNumber (s / 86400)

variable {index day s : Int}

/-- Every second is in a date that exists. -/
theorem ofSecond_exists (s : Int) : (ofSecond s).Exists :=
  (ofDayNumber_spec _).1

/-- The day of a second is found by division. -/
theorem dayNumber_ofSecond (s : Int) : (ofSecond s).dayNumber = s / 86400 :=
  (ofDayNumber_spec _).2

/-- The date of a second is the one that has that day number. -/
theorem ofSecond_eq_iff {d : Date} (hd : d.Exists) : ofSecond s = d ↔ s / 86400 = d.dayNumber := by
  constructor
  · rintro rfl
    exact (dayNumber_ofSecond s).symm
  · intro h
    rw [ofSecond, h, ofDayNumber_dayNumber hd]

/-- Taking the last day for one that the month lacks leaves the month as it is. -/
theorem monthIndex_clamped (index day : Int) : (clamped index day).monthIndex = index := by
  dsimp only [monthIndex, clamped]
  omega

/-- With the last day for one that the month lacks the date exists. -/
theorem clamped_exists (index : Int) (h : 1 ≤ day) : (clamped index day).Exists := by
  have hpos := monthLength_pos (index / 12) (index % 12 + 1)
  refine ⟨?_, ?_, ?_, ?_⟩
  all_goals
    dsimp only [clamped]
    omega

/-- A date is known by its month and by its day, which is cut back to the length of the month. -/
theorem eq_clamped_iff {d : Date} (hd : d.Exists) :
    d.monthIndex = index ∧ d.day = min day (monthLength d.year d.month) ↔
      d = clamped index day := by
  constructor
  · rintro ⟨rfl, hlength⟩
    have hfirst := hd.one_le_month
    have hlast := hd.month_le
    have hyear : d.monthIndex / 12 = d.year := by rw [monthIndex]; omega
    have hmonth : d.monthIndex % 12 + 1 = d.month := by rw [monthIndex]; omega
    rw [clamped, hyear, hmonth, ← hlength]
  · rintro rfl
    exact ⟨monthIndex_clamped index day, rfl⟩

end Date

namespace TimeSpan

variable {count : Nat} {s s' : Int} {span : TimeSpan}

/-- From the second `s`, going back a number of times the same length leads to the second `s'`.
Where months are counted, the number of the month goes down and the time of day is kept, and the day
is the same or, if the month is too short for it, the last one. -/
def Back (count : Nat) (s s' : Int) : TimeSpan → Prop
  | seconds n => s' = s - n * count
  | months n =>
    (Date.ofSecond s').monthIndex = (Date.ofSecond s).monthIndex - n * count ∧
    (Date.ofSecond s').day = min (Date.ofSecond s).day
      (Date.monthLength (Date.ofSecond s').year (Date.ofSecond s').month) ∧
    s' % 86400 = s % 86400

instance : Decidable (span.Back count s s') :=
  match span with
  | seconds _ => inferInstanceAs (Decidable (_ = _))
  | months _ => inferInstanceAs (Decidable (_ ∧ _))

/-- The second that going back leads to. -/
def back (count : Nat) (s : Int) : TimeSpan → Int
  | seconds n => s - n * count
  | months n =>
    86400 * (Date.clamped ((Date.ofSecond s).monthIndex - n * count)
      (Date.ofSecond s).day).dayNumber + s % 86400

/-- **There is exactly one second to go back to.** -/
theorem back_iff : span.Back count s s' ↔ s' = span.back count s := by
  cases span with
  | seconds n => rfl
  | months n =>
    have htarget := Date.clamped_exists ((Date.ofSecond s).monthIndex - n * count)
      (Date.ofSecond_exists s).one_le_day
    rw [Back, back, ← and_assoc, Date.eq_clamped_iff (Date.ofSecond_exists s'),
      Date.ofSecond_eq_iff htarget]
    omega

/-- Going back is not going forward. -/
theorem back_le : span.back count s ≤ s := by
  cases span with
  | seconds n =>
    have hnonneg : (0 : Int) ≤ n * count := Int.mul_nonneg (by omega) (by omega)
    rw [back]
    omega
  | months n =>
    have hnonneg : (0 : Int) ≤ n * count := Int.mul_nonneg (by omega) (by omega)
    have hexists := Date.ofSecond_exists s
    have hday : (Date.clamped ((Date.ofSecond s).monthIndex - n * count)
        (Date.ofSecond s).day).dayNumber ≤ (Date.ofSecond s).dayNumber := by
      refine Date.dayNumber_le (Date.clamped_exists _ hexists.one_le_day) hexists ?_
      rw [Date.monthIndex_clamped]
      dsimp only [Date.clamped]
      omega
    rw [Date.dayNumber_ofSecond] at hday
    rw [back]
    omega

end TimeSpan

/-! ## Instants in range -/

namespace Instant

variable {s : Int} {nanos : Nat}

/-- There is no instant outside the years that dates can have. -/
theorem ofParts?_eq_none (h : s < -8334601228800 ∨ 8210266876799 < s) :
    ofParts? s nanos = none := by
  rw [ofParts?, dif_neg]
  omega

/-- What is not after an instant can only be too early. -/
theorem ofParts?_eq_none_iff {now : Instant} (hle : s ≤ now.seconds)
    (hnanos : now.nanos < 1000000000) :
    ofParts? s now.nanos = none ↔ s < -8334601228800 := by
  have hlast := now.le_last
  constructor
  · intro h
    by_contra hfirst
    rw [ofParts?, dif_pos ⟨by omega, .inl hnanos⟩] at h
    cases h
  · intro h
    exact ofParts?_eq_none (.inl h)

variable {now : Instant}

/-- Whole seconds are taken away without a change to the fraction. -/
theorem minusSeconds?_eq (hnanos : now.nanos < 1000000000) (seconds : Nat) :
    now.minusSeconds? seconds = ofParts? (now.seconds - seconds) now.nanos := by
  rw [minusSeconds?, if_pos hnanos]
  by_cases hzero : seconds = 0
  · rw [if_pos hzero, hzero, eq_comm, ofParts?_eq_some]
    exact ⟨by omega, rfl⟩
  · rw [if_neg hzero]

/-- Months lead to a date in range exactly if they lead to a second in range. -/
theorem minusMonths?_eq (now : Instant) (months : Nat) :
    now.minusMonths? months =
      ofParts? (TimeSpan.back months now.seconds (.months 1)) now.nanos := by
  obtain ⟨target, htarget⟩ :
      ∃ target, target = Date.clamped (now.date.monthIndex - months) now.date.day := ⟨_, rfl⟩
  have hexists : target.Exists := htarget ▸ Date.clamped_exists _ now.date_exists.one_le_day
  have hback : TimeSpan.back months now.seconds (.months 1) =
      86400 * target.dayNumber + now.seconds % 86400 := by
    have hcount : ((1 : Nat) : Int) * months = months := Int.one_mul _
    rw [htarget, TimeSpan.back, hcount]
    rfl
  have hmonths : now.minusMonths? months =
      (Date.ofYmd? target.year target.month target.day).bind fun d =>
        ofParts? (86400 * d.dayNumber + now.seconds % 86400) now.nanos := by
    rw [htarget]
    rfl
  rw [hmonths, hback]
  by_cases hvalid : target.Valid
  · rw [Date.ofYmd?_eq_some.2 ⟨rfl, hvalid⟩]
    rfl
  · have hnone : Date.ofYmd? target.year target.month target.day = none := if_neg hvalid
    rw [hnone, Option.bind_none, eq_comm]
    rw [Date.valid_iff hexists] at hvalid
    exact ofParts?_eq_none (by omega)

/-- All of time has fewer months than 32 bits can count. -/
theorem minusMonths?_many (now : Instant) {months : Nat} (h : 4294967296 ≤ months) :
    now.minusMonths? months = none := by
  rw [Option.eq_none_iff_forall_not_mem]
  intro t ht
  simp only [minusMonths?, Option.bind_eq_bind, Option.mem_def, Option.bind_eq_some_iff] at ht
  obtain ⟨target, htarget, -⟩ := ht
  obtain ⟨rfl, hmin, -⟩ := Date.ofYmd?_eq_some.1 htarget
  obtain ⟨-, hmax, -, hmonth, -⟩ := now.date_valid
  dsimp only [Date.minYear] at hmin
  dsimp only [Date.maxYear] at hmax
  omega

end Instant

/-- **An instant is found if it is in range.** The number of months must fit into 32 bits, but so
many months before any instant there is none. -/
theorem Phrase.before?_eq {now : Instant} (hnanos : now.nanos < 1000000000) (count : Nat)
    (unit : TimeUnit) :
    before? now count unit =
      Instant.ofParts? (unit.span.back count now.seconds) now.nanos := by
  cases unit with
  | minute | hour | day | week =>
    rw [before?, Instant.minusSeconds?_eq hnanos]
    rfl
  | month => exact now.minusMonths?_eq count
  | year =>
    have hyears : TimeUnit.year.span.back count now.seconds =
        TimeSpan.back (12 * count) now.seconds (.months 1) := by
      simp [TimeUnit.span, TimeSpan.back]
    have hmonths : before? now count .year = now.minusMonths? (12 * count) := by
      rw [before?]
      by_cases hfew : 12 * count < 4294967296
      · exact if_pos hfew
      · rw [if_neg hfew, now.minusMonths?_many (Nat.not_lt.1 hfew)]
    rw [hmonths, hyears, now.minusMonths?_eq]

/-! ## Texts -/

namespace Phrase

open Text

variable {count unit : String} {n : Nat} {u : TimeUnit}

/-- The units by name, in the singular. -/
def unitWords : List (String × TimeUnit) :=
  [("minute", .minute), ("min", .minute), ("hour", .hour), ("hr", .hour), ("day", .day),
    ("week", .week), ("wk", .week), ("month", .month), ("year", .year), ("yr", .year)]

/-- The words that are counts. -/
def countWords : List (String × Nat) :=
  [("a", 1), ("an", 1), ("one", 1)]

/-- A count: a word, in any case, or a number in decimal, perhaps with zeros before it. -/
inductive IsCount : String → Nat → Prop where
  | word {word : String} {n : Nat} (h : IsName countWords word n) : IsCount word n
  | number (width n : Nat) : IsCount (numeral width n) n

/-- A count is a word, and what begins with it is no timestamp. -/
theorem IsCount.isWhole (h : IsCount count n) : IsWhole count.toList ∧
    ∀ rest, Timestamp.read? (count.toList ++ ' ' :: rest) = none := by
  cases h with
  | word h =>
    obtain ⟨hwhole, hhead⟩ := IsName.isWhole (by decide) h
    refine ⟨hwhole, fun rest => ?_⟩
    obtain ⟨c, cs, hcs⟩ := List.exists_cons_of_ne_nil hwhole.1
    rw [hcs] at hhead ⊢
    exact Timestamp.read?_eq_none (hhead c rfl)
  | number width =>
    have hvalue := natural?_numeral width n
    exact ⟨(isWhole_digits hvalue).1, fun rest =>
      Timestamp.read?_number (natural?_eq_some hvalue).2 rfl (by decide)⟩

/-- The count is read, in lower case. -/
theorem IsCount.ago? (h : IsCount count n) (hn : n < 4294967296) (unit : String) :
    ago? (String.ofList (lower count.toList)) unit =
      (unit? (singular unit)).map (Phrase.ago n) := by
  cases h with
  | word h =>
    have hwords : ∀ entry ∈ countWords,
        (entry.1 == "a" || entry.1 == "an" || entry.1 == "one") = true ∧ entry.2 = 1 := by decide
    obtain ⟨hword, rfl⟩ := hwords _ h
    rw [Phrase.ago?, if_pos hword]
    cases unit? (singular unit) <;> rfl
  | number width =>
    have hvalue := natural?_numeral width n
    have hword : ∀ word ∈ ["a", "an", "one"], numeral width n ≠ word := by
      have hnone : ∀ word ∈ ["a", "an", "one"], natural? word.toList = none := by decide
      intro word hword heq
      rw [heq, hnone word hword] at hvalue
      cases hvalue
    rw [(isWhole_digits hvalue).2, String.ofList_toList, Phrase.ago?,
      if_neg (by simpa [and_assoc] using hword), count?_numeral width hn]
    cases unit? (singular unit) <;> rfl

/-- **A count and a unit before `ago` are understood.** -/
theorem ofString?_ago (hcount : IsCount count n) (hn : n < 4294967296)
    (hunit : IsName (withPlural unitWords) unit u) :
    ofString? (count ++ " " ++ unit ++ " ago") = some (.ago n u) := by
  have hnames : ∀ entry ∈ withPlural unitWords,
      IsWhole entry.1.toList ∧ unit? (singular entry.1) = some entry.2 := by decide +kernel
  obtain ⟨hwhole, hsingular⟩ := hnames _ hunit
  rw [String.toList_ofList, isWhole_lower] at hwhole
  have htext : (count ++ " " ++ unit ++ " ago").toList =
      count.toList ++ [' '] ++ (unit.toList ++ [' '] ++ ['a', 'g', 'o']) := by
    simp
  have hspaced : Spaced [count.toList, unit.toList, ['a', 'g', 'o']]
      (count ++ " " ++ unit ++ " ago").toList := by
    rw [htext]
    exact .more hcount.isWhole.1 (by decide) (.more hwhole (by decide) (.word (by decide)))
  have hread : Timestamp.read? (count ++ " " ++ unit ++ " ago").toList = none := by
    rw [htext, List.append_assoc]
    exact hcount.isWhole.2 _
  rw [hspaced.ofString?_of_read hread]
  show ago? (String.ofList (lower count.toList)) (String.ofList (lower unit.toList)) = _
  rw [hcount.ago? hn, hsingular]
  rfl

end Phrase

/-- **So many units ago is exact, up to the first instant.** Let `s` be the second that lies so many
units before the present, on a time line without ends. The phrase names the instant with this second
and the fraction of the present one, and nothing exactly if `s` lies before the first instant. -/
theorem resolve_ago {count unit : String} {n : Nat} {u : TimeUnit}
    (hcount : Phrase.IsCount count n) (hn : n < 2 ^ 32)
    (hunit : Phrase.IsName (Phrase.withPlural Phrase.unitWords) unit u) (now : Instant)
    (hnanos : now.nanos < 1000000000) :
    ∃ s, (∀ s', u.span.Back n now.seconds s' ↔ s' = s) ∧
      (DateResolver.standard (count ++ " " ++ unit ++ " ago") now = none ↔
        s < 86400 * Date.dayNumber ⟨Date.minYear, 1, 1⟩) ∧
      ∀ t, DateResolver.standard (count ++ " " ++ unit ++ " ago") now = some t ↔
        t.seconds = s ∧ t.nanos = now.nanos := by
  have hresolve : DateResolver.standard (count ++ " " ++ unit ++ " ago") now =
      Instant.ofParts? (u.span.back n now.seconds) now.nanos := by
    rw [DateResolver.standard_eq (Phrase.ofString?_ago hcount hn hunit), Phrase.resolve,
      Phrase.before?_eq hnanos]
  rw [hresolve]
  exact ⟨_, fun s' => TimeSpan.back_iff, Instant.ofParts?_eq_none_iff TimeSpan.back_le hnanos,
    fun t => Instant.ofParts?_eq_some⟩

/-- At noon of the last day of March, a month ago is noon of the last day of February. The greatest
count of years leads out of range. -/
theorem resolve_ago_month_end :
    let now : Instant := ⟨1711886400, 7, by decide, by decide, .inl (by decide)⟩
    now.date = ⟨2024, 3, 31⟩ ∧
    (Phrase.IsCount "a" 1 ∧ Phrase.IsName (Phrase.withPlural Phrase.unitWords) "Month" .month ∧
      ∃ t, DateResolver.standard "a Month ago" now = some t ∧ t.date = ⟨2024, 2, 29⟩ ∧
        t.seconds % 86400 = 43200 ∧ t.nanos = 7) ∧
    (Phrase.IsCount "4294967295" 4294967295 ∧
      Phrase.IsName (Phrase.withPlural Phrase.unitWords) "yrs" .year ∧
      DateResolver.standard "4294967295 yrs ago" now = none) := by
  intro now
  have hcount : Phrase.IsCount "a" 1 := .word (by decide +kernel)
  have hunit : Phrase.IsName (Phrase.withPlural Phrase.unitWords) "Month" .month := by
    decide +kernel
  have hcount' : Phrase.IsCount "4294967295" 4294967295 := .number 0 4294967295
  have hunit' : Phrase.IsName (Phrase.withPlural Phrase.unitWords) "yrs" .year := by decide +kernel
  refine ⟨by decide +kernel, ⟨hcount, hunit, ?_⟩, hcount', hunit', ?_⟩
  · obtain ⟨s, hback, -, hsome⟩ := resolve_ago hcount (by decide) hunit now (by decide)
    have hs : 1709208000 = s := (hback _).1 (by decide +kernel)
    let t : Instant := ⟨1709208000, 7, by decide, by decide, .inl (by decide)⟩
    exact ⟨t, (hsome t).2 ⟨hs, rfl⟩, by decide +kernel, rfl, rfl⟩
  · obtain ⟨s, hback, hnone, -⟩ := resolve_ago hcount' (by decide) hunit' now (by decide)
    refine hnone.2 ?_
    rw [← (hback _).1 (TimeSpan.back_iff.2 rfl)]
    decide +kernel

end MailSearch
