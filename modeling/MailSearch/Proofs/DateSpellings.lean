import MailSearch.Proofs.Numerals
import MailSearch.Proofs.RecentDays

/-!
# Ways to write a date

`resolve_spelled`: a date with a year of four digits can be written in a number of ways
(`Date.Spelling`), and all of them mean its start, at all times. A numeric date is tried against one
form after the other, so for each form it must be seen that those before it do not take it
(`Phrase.absolute?_slashes` and its like). They fail at a mark: either there is another one where
theirs must stand, or none at all, or a digit. One form goes further. `01/05/2024` is taken at first
for a date in the year 1, and this fails only because the day, which has two digits, leaves two
digits of the year (`Phrase.yearFirst?_monthFirst`).
-/

namespace MailSearch

namespace Text

theorem skip?_self (c : Char) (cs : List Char) : skip? c (c :: cs) = some cs :=
  skip?_eq_some.2 rfl

/-- Nothing is skipped where another character stands. -/
theorem skip?_eq_none {c : Char} {cs : List Char} (h : cs.head? ≠ some c) : skip? c cs = none := by
  rw [Option.eq_none_iff_forall_not_mem]
  intro rest hrest
  obtain rfl := skip?_eq_some.1 hrest
  exact h rfl

end Text

namespace Phrase

open Text

/-! ## Forms of numeric dates -/

section
variable {y m d : Nat} {ys ms ds : List Char}

/-- Four digits are read as a year, whatever comes after them. -/
theorem yearField?_filled (h : Filled 4 y ys) (rest : List Char) :
    yearField? (ys ++ rest) = some ((y : Int), rest) :=
  yearField?_digits h.value (.inl h.length)

/-- Four digits at the end are read as a year. -/
theorem yearField?_end (h : Filled 4 y ys) : yearField? ys = some ((y : Int), []) := by
  simpa using yearField?_filled h []

/-- Two digits at the end are read as a number. -/
theorem shortField?_end (h : Filled 2 d ds) : shortField? ds = some ((d : Int), []) := by
  simpa using shortField?_filled h []

/-- A month or a day takes two digits of a year, and leaves two. -/
theorem shortField?_year (h : Filled 4 y ys) (rest : List Char) :
    ∃ n c cs, shortField? (ys ++ rest) = some (n, c :: cs) ∧ c.isDigit := by
  obtain ⟨ds, c, cs, rfl, hds⟩ : ∃ ds c cs, ys = ds ++ c :: cs ∧ ds.length = 2 := by
    refine ⟨ys.take 2, ys.get ⟨2, by simp [h.length]⟩, ys.drop 3, ?_, by simp [h.length]⟩
    simp
  have hdigits := h.digits
  simp only [List.mem_append, List.mem_cons] at hdigits
  have hne : ds ≠ [] := by
    rintro rfl
    cases hds
  have hfilled : Filled 2 (decimalValue ds) ds :=
    ⟨natural?_of_digits hne fun x hx => hdigits x (.inl hx), hds⟩
  refine ⟨decimalValue ds, c, cs ++ rest, ?_, hdigits c (.inr (.inl rfl))⟩
  rw [List.append_assoc, shortField?_filled hfilled]
  rfl

/-- Two digits are a year as well, if no digit follows. -/
theorem yearField?_month {mark : Char} (h : Filled 2 m ms) (hmark : mark.isDigit = false)
    (rest : List Char) : yearField? (ms ++ mark :: rest) = some ((m : Int), mark :: rest) := by
  refine yearField?_digits h.value (.inr ⟨?_, ?_⟩)
  · rw [h.length]
    decide
  · rintro _ ⟨⟩
    exact hmark

/-! What each form reads. -/

/-- Filled fields are read as year, month and day, in this order. -/
theorem yearFirst?_filled (mark : Char) (hy : Filled 4 y ys) (hm : Filled 2 m ms)
    (hd : Filled 2 d ds) :
    yearFirst? mark (ys ++ mark :: (ms ++ mark :: ds)) = Date.ofYmd? y m d := by
  simp [yearFirst?, yearField?_filled hy, skip?_self, shortField?_filled hm, shortField?_end hd]

/-- Filled fields are read as month, day and year, in this order. -/
theorem monthFirst?_filled (mark : Char) (hy : Filled 4 y ys) (hm : Filled 2 m ms)
    (hd : Filled 2 d ds) :
    monthFirst? mark (ms ++ mark :: (ds ++ mark :: ys)) = Date.ofYmd? y m d := by
  simp [monthFirst?, shortField?_filled hm, shortField?_filled hd, skip?_self, yearField?_end hy]

/-- Four digits alone are the first day of that year. -/
theorem fullYear?_filled (hy : Filled 4 y ys) : fullYear? ys = Date.ofYmd? y 1 1 := by
  have hlast := hy.digits? []
  rw [List.append_nil] at hlast
  simp [fullYear?, hlast]

/-! And where it fails. -/

/-- There is no mark, or another one, after the year. -/
theorem yearFirst?_eq_none {mark : Char} {year : Int} {cs rest : List Char}
    (h : yearField? cs = some (year, rest)) (hmark : rest.head? ≠ some mark) :
    yearFirst? mark cs = none := by
  simp [yearFirst?, h, skip?_eq_none hmark]

/-- There is no day. -/
theorem yearFirst?_yearMonth (mark : Char) (hy : Filled 4 y ys) (hm : Filled 2 m ms) :
    yearFirst? mark (ys ++ mark :: ms) = none := by
  simp [yearFirst?, yearField?_filled hy, shortField?_end hm, skip?]

/-- The year comes last, and does not end where a day does. -/
theorem yearFirst?_monthFirst (mark : Char) (hmark : mark.isDigit = false) (hy : Filled 4 y ys)
    (hm : Filled 2 m ms) (hd : Filled 2 d ds) :
    yearFirst? mark (ms ++ mark :: (ds ++ mark :: ys)) = none := by
  -- the month is read as a year, the day as a month and half of the year as a day
  obtain ⟨n, c, cs, hlast, -⟩ := shortField?_year hy []
  rw [List.append_nil] at hlast
  simp [yearFirst?, yearField?_month hm hmark, skip?_self, shortField?_filled hd, hlast]

/-- The year comes first, and goes on where a mark must stand. -/
theorem monthFirst?_year (mark : Char) (hmark : mark.isDigit = false) (hy : Filled 4 y ys)
    (rest : List Char) : monthFirst? mark (ys ++ rest) = none := by
  obtain ⟨n, c, cs, hfirst, hdigit⟩ := shortField?_year hy rest
  have hskip : skip? mark (c :: cs) = none := by
    refine skip?_eq_none fun h => ?_
    cases Option.some.inj h
    rw [hmark] at hdigit
    cases hdigit
  simp [monthFirst?, hfirst, hskip]

end

/-! ## Numeric dates

The forms are tried one after the other. The first that fits is the one in which the date is
written. -/

section
variable {y m d : Nat} {ys ms ds : List Char} {word : String} {date : Date}

/-- The form that is tried first: year, month and day with dashes. -/
theorem absolute?_dashes (hy : Filled 4 y ys) (hm : Filled 2 m ms) (hd : Filled 2 d ds)
    (hdate : Date.ofYmd? y m d = some date)
    (hword : word.toList = ys ++ '-' :: (ms ++ '-' :: ds)) : absolute? word = some date := by
  simp [absolute?, hword, yearFirst?_filled '-' hy hm hd, hdate]

/-- With slashes, the form with dashes fails at the first of them. -/
theorem absolute?_slashes (hy : Filled 4 y ys) (hm : Filled 2 m ms) (hd : Filled 2 d ds)
    (hdate : Date.ofYmd? y m d = some date)
    (hword : word.toList = ys ++ '/' :: (ms ++ '/' :: ds)) : absolute? word = some date := by
  have hdashes : yearFirst? '-' (ys ++ '/' :: (ms ++ '/' :: ds)) = none :=
    yearFirst?_eq_none (yearField?_filled hy _) (by simp)
  simp [absolute?, hword, hdashes, yearFirst?_filled '/' hy hm hd, hdate]

/-- With the month first, both forms that begin with a year fail before. -/
theorem absolute?_monthFirst (hy : Filled 4 y ys) (hm : Filled 2 m ms) (hd : Filled 2 d ds)
    (hdate : Date.ofYmd? y m d = some date)
    (hword : word.toList = ms ++ '/' :: (ds ++ '/' :: ys)) : absolute? word = some date := by
  have hdashes : yearFirst? '-' (ms ++ '/' :: (ds ++ '/' :: ys)) = none :=
    yearFirst?_eq_none (yearField?_month hm rfl _) (by simp)
  simp [absolute?, hword, hdashes, yearFirst?_monthFirst '/' rfl hy hm hd,
    monthFirst?_filled '/' hy hm hd, hdate]

/-- The first day of a month. It is read with `-01` at the end. -/
theorem absolute?_yearMonth (hy : Filled 4 y ys) (hm : Filled 2 m ms)
    (hdate : Date.ofYmd? y m 1 = some date) (hword : word.toList = ys ++ '-' :: ms) :
    absolute? word = some date := by
  have hslashes : yearFirst? '/' (ys ++ '-' :: ms) = none :=
    yearFirst?_eq_none (yearField?_filled hy _) (by simp)
  have hfirst : yearFirst? '-' (ys ++ '-' :: (ms ++ ['-', '0', '1'])) = Date.ofYmd? y m 1 :=
    yearFirst?_filled '-' hy hm ⟨rfl, rfl⟩
  simp [absolute?, hword, yearFirst?_yearMonth '-' hy hm, hslashes, monthFirst?_year '/' rfl hy,
    hfirst, hdate]

/-- The first day of a year. With `-01` at the end it is a month. -/
theorem absolute?_year (hy : Filled 4 y ys) (hdate : Date.ofYmd? y 1 1 = some date)
    (hword : word.toList = ys) : absolute? word = some date := by
  have hnone (mark : Char) : yearFirst? mark ys = none :=
    yearFirst?_eq_none (yearField?_end hy) (by simp)
  have hmonthFirst : monthFirst? '/' ys = none := by
    have hyear := monthFirst?_year '/' rfl hy []
    rwa [List.append_nil] at hyear
  have hmonth : yearFirst? '-' (ys ++ ['-', '0', '1']) = none :=
    yearFirst?_yearMonth '-' hy ⟨rfl, rfl⟩
  simp [absolute?, hword, hnone, hmonthFirst, hmonth, fullYear?_filled hy, hdate]

/-- A numeric date is one word, and too short for a timestamp. -/
theorem ofString?_numeric (h : absolute? word = some date) (hchars : IsNumeric word.toList)
    (hlength : word.toList.length ≤ 10) : ofString? word = some (.date date) := by
  have hne : word.toList ≠ [] := by
    intro hnil
    obtain rfl := String.toList_eq_nil_iff.1 hnil
    cases h
  obtain ⟨hwhole, hlower⟩ := isWhole_numeric hne hchars
  rw [(Spaced.word hwhole).ofString?_of_read (Timestamp.read?_short hlength), List.map_cons,
    List.map_nil, hlower, String.ofList_toList, ofWords?, h]
  rfl

end

/-! ## Dates with a name -/

/-- The day comes before the year. -/
theorem ofString?_monthDayYear {name gap digits gap' digits' : String} {month : Int}
    {day year : Nat} (hname : IsName (withShort months) name month) (hgap : IsGap gap.toList)
    (hday : natural? digits.toList = some day) (hgap' : IsGap gap'.toList)
    (hyear : natural? digits'.toList = some year) (hle : day ≤ 31) (hle' : year ≤ 9999) :
    ofString? (name ++ gap ++ digits ++ gap' ++ digits') =
      (Date.ofYmd? year month day).map .date := by
  obtain ⟨hwhole, hhead⟩ := isWhole_month hname
  obtain ⟨hdigits, hlower⟩ := isWhole_digits hday
  obtain ⟨hdigits', hlower'⟩ := isWhole_digits hyear
  have hspaced : Spaced [name.toList, digits.toList, digits'.toList]
      (name ++ gap ++ digits ++ gap' ++ digits').toList := by
    have hmore := Spaced.more hwhole hgap (.more hdigits hgap' (.word hdigits'))
    simpa using hmore
  have hago (unit : String) : [digits, digits'] ≠ [unit, "ago"] := by
    -- `ago` is no number
    rintro ⟨⟩
    cases hyear
  obtain ⟨hmonthly, hnamed⟩ := ofWords?_monthly hname (List.cons_ne_nil digits [digits']) hago
  have hnumbers : [digits, digits'].mapM integer? = some [(day : Int), (year : Int)] := by
    simp [integer?_of_natural? hday (by omega), integer?_of_natural? hyear (by omega)]
  rw [hspaced.ofString? hhead, List.map_cons, List.map_cons, List.map_cons, List.map_nil, hlower,
    hlower', String.ofList_toList, String.ofList_toList, hmonthly, monthly?, hnamed, hnumbers]
  rfl

end Phrase

/-! ## Spellings -/

namespace Date

open Text

/-- The year in four digits. -/
def yearDigits (d : Date) : String :=
  numeral 4 d.year.toNat

/-- The month in two digits. -/
def monthDigits (d : Date) : String :=
  numeral 2 d.month.toNat

/-- The day in two digits. -/
def dayDigits (d : Date) : String :=
  numeral 2 d.day.toNat

/-- The ways to write a date: as a number, in three forms, or with the name of the month and the day
in any number of digits. The first day of a month need not be written, nor the first month before
it. -/
inductive Spelling (d : Date) : String → Prop where
  | dashes : Spelling d (d.yearDigits ++ "-" ++ d.monthDigits ++ "-" ++ d.dayDigits)
  | slashes : Spelling d (d.yearDigits ++ "/" ++ d.monthDigits ++ "/" ++ d.dayDigits)
  | monthFirst : Spelling d (d.monthDigits ++ "/" ++ d.dayDigits ++ "/" ++ d.yearDigits)
  | named (name gap gap' : String) (width : Nat)
      (hname : Phrase.IsName (Phrase.withShort Phrase.months) name d.month)
      (hgap : IsGap gap.toList) (hgap' : IsGap gap'.toList) :
      Spelling d (name ++ gap ++ numeral width d.day.toNat ++ gap' ++ d.yearDigits)
  | yearMonth (hday : d.day = 1) : Spelling d (d.yearDigits ++ "-" ++ d.monthDigits)
  | year (hmonth : d.month = 1) (hday : d.day = 1) : Spelling d d.yearDigits

variable {d : Date} {text : String}

/-- The digits of a date fill their fields. -/
theorem Exists.filled (hd : d.Exists) (hlast : d.year ≤ 9999) :
    Filled 4 d.year.toNat d.yearDigits.toList ∧ Filled 2 d.month.toNat d.monthDigits.toList ∧
      Filled 2 d.day.toNat d.dayDigits.toList := by
  have hmonth := hd.month_le
  have hday := hd.day_le.trans (monthLength_le _ _)
  exact ⟨filled_numeral (by decide) (by omega), filled_numeral (by decide) (by omega),
    filled_numeral (by decide) (by omega)⟩

/-- A date that exists is accepted if its year has four digits at most. -/
theorem Exists.valid_of_year (hd : d.Exists) (hfirst : 0 ≤ d.year) (hlast : d.year ≤ 9999) :
    d.Valid :=
  hd.valid (by rw [minYear]; omega) (by rw [maxYear]; omega)

/-- The numbers that are read are those of the date. -/
theorem Exists.ofYmd?_toNat (hd : d.Exists) (hfirst : 0 ≤ d.year) (hlast : d.year ≤ 9999) :
    ofYmd? d.year.toNat d.month.toNat d.day.toNat = some d := by
  have hmonth := hd.one_le_month
  have hday := hd.one_le_day
  rw [Int.toNat_of_nonneg hfirst, Int.toNat_of_nonneg (by omega), Int.toNat_of_nonneg (by omega)]
  exact ofYmd?_eq_some.2 ⟨rfl, hd.valid_of_year hfirst hlast⟩

/-- **A date is understood in every spelling.** -/
theorem Spelling.ofString? (h : d.Spelling text) (hd : d.Exists) (hfirst : 0 ≤ d.year)
    (hlast : d.year ≤ 9999) : Phrase.ofString? text = some (.date d) := by
  obtain ⟨hys, hms, hds⟩ := hd.filled hlast
  have hychars := isNumeric_digits hys.digits
  have hmchars := isNumeric_digits hms.digits
  have hdchars := isNumeric_digits hds.digits
  have hdate := hd.ofYmd?_toNat hfirst hlast
  cases h with
  | dashes =>
    refine Phrase.ofString?_numeric (Phrase.absolute?_dashes hys hms hds hdate (by simp)) ?_ ?_
    · simp [hychars, hmchars, hdchars]
    · simp [hys.length, hms.length, hds.length]
  | slashes =>
    refine Phrase.ofString?_numeric (Phrase.absolute?_slashes hys hms hds hdate (by simp)) ?_ ?_
    · simp [hychars, hmchars, hdchars]
    · simp [hys.length, hms.length, hds.length]
  | monthFirst =>
    refine Phrase.ofString?_numeric (Phrase.absolute?_monthFirst hys hms hds hdate (by simp)) ?_ ?_
    · simp [hychars, hmchars, hdchars]
    · simp [hys.length, hms.length, hds.length]
  | named name gap gap' width hname hgap hgap' =>
    have hmonth := hd.one_le_month
    have hday := hd.day_le.trans (monthLength_le _ _)
    rw [Int.toNat_of_nonneg (by omega : 0 ≤ d.month)] at hdate
    rw [Phrase.ofString?_monthDayYear hname hgap (natural?_numeral width _) hgap' hys.value
      (by omega) (by omega), hdate]
    rfl
  | yearMonth hone =>
    rw [hone] at hdate
    refine Phrase.ofString?_numeric (Phrase.absolute?_yearMonth hys hms hdate (by simp)) ?_ ?_
    · simp [hychars, hmchars]
    · simp [hys.length, hms.length]
  | year hone hone' =>
    rw [hone, hone'] at hdate
    refine Phrase.ofString?_numeric (Phrase.absolute?_year hys hdate rfl) hychars ?_
    simp [hys.length]

end Date

/-- **All spellings of a date mean its start, at all times**, if the year has four digits. -/
theorem resolve_spelled {d : Date} (hd : d.Exists) (hyear : 0 ≤ d.year ∧ d.year ≤ 9999) :
    ∃ t : Instant, t.date = d ∧ t.IsMidnight ∧
      ∀ text, d.Spelling text → ∀ now, DateResolver.standard text now = some t := by
  obtain ⟨hfirst, hlast⟩ := hyear
  obtain ⟨t, ht⟩ := Instant.exists_midnight (hd.valid_of_year hfirst hlast)
  obtain ⟨hdate, hmidnight⟩ := (Instant.midnight?_eq_some hd).1 ht
  refine ⟨t, hdate, hmidnight, fun text htext now => ?_⟩
  rw [DateResolver.standard_eq (htext.ofString? hd hfirst hlast)]
  exact ht

/-- The leap day of 2024 in four forms, and the first day of the year 0 in the other two. -/
theorem resolve_spelled_leap_day :
    (∃ t : Instant, t.date = ⟨2024, 2, 29⟩ ∧ t.IsMidnight ∧ ∀ now,
      DateResolver.standard "2024-02-29" now = some t ∧
      DateResolver.standard "2024/02/29" now = some t ∧
      DateResolver.standard "02/29/2024" now = some t ∧
      DateResolver.standard "FEB 29, 2024" now = some t) ∧
    ∃ t : Instant, t.date = ⟨0, 1, 1⟩ ∧ t.IsMidnight ∧ ∀ now,
      DateResolver.standard "0000-01" now = some t ∧
      DateResolver.standard "0000" now = some t := by
  constructor
  · obtain ⟨t, hdate, hmidnight, hspelled⟩ := resolve_spelled (d := ⟨2024, 2, 29⟩)
      ⟨by decide, by decide, by decide, by decide⟩ (by decide)
    refine ⟨t, hdate, hmidnight, fun now => ⟨hspelled _ ?_ now, hspelled _ ?_ now,
      hspelled _ ?_ now, hspelled _ ?_ now⟩⟩
    · exact .dashes
    · exact .slashes
    · exact .monthFirst
    · exact .named "FEB" " " ", " 2 (by decide +kernel) (by decide) (by decide)
  · obtain ⟨t, hdate, hmidnight, hspelled⟩ := resolve_spelled (d := ⟨0, 1, 1⟩)
      ⟨by decide, by decide, by decide, by decide⟩ (by decide)
    exact ⟨t, hdate, hmidnight, fun now => ⟨hspelled _ (.yearMonth rfl) now,
      hspelled _ (.year rfl rfl) now⟩⟩

end MailSearch
