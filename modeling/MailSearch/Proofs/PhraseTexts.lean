import MailSearch.Calendar.Phrase
import MailSearch.Proofs.Grammar
import MailSearch.Proofs.Scanning

/-!
# Texts of phrases

What a text says is found in two steps: it is cut into words, and the words are taken for a phrase.
`Spaced.ofString?` is the first step: a text that consists of words, with blanks and commas between
them, is taken for what its words say in lower case, as long as it is no timestamp. It is none if it
does not begin with a digit, if its first number has no dash after it, or if it is short
(`Timestamp.read?_eq_some`). For the second step there is a lemma for each kind of phrase; here it
is the months without a year (`Phrase.NamesDay.ofString?`).
-/

namespace MailSearch

namespace Text

/-! ## Lower case -/

/-- Only a letter `A` to `Z` becomes another character, and that is a letter. -/
theorem toLower_cases (c : Char) :
    c.toLower = c ∨ 65 ≤ c.toNat ∧ c.toNat ≤ 90 ∧ c.toLower.toNat = c.toNat + 32 := by
  unfold Char.toLower
  split
  next h =>
    have hfirst : 65 ≤ c.toNat := UInt32.le_iff_toNat_le.1 h.1
    have hlast : c.toNat ≤ 90 := UInt32.le_iff_toNat_le.1 h.2
    have hvalue : (c.toNat + 32) % 2 ^ 32 = c.toNat + 32 := by omega
    exact .inr ⟨hfirst, hlast, hvalue⟩
  next => exact .inl rfl

/-- A change of case makes no blank, and takes none away. -/
theorem isBlank_toLower (c : Char) : isBlank c.toLower = isBlank c := by
  rcases toLower_cases c with h | ⟨hfirst, hlast, h⟩
  · rw [h]
  · rw [Bool.eq_iff_iff]
    simp only [isBlank, h, Bool.or_eq_true, Bool.and_eq_true, decide_eq_true_eq, beq_iff_eq]
    omega

/-- The digits are one range of characters. -/
theorem isDigit_iff {c : Char} : c.isDigit ↔ 48 ≤ c.toNat ∧ c.toNat ≤ 57 := by
  simp only [Char.isDigit, Bool.and_eq_true, decide_eq_true_eq]
  exact and_congr UInt32.le_iff_toNat_le UInt32.le_iff_toNat_le

/-- A digit is the same in lower case, and nothing else becomes one. -/
theorem isDigit_toLower (c : Char) : c.toLower.isDigit = c.isDigit := by
  rcases toLower_cases c with h | ⟨hfirst, hlast, h⟩
  · rw [h]
  · rw [Bool.eq_iff_iff, isDigit_iff, isDigit_iff, h]
    omega

/-! ## Words and what stands between them -/

/-- A word that is not cut: it is not empty, and holds no blank and no comma. -/
def IsWhole (cs : List Char) : Prop :=
  cs ≠ [] ∧ ∀ c ∈ cs, isBlank c = false ∧ c ≠ ','

instance (cs : List Char) : Decidable (IsWhole cs) :=
  decidable_of_iff (cs ≠ [] ∧ cs.all fun c => !isBlank c && c != ',') (by simp [IsWhole])

/-- What separates words: one or more blanks and commas. -/
def IsGap (cs : List Char) : Prop :=
  cs ≠ [] ∧ ∀ c ∈ cs, isBlank c = true ∨ c = ','

instance (cs : List Char) : Decidable (IsGap cs) :=
  decidable_of_iff (cs ≠ [] ∧ cs.all fun c => isBlank c || c == ',') (by simp [IsGap])

/-- A text that consists of words and what stands between them. -/
inductive Spaced : List (List Char) → List Char → Prop where
  | word {w : List Char} (hw : IsWhole w) : Spaced [w] w
  | more {w gap cs : List Char} {ws : List (List Char)} (hw : IsWhole w) (hgap : IsGap gap)
      (h : Spaced ws cs) : Spaced (w :: ws) (w ++ gap ++ cs)

section
variable {w cs rest : List Char} {ws : List (List Char)} {d : Char}

/-- Lower case cuts no word, and joins none. -/
theorem isWhole_lower : IsWhole (lower w) ↔ IsWhole w := by
  have hcomma (c : Char) : c.toLower = ',' ↔ c = ',' := toLower_eq_iff (by decide)
  simp [IsWhole, lower, isBlank_toLower, hcomma]

/-- A whole word is not cut. -/
theorem cutAt_whole (h : IsWhole w) : cutAt isBlank w = [w] := by
  obtain ⟨-, h⟩ := h
  induction w with
  | nil => rfl
  | cons c w ih =>
    have hc : ¬ isBlank c := by rw [(h c (.head _)).1]; exact Bool.false_ne_true
    rw [cutAt, if_neg hc, ih fun d hd => h d (.tail _ hd)]

/-- A whole word is cut off at the blank after it. -/
theorem cutAt_append (h : IsWhole w) (hd : isBlank d) :
    cutAt isBlank (w ++ d :: rest) = w :: cutAt isBlank rest := by
  obtain ⟨-, h⟩ := h
  induction w with
  | nil => rw [List.nil_append, cutAt, if_pos hd]
  | cons c w ih =>
    have hc : ¬ isBlank c := by rw [(h c (.head _)).1]; exact Bool.false_ne_true
    rw [List.cons_append, cutAt, if_neg hc, ih fun d hd => h d (.tail _ hd)]

/-- A whole word is the only word. -/
theorem words_whole (h : IsWhole w) : words w = [String.ofList w] := by
  rw [words, cutAt_whole h]
  simp [h.1]

/-- A whole word ends at the blank after it, and the others follow. -/
theorem words_append (h : IsWhole w) (hd : isBlank d) :
    words (w ++ d :: rest) = String.ofList w :: words rest := by
  rw [words, cutAt_append h hd]
  simp [words, h.1]

/-- Blanks before the first word change nothing. -/
theorem words_blanks (h : ∀ c ∈ cs, isBlank c) : words (cs ++ rest) = words rest := by
  induction cs with
  | nil => rfl
  | cons c cs ih =>
    rw [List.cons_append, words, cutAt, if_pos (h c (.head _))]
    exact ih fun d hd => h d (.tail _ hd)

/-- What becomes of the characters of a phrase: lower case, and blanks for commas. -/
def phraseChars (cs : List Char) : List Char :=
  (lower cs).map fun c => if c == ',' then ' ' else c

/-- Each character of a phrase is changed by itself. -/
theorem phraseChars_append (cs ds : List Char) :
    phraseChars (cs ++ ds) = phraseChars cs ++ phraseChars ds := by
  simp only [phraseChars, lower, List.map_append]

/-- Of a word that is not cut only the case changes. -/
theorem phraseChars_whole (h : IsWhole w) : phraseChars w = lower w := by
  have hword := (isWhole_lower.2 h).2
  have hkeep : ∀ c ∈ lower w, (if c == ',' then ' ' else c) = c := by
    intro c hc
    simp [(hword c hc).2]
  rw [phraseChars, List.map_congr_left hkeep, List.map_id']

/-- A gap stays a gap: some blanks and nothing else. -/
theorem phraseChars_gap {gap : List Char} (h : IsGap gap) :
    phraseChars gap ≠ [] ∧ ∀ c ∈ phraseChars gap, isBlank c := by
  refine ⟨by simpa [phraseChars, lower] using h.1, fun c hc => ?_⟩
  simp only [phraseChars, lower, List.map_map, List.mem_map, Function.comp_apply] at hc
  obtain ⟨d, hd, rfl⟩ := hc
  split
  next => rfl
  next hcomma =>
    rw [isBlank_toLower]
    refine (h.2 d hd).resolve_right ?_
    rintro rfl
    exact hcomma rfl

/-- The words of a text are found, in lower case. -/
theorem Spaced.words (h : Spaced ws cs) :
    words (phraseChars cs) = ws.map fun w => String.ofList (lower w) := by
  induction h with
  | word hw =>
    rw [phraseChars_whole hw, words_whole (isWhole_lower.2 hw)]
    rfl
  | @more w gap cs ws hw hgap _ ih =>
    obtain ⟨hne, hblank⟩ := phraseChars_gap hgap
    obtain ⟨d, ds, hds⟩ := List.exists_cons_of_ne_nil hne
    rw [hds] at hblank
    rw [phraseChars_append, phraseChars_append, phraseChars_whole hw, hds, List.append_assoc,
      List.cons_append, words_append (isWhole_lower.2 hw) (hblank d (.head _)),
      words_blanks fun c hc => hblank c (.tail _ hc), ih]
    rfl

/-- A text of words begins with a word. -/
theorem Spaced.exists_head (h : Spaced ws cs) :
    ∃ w rest, ws.head? = some w ∧ IsWhole w ∧ cs = w ++ rest := by
  cases h with
  | word hw => exact ⟨_, [], rfl, hw, (List.append_nil _).symm⟩
  | more hw hgap h => exact ⟨_, _, rfl, hw, List.append_assoc _ _ _⟩

/-- And it ends with one. -/
theorem Spaced.exists_last (h : Spaced ws cs) : ∃ w front, IsWhole w ∧ cs = front ++ w := by
  induction h with
  | word hw => exact ⟨_, [], hw, rfl⟩
  | @more v gap cs ws hv hgap _ ih =>
    obtain ⟨w, front, hw, rfl⟩ := ih
    exact ⟨w, v ++ gap ++ front, hw, (List.append_assoc _ _ _).symm⟩

/-- So there is nothing to trim. -/
theorem Spaced.trim (h : Spaced ws cs) : trim cs = cs := by
  have hdrop (w rest : List Char) (hw : w ≠ [] ∧ ∀ c ∈ w, isBlank c = false) :
      (w ++ rest).dropWhile isBlank = w ++ rest := by
    obtain ⟨c, w, rfl⟩ := List.exists_cons_of_ne_nil hw.1
    rw [List.cons_append, List.dropWhile_cons, hw.2 c (.head _)]
    rfl
  obtain ⟨w, rest, -, hw, hcs⟩ := h.exists_head
  obtain ⟨v, front, hv, hcs'⟩ := h.exists_last
  have hfront : cs.dropWhile isBlank = cs := by
    rw [hcs]
    exact hdrop w rest ⟨hw.1, fun c hc => (hw.2 c hc).1⟩
  have hback : cs.reverse.dropWhile isBlank = cs.reverse := by
    rw [hcs', List.reverse_append]
    exact hdrop _ _ ⟨by simpa using hv.1, fun c hc => (hv.2 c (List.mem_reverse.1 hc)).1⟩
  rw [Text.trim, hfront, hback, List.reverse_reverse]

end

end Text

open Text

/-! ## Numbers -/

/-- Only digits are read as a number, and at least one. -/
theorem Text.natural?_eq_some {cs : List Char} {n : Nat} (h : natural? cs = some n) :
    cs ≠ [] ∧ ∀ c ∈ cs, c.isDigit := by
  rw [natural?] at h
  split at h
  next hdigits => simpa using hdigits
  next => cases h

/-- Digits and the marks of a numeric date: dashes, slashes and, between them, the point. -/
def Text.IsNumeric (cs : List Char) : Prop :=
  ∀ c ∈ cs, 45 ≤ c.toNat ∧ c.toNat ≤ 57

@[simp] theorem Text.isNumeric_append {cs ds : List Char} :
    IsNumeric (cs ++ ds) ↔ IsNumeric cs ∧ IsNumeric ds :=
  List.forall_mem_append

@[simp] theorem Text.isNumeric_cons {c : Char} {cs : List Char} :
    IsNumeric (c :: cs) ↔ (45 ≤ c.toNat ∧ c.toNat ≤ 57) ∧ IsNumeric cs :=
  List.forall_mem_cons

/-- Digits are among the characters of numeric dates. -/
theorem Text.isNumeric_digits {cs : List Char} (h : ∀ c ∈ cs, c.isDigit) : IsNumeric cs := by
  intro c hc
  have hrange := isDigit_iff.1 (h c hc)
  omega

/-- They are a word, and the same in lower case. -/
theorem Text.isWhole_numeric {cs : List Char} (hne : cs ≠ []) (h : IsNumeric cs) :
    IsWhole cs ∧ lower cs = cs := by
  refine ⟨⟨hne, fun c hc => ?_⟩, ?_⟩
  · have hrange := h c hc
    constructor
    · simp only [isBlank, Bool.or_eq_false_iff, Bool.and_eq_false_iff, decide_eq_false_iff_not,
        beq_eq_false_iff_ne]
      omega
    · rintro rfl
      exact absurd hrange (by decide)
  · have hkeep : ∀ c ∈ cs, c.toLower = c := by
      intro c hc
      have hrange := h c hc
      rcases toLower_cases c with h | ⟨hfirst, -, -⟩
      · exact h
      · omega
    rw [lower, List.map_congr_left hkeep, List.map_id']

/-- A number holds no blank and no capital letter. -/
theorem Text.isWhole_digits {cs : List Char} {n : Nat} (h : natural? cs = some n) :
    IsWhole cs ∧ lower cs = cs := by
  obtain ⟨hne, hdigits⟩ := natural?_eq_some h
  exact isWhole_numeric hne (isNumeric_digits hdigits)

/-- Digits without a sign are a signed number too, if it is not too large. -/
theorem Text.integer?_of_natural? {s : String} {n : Nat} (h : natural? s.toList = some n)
    (hn : n < 2147483648) : integer? s = some (n : Int) := by
  obtain ⟨hne, hdigits⟩ := natural?_eq_some h
  have hvalue : (some (n : Int)).filter (fun n => -2147483648 ≤ n && n < 2147483648) =
      some (n : Int) := by
    rw [Option.filter_some, if_pos]
    simp only [Bool.and_eq_true, decide_eq_true_eq]
    omega
  rw [integer?]
  split
  next heq =>
    rw [heq] at hdigits
    exact absurd (hdigits '+' (.head _)) (by decide)
  next heq =>
    rw [heq] at hdigits
    exact absurd (hdigits '-' (.head _)) (by decide)
  next => rw [h]; exact hvalue

/-! ## Texts that are no timestamp -/

/-- What a fixed number of digits leaves. -/
theorem Text.digits?_eq_some {n v : Nat} {cs rest : List Char}
    (h : digits? n cs = some (v, rest)) :
    ∃ ds, cs = ds ++ rest ∧ ds.length = n ∧ ∀ c ∈ ds, c.isDigit := by
  simp only [digits?] at h
  split at h
  next hlength =>
    obtain ⟨value, hvalue, hpair⟩ := Option.map_eq_some_iff.1 h
    obtain ⟨rfl, rfl⟩ := Prod.mk.inj hpair
    exact ⟨cs.take n, (List.take_append_drop n cs).symm, by simpa using hlength,
      (natural?_eq_some hvalue).2⟩
  next => cases h

/-- One character is skipped if it is the one that was asked for. -/
theorem Text.skip?_eq_some {c : Char} {cs rest : List Char} :
    skip? c cs = some rest ↔ cs = c :: rest := by
  cases cs with
  | nil => simp [skip?]
  | cons d cs =>
    simp only [skip?, List.cons.injEq]
    split <;> simp_all

namespace Timestamp

/-- There is no divider in an empty text. -/
theorem divider?_ne_nil {cs rest : List Char} (h : divider? cs = some rest) : cs ≠ [] := by
  rintro rfl
  cases h

/-- **A timestamp begins with a date in full**, and does not end with it. -/
theorem read?_eq_some {cs : List Char} {i : Instant} (h : read? cs = some i) :
    ∃ year month day rest, cs = year ++ '-' :: (month ++ '-' :: (day ++ rest)) ∧
      (∀ c ∈ year, c.isDigit) ∧ year.length = 4 ∧ month.length = 2 ∧ day.length = 2 ∧
      rest ≠ [] := by
  rw [read?] at h
  obtain ⟨⟨_, _⟩, hyear, h⟩ := Option.bind_eq_some_iff.1 h
  obtain ⟨_, hdash, h⟩ := Option.bind_eq_some_iff.1 h
  obtain ⟨⟨_, _⟩, hmonth, h⟩ := Option.bind_eq_some_iff.1 h
  obtain ⟨_, hdash', h⟩ := Option.bind_eq_some_iff.1 h
  obtain ⟨⟨_, _⟩, hday, h⟩ := Option.bind_eq_some_iff.1 h
  obtain ⟨_, hdivider, -⟩ := Option.bind_eq_some_iff.1 h
  obtain ⟨year, rfl, hfour, hdigits⟩ := digits?_eq_some hyear
  obtain rfl := skip?_eq_some.1 hdash
  obtain ⟨month, rfl, hlength, -⟩ := digits?_eq_some hmonth
  obtain rfl := skip?_eq_some.1 hdash'
  obtain ⟨day, rfl, hlength', -⟩ := digits?_eq_some hday
  exact ⟨year, month, day, _, rfl, hdigits, hfour, hlength, hlength', divider?_ne_nil hdivider⟩

/-- A number that no dash follows is not the year of a timestamp. -/
theorem read?_number {ds rest : List Char} {c : Char} (hds : ∀ d ∈ ds, d.isDigit)
    (hc : c.isDigit = false) (hdash : c ≠ '-') : read? (ds ++ c :: rest) = none := by
  rw [Option.eq_none_iff_forall_not_mem]
  intro i hi
  obtain ⟨year, month, day, rest', hcs, hyear, -⟩ := read?_eq_some hi
  have hafter := congrArg (List.dropWhile Char.isDigit) hcs
  rw [dropWhile_append_stop hds (by rintro _ ⟨⟩; exact hc),
    dropWhile_append_stop hyear (by rintro _ ⟨⟩; rfl)] at hafter
  exact hdash (List.cons.inj hafter).1

/-- Ten characters are no timestamp. -/
theorem read?_short {cs : List Char} (h : cs.length ≤ 10) : read? cs = none := by
  rw [Option.eq_none_iff_forall_not_mem]
  intro i hi
  obtain ⟨year, month, day, rest, rfl, -, hyear, hmonth, hday, hrest⟩ := read?_eq_some hi
  have hpos := List.length_pos_iff.2 hrest
  simp only [List.length_append, List.length_cons] at h
  omega

/-- A timestamp begins with a digit. -/
theorem read?_eq_none {c : Char} {cs : List Char} (h : c.isDigit = false) :
    read? (c :: cs) = none := by
  have hdigits : digits? 4 (c :: cs) = none := by
    simp [digits?, natural?, h]
  rw [read?, hdigits]
  rfl

end Timestamp

/-- **A text of words is taken for what its words say**, if it is no timestamp. -/
theorem Text.Spaced.ofString?_of_read {ws : List (List Char)} {s : String}
    (h : Spaced ws s.toList) (hread : Timestamp.read? s.toList = none) :
    Phrase.ofString? s = Phrase.ofWords? (ws.map fun w => String.ofList (Text.lower w)) := by
  rw [Phrase.ofString?, h.trim, hread]
  exact congrArg Phrase.ofWords? h.words

/-- It is none if its first word does not begin with a digit. -/
theorem Text.Spaced.ofString? {w : List Char} {ws : List (List Char)} {s : String}
    (h : Spaced (w :: ws) s.toList) (hw : ∀ c ∈ w.head?, c.isDigit = false) :
    Phrase.ofString? s =
      Phrase.ofWords? ((w :: ws).map fun w => String.ofList (Text.lower w)) := by
  obtain ⟨v, rest, hhead, hv, hs⟩ := h.exists_head
  obtain rfl := Option.some.inj hhead
  obtain ⟨c, v, rfl⟩ := List.exists_cons_of_ne_nil hv.1
  refine h.ofString?_of_read ?_
  rw [hs]
  exact Timestamp.read?_eq_none (hw c rfl)

/-- A text names what the phrase names that it is taken for. -/
theorem DateResolver.standard_eq {text : String} {p : Phrase} (h : Phrase.ofString? text = some p)
    (now : Instant) : standard text now = p.resolve now := by
  rw [standard, h]
  rfl

/-! ## Names -/

namespace Phrase

section
variable {α : Type}

/-- A table of names and, for each of them, its first three letters. -/
def withShort (table : List (String × α)) : List (String × α) :=
  table ++ table.map fun entry => (String.ofList (entry.1.toList.take 3), entry.2)

/-- A table of names, with and without an `s` at the end. -/
def withPlural (table : List (String × α)) : List (String × α) :=
  table ++ table.map fun entry => (entry.1 ++ "s", entry.2)

/-- A name in a table, in any case. -/
def IsName (table : List (String × α)) (name : String) (value : α) : Prop :=
  (String.ofList (lower name.toList), value) ∈ table

instance [DecidableEq α] (table : List (String × α)) (name : String) (value : α) :
    Decidable (IsName table name value) :=
  inferInstanceAs (Decidable (_ ∈ _))

/-- A name is a word that begins with a letter, if those in the table are. -/
theorem IsName.isWhole {table : List (String × α)} {name : String} {value : α}
    (htable : ∀ entry ∈ table,
      IsWhole entry.1.toList ∧ entry.1.toList.head?.any Char.isDigit = false)
    (h : IsName table name value) :
    IsWhole name.toList ∧ ∀ c ∈ name.toList.head?, c.isDigit = false := by
  obtain ⟨hwhole, hhead⟩ := htable _ h
  rw [String.toList_ofList] at hwhole hhead
  refine ⟨isWhole_lower.1 hwhole, fun c hc => ?_⟩
  rw [lower, List.head?_map, hc] at hhead
  rw [← isDigit_toLower]
  exact hhead

end

end Phrase

/-! ## Months -/

namespace Phrase

variable {name text : String} {month day : Int}

/-- A text that names a day of a month and no year: the name of the month, and perhaps the day in
digits. Without them it is the first. -/
inductive NamesDay : String → Int → Int → Prop where
  | month {name : String} {month : Int} (h : IsName (withShort months) name month) :
      NamesDay name month 1
  | monthDay {name digits : String} {month : Int} {day : Nat}
      (h : IsName (withShort months) name month)
      (hday : natural? digits.toList = some day) : NamesDay (name ++ " " ++ digits) month day

/-- The name of a month is a word that begins with a letter. -/
theorem isWhole_month (h : IsName (withShort months) name month) :
    IsWhole name.toList ∧ ∀ c ∈ name.toList.head?, c.isDigit = false :=
  h.isWhole (by decide +kernel)

/-- One word is no day of the week and no number. -/
theorem ofWords?_month (h : IsName (withShort months) name month) :
    ofWords? [String.ofList (lower name.toList)] = some (.monthDay month 1) := by
  have hnames : ∀ entry ∈ withShort months, ofWords? [entry.1] = some (.monthDay entry.2 1) := by
    decide +kernel
  exact (hnames _ h :)

/-- A name before other words is none of the words that begin other phrases. -/
theorem ofWords?_monthly (h : IsName (withShort months) name month) {rest : List String}
    (hne : rest ≠ []) (hago : ∀ unit, rest ≠ [unit, "ago"]) :
    ofWords? (String.ofList (lower name.toList) :: rest) =
      monthly? (String.ofList (lower name.toList)) rest ∧
    named? months (String.ofList (lower name.toList)) = some month := by
  have hnames : ∀ entry ∈ withShort months,
      entry.1 ≠ "last" ∧ entry.1 ≠ "this" ∧ named? months entry.1 = some entry.2 := by
    decide +kernel
  obtain ⟨hlast, hthis, hnamed⟩ := hnames _ h
  refine ⟨?_, hnamed⟩
  clear hnames hnamed h
  unfold ofWords?
  split <;> simp_all

/-- The name of a month and the number of a day are a day of that month. -/
theorem ofWords?_monthDay (h : IsName (withShort months) name month) {digits : String} {day : Nat}
    (hday : natural? digits.toList = some day) (hle : day ≤ 31) :
    ofWords? [String.ofList (lower name.toList), digits] = some (.monthDay month day) := by
  obtain ⟨hmonthly, hnamed⟩ := ofWords?_monthly h (List.cons_ne_nil digits []) (by simp)
  have hnumber : [digits].mapM integer? = some [(day : Int)] := by
    simp [integer?_of_natural? hday (by omega)]
  rw [hmonthly, monthly?, hnamed, hnumber]
  exact if_neg (by omega)

/-- **A text that names a day of a month is understood so.** A number above 31 would be a year. -/
theorem NamesDay.ofString? (h : NamesDay text month day) (hle : day ≤ 31) :
    ofString? text = some (.monthDay month day) := by
  cases h with
  | month h =>
    obtain ⟨hwhole, hhead⟩ := isWhole_month h
    rw [(Spaced.word hwhole).ofString? hhead]
    exact ofWords?_month h
  | @monthDay name digits _ day h hday =>
    obtain ⟨hwhole, hhead⟩ := isWhole_month h
    obtain ⟨hdigits, hlower⟩ := isWhole_digits hday
    have hspaced : Spaced [name.toList, digits.toList] (name ++ " " ++ digits).toList := by
      rw [String.toList_append, String.toList_append]
      exact .more hwhole (by decide) (.word hdigits)
    rw [hspaced.ofString? hhead, List.map_cons, List.map_cons, List.map_nil, hlower,
      String.ofList_toList]
    exact ofWords?_monthDay h hday (by omega)

end Phrase

end MailSearch
