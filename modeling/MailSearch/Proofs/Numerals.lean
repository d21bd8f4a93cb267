import Mathlib.Algebra.Group.Nat.Defs
import MailSearch.Proofs.PhraseTexts

/-!
# Numbers in phrases

A number is written in decimal, perhaps with zeros before it (`Text.numeral`), and each place in a
phrase that reads a number reads it back: counts (`Text.count?_numeral`), signed numbers
(`Text.integer?_of_natural?`) and the fields of a numeric date. A field takes the digits that
follow, up to its width, so what it reads depends on what comes after. `Text.Filled` is the case in
which the digits fill the width and nothing after them matters.
-/

namespace MailSearch.Text

/-! ## Writing numbers -/

/-- A number in decimal, with zeros before it up to a width. -/
def numeral (width n : Nat) : String :=
  String.ofList ((Nat.toDigits 10 n).leftpad width '0')

/-- Digits alone are read as the number that they write. -/
theorem natural?_of_digits {cs : List Char} (hne : cs ≠ []) (hdigits : ∀ c ∈ cs, c.isDigit) :
    natural? cs = some (decimalValue cs) := by
  rw [natural?, if_pos]
  simpa [hne] using hdigits

/-- **A number is read back.** -/
theorem natural?_numeral (width n : Nat) : natural? (numeral width n).toList = some n := by
  have hvalue : decimalValue ((Nat.toDigits 10 n).leftpad width '0') = n := by
    show Nat.ofDigitChars 10 _ 0 = n
    rw [List.leftpad, Nat.ofDigitChars_append, Nat.ofDigitChars_replicate_zero, Nat.mul_zero,
      Nat.ofDigitChars_ten_toDigits]
  rw [numeral, String.toList_ofList, natural?_of_digits, hvalue]
  · simp [List.leftpad, Nat.toDigits_ne_nil]
  · intro c hc
    rcases List.mem_append.1 hc with hzero | hdigit
    · rw [List.eq_of_mem_replicate hzero]
      rfl
    · exact Nat.isDigit_of_mem_toDigits (by decide) (by decide) hdigit

/-- A number that fits the width is written with exactly that many digits. -/
theorem length_numeral {width n : Nat} (hwidth : 0 < width) (h : n < 10 ^ width) :
    (numeral width n).toList.length = width := by
  have hle := (Nat.length_toDigits_le_iff (b := 10) (by decide) hwidth).2 h
  rw [numeral, String.toList_ofList, List.length_leftpad]
  omega

/-- A count has no sign. -/
theorem count?_numeral (width : Nat) {n : Nat} (h : n < 4294967296) :
    count? (numeral width n) = some n := by
  have hvalue := natural?_numeral width n
  obtain ⟨-, hdigits⟩ := natural?_eq_some hvalue
  rw [count?]
  split
  next heq =>
    rw [heq] at hdigits
    exact absurd (hdigits '+' (.head _)) (by decide)
  next => simp [hvalue, h]

/-! ## Fields -/

/-- Digits that fill a field. -/
structure Filled (width n : Nat) (cs : List Char) : Prop where
  value : natural? cs = some n
  length : cs.length = width

/-- A numeral of some width fills a field of that width. -/
theorem filled_numeral {width n : Nat} (hwidth : 0 < width) (h : n < 10 ^ width) :
    Filled width n (numeral width n).toList :=
  ⟨natural?_numeral width n, length_numeral hwidth h⟩

section
variable {width n : Nat} {cs rest : List Char}

/-- A filled field holds digits only. -/
theorem Filled.digits (h : Filled width n cs) : ∀ c ∈ cs, c.isDigit :=
  (natural?_eq_some h.value).2

/-- What a field takes: digits that fill its width, or fewer with no digit after them. -/
theorem take_digits (hdigits : ∀ c ∈ cs, c.isDigit)
    (hstop : cs.length = width ∨ cs.length ≤ width ∧ ∀ c ∈ rest.head?, c.isDigit = false) :
    ((cs ++ rest).takeWhile Char.isDigit).take width = cs := by
  rcases hstop with hlength | ⟨hlength, hstop⟩
  · rw [List.takeWhile_append_of_pos hdigits, List.take_left' hlength]
  · rw [takeWhile_append_stop hdigits hstop, List.take_of_length_le hlength]

/-- Exactly so many digits. -/
theorem Filled.digits? (h : Filled width n cs) (rest : List Char) :
    digits? width (cs ++ rest) = some (n, rest) := by
  rw [Text.digits?, List.take_left' h.length, List.drop_left' h.length]
  simp [h.length, h.value]

end

end MailSearch.Text

namespace MailSearch.Phrase

open Text

variable {n : Nat} {cs rest : List Char}

/-- A field of two digits is read to its end, whatever comes after it. -/
theorem shortField?_filled (h : Filled 2 n cs) (rest : List Char) :
    shortField? (cs ++ rest) = some ((n : Int), rest) := by
  simp only [shortField?]
  rw [take_digits h.digits (.inl h.length), h.value, List.drop_left]
  rfl

/-- A year of a numeric date. Two digits are a year too, if no digit follows. -/
theorem yearField?_digits (h : natural? cs = some n)
    (hstop : cs.length = 4 ∨ cs.length ≤ 4 ∧ ∀ c ∈ rest.head?, c.isDigit = false) :
    yearField? (cs ++ rest) = some ((n : Int), rest) := by
  obtain ⟨hne, hdigits⟩ := natural?_eq_some h
  have htake := take_digits hdigits hstop
  obtain ⟨c, cs, rfl⟩ := List.exists_cons_of_ne_nil hne
  unfold yearField?
  split
  next heq =>
    cases (List.cons.inj heq).1
    exact absurd (hdigits '+' (.head _)) (by decide)
  next heq =>
    cases (List.cons.inj heq).1
    exact absurd (hdigits '-' (.head _)) (by decide)
  next =>
    dsimp only
    rw [htake, h, List.drop_left]
    rfl

end MailSearch.Phrase
