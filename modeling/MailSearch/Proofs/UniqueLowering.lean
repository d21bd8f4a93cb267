import MailSearch.Proofs.Limits
import MailSearch.Query.FullText

/-!
# Lowered queries are read in one way

Texts are put into the language of the index as they are, and may themselves look like a query of
the index. `lower_eq_iff`: two trees that the index answers field by field are still lowered to the
same query only if they are the same up to the quotes of their words. This needs that no text holds
both a double quote and a closing parenthesis, the two characters that end a text in the query, and
it holds of every tree that a text is parsed to (`Query.contained_of_parse`).

A lowered query can be told from what follows it: `Query.Readable.told` takes two trees and two
continuations at once, and goes down both trees. A join is told from a text by its second
character, and a field by its name. Where a text ends is found by comparing lengths: of two texts
that begin alike and are both closed, a text without quotes is not longer than the other one, for
its closing quote is the first quote, and a text without parentheses is not longer either
(`Field.length_le_of_closing`).
-/

namespace MailSearch

open Grammar

/-! ## Texts that do not end themselves -/

/-- The text does not hold both characters that end a text in a query of the index. -/
def Token.Contained (t : Token) : Prop :=
  '"' ∉ t.text.toList ∨ ')' ∉ t.text.toList

instance (t : Token) : Decidable t.Contained :=
  inferInstanceAs (Decidable (_ ∨ _))

namespace Query

/-- The words and phrases of a tree, from left to right. -/
def words : Query → List Token
  | and l r | or l r | butNot l r => l.words ++ r.words
  | text _ w => [w]
  | date p _ => [p]
  | flag .. | attachment | fullText .. => []

/-- The tree with all words and phrases as if they stood without quotes. -/
def withoutQuotes : Query → Query
  | and l r => and l.withoutQuotes r.withoutQuotes
  | or l r => or l.withoutQuotes r.withoutQuotes
  | butNot l r => butNot l.withoutQuotes r.withoutQuotes
  | text f w => text f (.bare w.text)
  | date p d => date (.bare p.text) d
  | flag f status => flag f status
  | attachment => attachment
  | fullText raw => fullText raw

/-- Conjunctions and disjunctions of texts, none of which is handed to the index as it is. -/
def isFielded : Query → Bool
  | and l r | or l r => l.isFielded && r.isFielded
  | text f _ => f != .verbatim
  | butNot .. | flag .. | attachment | date .. | fullText .. => false

end Query

/-! ## Single texts -/

namespace Field

/-- What stands between the parenthesis and the text of a field. -/
def opening : Field → List Char
  | sender => ['f', 'r', 'o', 'm', '_', ' ', ':', ' ', '"']
  | recipient => ['t', 'o', '_', ' ', ':', ' ', '"']
  | subject => ['s', 'u', 'b', 'j', 'e', 'c', 't', ' ', ':', ' ', '"']
  | category => ['c', 'a', 't', 'e', 'g', 'o', 'r', 'i', 'e', 's', ' ', ':', ' ', '"']
  | anywhere => ['"']
  | verbatim => []

/-- What stands behind the text of a field. -/
def closing : Field → List Char
  | category => ['*', '"', ')']
  | sender | recipient | subject | anywhere => ['"', '*', ')']
  | verbatim => []

variable {f g : Field} {cs ds x y : List Char}

/-- The characters of a text with something before and after it. -/
theorem toList_enclose (left s right : String) :
    (left ++ s ++ right).toList = left.toList ++ (s.toList ++ right.toList) := by
  rw [String.toList_append, String.toList_append, List.append_assoc]

/-- A text of a field stands between the opening and the closing of the field. -/
theorem toList_lower (hf : f ≠ .verbatim) (s : String) :
    (f.lower s).toList = '(' :: (f.opening ++ (s.toList ++ f.closing)) := by
  cases f with
  | verbatim => exact absurd rfl hf
  | sender | recipient | subject | category | anywhere =>
    exact toList_enclose _ s _

/-- A field is told by what stands before its text. -/
theorem opening_append_inj (hf : f ≠ .verbatim) (hg : g ≠ .verbatim)
    (h : f.opening ++ x = g.opening ++ y) : f = g ∧ x = y := by
  cases f <;> cases g <;> simp_all [opening]

/-- It is no parenthesis. -/
theorem opening_ne_open (hf : f ≠ .verbatim) : f.opening ++ x ≠ '(' :: y := by
  intro h
  cases f with
  | verbatim => exact absurd rfl hf
  | sender | recipient | subject | category | anywhere =>
    exact absurd (List.cons.inj h).1 (by decide)

/-- A text is closed by a quote and a parenthesis, each the first of its kind. -/
theorem closing_eq (hf : f ≠ .verbatim) : ∃ before between,
    f.closing = before ++ '"' :: (between ++ [')']) ∧ '"' ∉ before ∧
      ')' ∉ before ++ '"' :: between := by
  cases f with
  | verbatim => exact absurd rfl hf
  | category => exact ⟨['*'], [], rfl, by decide, by decide⟩
  | sender | recipient | subject | anywhere => exact ⟨[], ['*'], rfl, by decide, by decide⟩

/-- Of two ways to cut a list at a character, the one at its first occurrence is the shorter one. -/
theorem length_le_of_not_mem {c : Char} (hc : c ∉ cs) (h : cs ++ c :: x = ds ++ c :: y) :
    cs.length ≤ ds.length := by
  rcases List.append_eq_append_iff.1 h with ⟨more, rfl, -⟩ | ⟨more, rfl, hmore⟩
  · rw [List.length_append]
    exact Nat.le_add_right _ _
  · cases more with
    | nil => simp
    | cons d more =>
      obtain ⟨rfl, -⟩ := List.cons.inj hmore
      exact absurd (List.mem_append_right _ (.head _)) hc

/-- A contained text is no longer than any text that it could be taken for. -/
theorem length_le_of_closing (hf : f ≠ .verbatim) (hcs : '"' ∉ cs ∨ ')' ∉ cs)
    (h : cs ++ (f.closing ++ x) = ds ++ (f.closing ++ y)) : cs.length ≤ ds.length := by
  obtain ⟨before, between, hclosing, hquote, hclose⟩ := closing_eq hf
  rw [hclosing] at h
  rcases hcs with hcs | hcs
  · have hfirst : '"' ∉ cs ++ before := by
      rw [List.mem_append, not_or]
      exact ⟨hcs, hquote⟩
    have hcut : (cs ++ before) ++ '"' :: (between ++ ')' :: x) =
        (ds ++ before) ++ '"' :: (between ++ ')' :: y) := by
      simpa using h
    simpa using length_le_of_not_mem hfirst hcut
  · have hfirst : ')' ∉ cs ++ (before ++ '"' :: between) := by
      rw [List.mem_append, not_or]
      exact ⟨hcs, hclose⟩
    have hcut : (cs ++ (before ++ '"' :: between)) ++ ')' :: x =
        (ds ++ (before ++ '"' :: between)) ++ ')' :: y := by
      simpa using h
    simpa using length_le_of_not_mem hfirst hcut

/-- **Where a contained text ends is not in doubt.** -/
theorem closing_append_inj (hf : f ≠ .verbatim) (hcs : '"' ∉ cs ∨ ')' ∉ cs)
    (hds : '"' ∉ ds ∨ ')' ∉ ds) (h : cs ++ (f.closing ++ x) = ds ++ (f.closing ++ y)) :
    cs = ds ∧ x = y := by
  have hlength : cs.length = ds.length :=
    Nat.le_antisymm (length_le_of_closing hf hcs h) (length_le_of_closing hf hds h.symm)
  obtain ⟨rfl, hrest⟩ := List.append_inj h hlength
  exact ⟨rfl, List.append_cancel_left hrest⟩

end Field

/-! ## Trees -/

namespace Query

/-- The lowered query of a tree that is fielded, as a function to texts. -/
def lowering : Query → List Char
  | and l r => '(' :: (l.lowering ++ (" AND ".toList ++ (r.lowering ++ [')'])))
  | or l r => '(' :: (l.lowering ++ (" OR ".toList ++ (r.lowering ++ [')'])))
  | text f w => (f.lower w.text).toList
  | butNot .. | flag .. | attachment | date .. | fullText .. => []

/-- Queries of fields have a text, the one that `lowering` writes. -/
theorem lower_eq {q : Query} (h : q.isFielded) : q.lower = .ok (String.ofList q.lowering) := by
  induction q with
  | and l r ihl ihr | or l r ihl ihr =>
    rw [isFielded, Bool.and_eq_true] at h
    rw [lower, ihl h.1, ihr h.2]
    refine congrArg Except.ok (String.toList_inj.1 ?_)
    simp [lowering]
  | text f w => rw [lower, lowering, String.ofList_toList]
  | butNot | flag | attachment | date | fullText => cases h

/-- What the induction needs of a tree: it is fielded, and its words are contained. -/
def Readable : Query → Prop
  | and l r | or l r => l.Readable ∧ r.Readable
  | text f w => f ≠ .verbatim ∧ w.Contained
  | butNot .. | flag .. | attachment | date .. | fullText .. => False

/-- With contained words such a query is readable. -/
theorem readable_of_isFielded {q : Query} (h : q.isFielded) (hw : ∀ w ∈ q.words, w.Contained) :
    q.Readable := by
  induction q with
  | and l r ihl ihr | or l r ihl ihr =>
    rw [isFielded, Bool.and_eq_true] at h
    exact ⟨ihl h.1 fun w hmem => hw w (List.mem_append_left _ hmem),
      ihr h.2 fun w hmem => hw w (List.mem_append_right _ hmem)⟩
  | text f w => exact ⟨by simpa [isFielded] using h, hw w (.head _)⟩
  | butNot | flag | attachment | date | fullText => cases h

/-- Every lowered query begins with a parenthesis. -/
theorem Readable.lowering_head {q : Query} (h : q.Readable) :
    ∃ cs, q.lowering = '(' :: cs := by
  cases q with
  | and | or => exact ⟨_, rfl⟩
  | text f w => exact ⟨_, Field.toList_lower h.1 w.text⟩
  | butNot | flag | attachment | date | fullText => exact h.elim

/-- The second character of a join is a parenthesis, and that of a text is none. -/
theorem Readable.join_ne_text {l : Query} (hl : l.Readable) {f : Field} (hf : f ≠ .verbatim)
    {s : String} {x y : List Char} : '(' :: (l.lowering ++ x) ≠ (f.lower s).toList ++ y := by
  obtain ⟨cs, hcs⟩ := hl.lowering_head
  rw [Field.toList_lower hf, hcs]
  intro h
  rw [List.cons_append, List.cons_append, List.append_assoc] at h
  exact Field.opening_ne_open hf (List.cons.inj h).2.symm

/-- Two texts. -/
theorem text_append_inj {f g : Field} {v w : Token} (hv : (text f v).Readable)
    (hw : (text g w).Readable) {x y : List Char}
    (h : (text f v).lowering ++ x = (text g w).lowering ++ y) :
    (text f v).withoutQuotes = (text g w).withoutQuotes ∧ x = y := by
  rw [lowering, lowering, Field.toList_lower hv.1, Field.toList_lower hw.1] at h
  simp only [List.cons_append, List.append_assoc, List.cons.injEq, true_and] at h
  obtain ⟨rfl, htext⟩ := Field.opening_append_inj hv.1 hw.1 h
  obtain ⟨hchars, hrest⟩ := Field.closing_append_inj hv.1 hv.2 hw.2 htext
  rw [withoutQuotes, withoutQuotes, String.toList_inj.1 hchars]
  exact ⟨rfl, hrest⟩

/-- The two trees are told apart by their lowered queries, whatever follows these. -/
def Told (q r : Query) : Prop :=
  ∀ x y, q.lowering ++ x = r.lowering ++ y → q.withoutQuotes = r.withoutQuotes ∧ x = y

/-- Two joins by the same word: the left operands end at the same place, and so do the right ones.
-/
theorem Told.join {l r m s : Query} {word x y : List Char} (hleft : Told l m) (hright : Told r s)
    (h : l.lowering ++ (word ++ (r.lowering ++ ')' :: x)) =
      m.lowering ++ (word ++ (s.lowering ++ ')' :: y))) :
    (l.withoutQuotes = m.withoutQuotes ∧ r.withoutQuotes = s.withoutQuotes) ∧ x = y := by
  obtain ⟨hl, h⟩ := hleft _ _ h
  obtain ⟨hr, h⟩ := hright _ _ (List.append_cancel_left h)
  exact ⟨⟨hl, hr⟩, (List.cons.inj h).2⟩

/-- **A lowered query can be told from what follows it**, and the tree from the lowered query, up to
the quotes of its words. -/
theorem Readable.told {q r : Query} (hq : q.Readable) (hr : r.Readable) : Told q r := by
  -- Both trees are taken apart. Two joins by different words differ in the first letter of the word
  -- behind their left operands, which end at the same place.
  induction q generalizing r with
  | and l r' ihl ihr =>
    intro x y h
    cases r with
    | and m s =>
      simp only [lowering, List.cons_append, List.append_assoc, List.cons.injEq, true_and] at h
      obtain ⟨⟨hl, hr⟩, hrest⟩ := (ihl hq.1 hr.1).join (ihr hq.2 hr.2) h
      rw [withoutQuotes, withoutQuotes, hl, hr]
      exact ⟨rfl, hrest⟩
    | or m s =>
      simp only [lowering, List.cons_append, List.append_assoc, List.cons.injEq, true_and] at h
      exact absurd (ihl hq.1 hr.1 _ _ h).2 (by simp)
    | text f w =>
      simp only [lowering, List.cons_append, List.append_assoc] at h
      exact absurd h (hq.1.join_ne_text hr.1)
    | butNot | flag | attachment | date | fullText => exact hr.elim
  | or l r' ihl ihr =>
    intro x y h
    cases r with
    | or m s =>
      simp only [lowering, List.cons_append, List.append_assoc, List.cons.injEq, true_and] at h
      obtain ⟨⟨hl, hr⟩, hrest⟩ := (ihl hq.1 hr.1).join (ihr hq.2 hr.2) h
      rw [withoutQuotes, withoutQuotes, hl, hr]
      exact ⟨rfl, hrest⟩
    | and m s =>
      simp only [lowering, List.cons_append, List.append_assoc, List.cons.injEq, true_and] at h
      exact absurd (ihl hq.1 hr.1 _ _ h).2 (by simp)
    | text f w =>
      simp only [lowering, List.cons_append, List.append_assoc] at h
      exact absurd h (hq.1.join_ne_text hr.1)
    | butNot | flag | attachment | date | fullText => exact hr.elim
  | text f v =>
    intro x y h
    cases r with
    | and m s | or m s =>
      simp only [lowering, List.cons_append, List.append_assoc] at h
      exact absurd h.symm (hr.1.join_ne_text hq.1)
    | text g w => exact text_append_inj hq hr h
    | butNot | flag | attachment | date | fullText => exact hr.elim
  | butNot | flag | attachment | date | fullText => exact hq.elim

/-- Quotes around a word are not lowered. -/
theorem lowering_withoutQuotes (q : Query) : q.withoutQuotes.lowering = q.lowering := by
  induction q with
  | and l r ihl ihr | or l r ihl ihr => rw [withoutQuotes, lowering, lowering, ihl, ihr]
  | text | butNot | flag | attachment | date | fullText => rfl

end Query

/-! ## The trees of texts -/

/-- A word holds the characters that are no letters of every word that it is the same as. -/
theorem Text.mem_of_sameWord {s w : String} {c : Char} (hc : c.toNat < 65) (h : sameWord s w)
    (hmem : c ∈ s.toList) : c ∈ w.toList := by
  rw [sameWord, beq_iff_eq] at h
  have hlow : c ∈ lower s.toList := List.mem_map.2 ⟨c, hmem, (toLower_eq_iff hc).2 rfl⟩
  rw [h] at hlow
  obtain ⟨d, hd, hdc⟩ := List.mem_map.1 hlow
  rwa [← (toLower_eq_iff hc).1 hdc]

/-- A token that a text can hold is contained: a bareword has no parenthesis, and a quoted text no
quote. -/
theorem Token.Written.contained {t : Token} (h : t.Written) : t.Contained := by
  cases h with
  | quote h => exact .inl (by rwa [Token.quote, String.toList_ofList])
  | delimiter hc =>
    simp only [isDelimiterChar, Bool.or_eq_true, beq_iff_eq] at hc
    rcases hc with (rfl | rfl) | rfl <;> decide
  | @word c cs _ hc hcs =>
    refine .inr fun hmem => ?_
    rw [Token.bare, String.toList_ofList] at hmem
    rcases List.mem_cons.1 hmem with rfl | hmem
    · cases hc
    · cases hcs _ hmem

/-- A word that stands for a clause is contained if its value is. -/
theorem Token.Contained.clause {w : String} {k : Qualifier} {t v : Token} (hv : v.Contained)
    (hw : (w, k) ∈ fixedWords) (ht : t.isKeyword w) :
    (Token.bare (t.display ++ ":" ++ v.text)).Contained := by
  have hwords : ∀ entry ∈ fixedWords, '"' ∉ entry.1.toList ∧ ')' ∉ entry.1.toList := by decide
  rw [isKeyword, Bool.and_eq_true, Bool.not_eq_true'] at ht
  have hname : '"' ∉ t.text.toList ∧ ')' ∉ t.text.toList :=
    ⟨fun hmem => (hwords _ hw).1 (Text.mem_of_sameWord (by decide) ht.2 hmem),
      fun hmem => (hwords _ hw).2 (Text.mem_of_sameWord (by decide) ht.2 hmem)⟩
  rw [display, ht.1]
  rcases hv with hv | hv
  · exact .inl (by simp [bare, hname.1, hv])
  · exact .inr (by simp [bare, hname.2, hv])

/-- The words of a term are tokens of it, so they were written and are contained. -/
theorem Grammar.TermUnder.contained {u : UnknownValue} {ts : List Token} {q : Query}
    (h : TermUnder u ts q) (hw : ∀ t ∈ ts, t.Written) : ∀ w ∈ q.words, w.Contained := by
  cases h with
  | unknown _ hfixed ht =>
    intro w hmem
    obtain rfl := List.mem_singleton.1 hmem
    exact (hw _ (by simp)).contained.clause hfixed ht
  | known h =>
    cases h with
    | word | field | date =>
      intro w hmem
      obtain rfl := List.mem_singleton.1 hmem
      exact (hw _ (by simp)).contained
    | value hmem =>
      have hnone : ∀ entry ∈ values, entry.2.2.words = [] := by decide
      rw [hnone _ hmem]
      exact nofun

/-- So are those of all that is derived. -/
theorem Grammar.Derives.contained {u : UnknownValue} {several : Prop} {rule : Rule}
    {ts : List Token} {q : Query} (h : Derives (TermUnder u) several rule ts q)
    (hw : ∀ t ∈ ts, t.Written) : ∀ w ∈ q.words, w.Contained := by
  induction h with
  | one _ ih | operand _ ih | alternative _ ih => exact ih hw
  | group _ _ _ ih => exact ih fun t ht => hw t (by simp [ht])
  | more _ _ _ ihq ihr | and _ _ _ ihq ihr | butNot _ _ _ _ ihq ihr | or _ _ _ ihq ihr =>
    intro w hmem
    rcases List.mem_append.1 hmem with hmem | hmem
    · exact ihq (fun t ht => hw t (by simp [ht])) w hmem
    · exact ihr (fun t ht => hw t (by simp [ht])) w hmem
  | term h => exact h.contained hw

/-- **The words of a tree that a text is parsed to are contained**, also those that stand for a
clause with an unknown value. -/
theorem Query.contained_of_parse {text : String} {o : ParseOptions} {q : Query}
    (h : Query.parse text o = .ok q) : ∀ w ∈ q.words, w.Contained :=
  (Scan.parse_eq_ok.1 h).1.2.contained (tokensOf_written text)

/-! ## Lowering loses nothing -/

/-- **Lowering loses nothing but quotes.** Two trees of conjunctions, disjunctions and texts in
fields, whose words hold no quote or no closing parenthesis, can be lowered, and to the same query
of the index exactly if they are equal up to the quotes of their words. The words of all trees that
texts are parsed to are of this kind. -/
theorem lower_eq_iff :
    (∀ q₁ q₂ : Query, q₁.isFielded → q₂.isFielded → (∀ w ∈ q₁.words, w.Contained) →
      (∀ w ∈ q₂.words, w.Contained) → (∃ raw, q₁.lower = .ok raw) ∧
        (q₁.lower = q₂.lower ↔ q₁.withoutQuotes = q₂.withoutQuotes)) ∧
    ∀ (text : String) (o : ParseOptions) (q : Query), Query.parse text o = .ok q →
      ∀ w ∈ q.words, w.Contained := by
  refine ⟨fun q₁ q₂ h₁ h₂ hw₁ hw₂ => ⟨⟨_, Query.lower_eq h₁⟩, ?_⟩,
    fun text o q => Query.contained_of_parse⟩
  rw [Query.lower_eq h₁, Query.lower_eq h₂, Except.ok.injEq, String.ofList_inj]
  constructor
  · intro h
    have hq₁ := Query.readable_of_isFielded h₁ hw₁
    have hq₂ := Query.readable_of_isFielded h₂ hw₂
    exact (hq₁.told hq₂ [] [] (congrArg (· ++ []) h)).1
  · intro h
    rw [← Query.lowering_withoutQuotes q₁, ← Query.lowering_withoutQuotes q₂, h]

/-- A text between quotes that looks like a part of the query of another tree, and a bareword with
a quote in it that looks like the end of a text. Neither is taken for it. -/
theorem lower_eq_iff_lookalike :
    let q₁ := Query.and (.text .anywhere (.bare "a\"*")) (.text .sender (.quote "b) AND (c"))
    let q₂ := Query.and (.text .anywhere (.bare "a")) (.text .sender (.quote "b) AND (c"))
    let q₃ := Query.and (.text .anywhere (.bare "a")) (.text .sender (.bare "b) AND (c"))
    (q₁.isFielded ∧ q₂.isFielded ∧ q₃.isFielded) ∧
    (∀ w ∈ q₁.words ++ q₂.words ++ q₃.words, w.Contained) ∧
    Query.parse "a\"* from:\"b) AND (c\"" {} = .ok q₁ ∧
    q₁.lower ≠ q₂.lower ∧ q₂.lower = q₃.lower := by
  intro q₁ q₂ q₃
  have hwords : ∀ w ∈ q₁.words ++ q₂.words ++ q₃.words, w.Contained := by decide +kernel
  have hwords₁ : ∀ w ∈ q₁.words, w.Contained := fun w hw => hwords w (by simp [hw])
  have hwords₂ : ∀ w ∈ q₂.words, w.Contained := fun w hw => hwords w (by simp [hw])
  have hwords₃ : ∀ w ∈ q₃.words, w.Contained := fun w hw => hwords w (by simp [hw])
  have hother := (lower_eq_iff.1 q₁ q₂ rfl rfl hwords₁ hwords₂).2
  have hsame := (lower_eq_iff.1 q₂ q₃ rfl rfl hwords₂ hwords₃).2
  refine ⟨⟨rfl, rfl, rfl⟩, hwords, by decide +kernel, fun h => ?_, hsame.2 rfl⟩
  exact absurd (hother.1 h) (by decide)

/-- With both characters in a word, the end of the word can be anywhere. -/
example :
    (Query.and (.text .anywhere (.bare "a\"*) AND (\"b")) (.text .anywhere (.bare "c"))).lower =
      (Query.and (.text .anywhere (.bare "a"))
        (.text .anywhere (.bare "b\"*) AND (\"c"))).lower := by
  decide +kernel

end MailSearch
