import MailSearch.Proofs.Grammar
import MailSearch.Proofs.Rules

/-!
# The terms that are read

`clause` finds qualifiers and values by looking through tables, and the grammar lists what a word
asks for. The tables hold every word once, so the first entry that fits is the only one
(`find?_word`), and with that reading a term and deriving it are the same: `ReadsTerms` says so of
options and a notion of term, and `readsTerms_reject` proves it for the options that reject unknown
values. There a value counts whether it stands between quotes or not (`Grammar.anyValue`).
-/

namespace MailSearch

/-! ## Tables of words -/

/-- Looking through a table that holds every word once finds the entry that fits, where a text fits
at most one word. -/
theorem find?_word {β : Type} {p : String → Bool}
    (hp : ∀ {w : String}, p w → ∀ x, p x = Text.sameWord w x) {table : List (String × β)}
    (hd : table.Pairwise fun a b => Text.sameWord b.1 a.1 = false) {b : β} :
    (table.find? fun entry => p entry.1).map Prod.snd = some b ↔ ∃ w, (w, b) ∈ table ∧ p w := by
  induction hd with
  | nil => simp
  | @cons entry table hfirst _ ih =>
    cases hpe : p entry.1 with
    | false =>
      rw [List.find?_cons_of_neg (by simp [hpe]), ih]
      constructor
      · rintro ⟨w, hw, hpw⟩
        exact ⟨w, .tail _ hw, hpw⟩
      · rintro ⟨w, hw, hpw⟩
        cases hw with
        | head => rw [hpe] at hpw; cases hpw
        | tail _ hw => exact ⟨w, hw, hpw⟩
    | true =>
      rw [List.find?_cons_of_pos (by simp [hpe])]
      constructor
      · intro h
        obtain rfl := Option.some.inj h
        exact ⟨entry.1, .head _, hpe⟩
      · rintro ⟨w, hw, hpw⟩
        cases hw with
        | head => rfl
        | tail _ hw =>
          have hother := hfirst _ hw
          rw [← hp hpw, hpe] at hother
          cases hother

namespace Qualifier

/-- The qualifiers are the words of the table, written without quotes and in any case. -/
theorem ofToken?_eq_some {t : Token} {k : Qualifier} :
    ofToken? t = some k ↔ ∃ w, (w, k) ∈ table ∧ t.isKeyword w :=
  find?_word Token.isKeyword_congr (by decide)

/-- The states are told by their names alone, quoted or not. -/
theorem choose_states {v : Token} {q : Query} :
    choose states v = some q ↔ ∃ name, (name, q) ∈ states ∧ Text.sameWord v.text name :=
  find?_word Text.sameWord_congr (by decide)

/-- The possessions are told by their names alone, quoted or not. -/
theorem choose_possessions {v : Token} {q : Query} :
    choose possessions v = some q ↔ ∃ name, (name, q) ∈ possessions ∧ Text.sameWord v.text name :=
  find?_word Text.sameWord_congr (by decide)

/-- What a qualifier asks for when unknown values are rejected. -/
theorem term_reject {o : ParseOptions} (ho : o.unknownValue = .reject) {t : Token} {v : Lexeme}
    {k : Qualifier} {q : Query} :
    k.term o t v = .ok q ↔
      (∃ f, k = .field f ∧ q = .text f v.token) ∨ (∃ d, k = .date d ∧ q = .date v.token d) ∨
      (k = .state ∧ choose states v.token = some q) ∨
      (k = .possession ∧ choose possessions v.token = some q) := by
  cases k with
  | field f => simp [term, eq_comm]
  | date d => simp [term, eq_comm]
  | state =>
    simp only [term]
    split <;> simp_all [unknown]
  | possession =>
    simp only [term]
    split <;> simp_all [unknown]

end Qualifier

/-! ## One term -/

/-- A colon is found exactly where one stands, and it alone is taken. -/
theorem expectColon_eq_ok {e : Ending} {t : Token} {ts us : List Lexeme} :
    expectColon e t ts = .ok us ↔ ∃ c, ts = c :: us ∧ c.token.isKeyword ":" := by
  constructor
  · intro h
    unfold expectColon at h
    split at h
    · cases h
    · split at h
      next hc => cases h; exact ⟨_, rfl, hc⟩
      next => cases h
  · rintro ⟨c, rfl, hc⟩
    rw [expectColon, if_pos hc]

/-- A value is whatever token stands there, a delimiter apart. -/
theorem expectValue_eq_ok {e : Ending} {t : Token} {ts rest : List Lexeme} {v : Lexeme} :
    expectValue e t ts = .ok (v, rest) ↔ ts = v :: rest ∧ v.token.isDelimiter = false := by
  constructor
  · intro h
    unfold expectValue at h
    split at h
    · cases h
    · split at h
      next => cases h
      next hv => cases h; exact ⟨rfl, Bool.eq_false_iff.2 hv⟩
  · rintro ⟨rfl, hv⟩
    rw [expectValue, if_neg (Bool.eq_false_iff.1 hv)]

/-- A term is one token that is no qualifier, or a qualifier, a colon and a value. -/
theorem clause_eq_ok {o : ParseOptions} {e : Ending} {t : Token} {ts rest : List Lexeme}
    {q : Query} :
    clause o e t ts = .ok (q, rest) ↔
      (Qualifier.ofToken? t = none ∧ q = .text .anywhere t ∧ ts = rest) ∨
      ∃ k c v, Qualifier.ofToken? t = some k ∧ ts = c :: v :: rest ∧ c.token.isKeyword ":" ∧
        v.token.isDelimiter = false ∧ k.term o t v = .ok q := by
  rw [clause]
  cases hk : Qualifier.ofToken? t with
  | none =>
    constructor
    · intro h
      cases h
      exact .inl ⟨rfl, rfl, rfl⟩
    · rintro (⟨-, rfl, rfl⟩ | ⟨k, _, _, hsome, -⟩)
      · rfl
      · cases hsome
  | some k =>
    constructor
    · intro h
      obtain ⟨us, hcolon, h⟩ := Except.bind_eq_ok h
      obtain ⟨⟨v, rest'⟩, hvalue, h⟩ := Except.bind_eq_ok h
      obtain ⟨q', hterm, h⟩ := Except.bind_eq_ok h
      cases h
      obtain ⟨c, rfl, hc⟩ := expectColon_eq_ok.1 hcolon
      obtain ⟨rfl, hv⟩ := expectValue_eq_ok.1 hvalue
      exact .inr ⟨k, c, v, rfl, rfl, hc, hv, hterm⟩
    · rintro (⟨hnone, -⟩ | ⟨k', c, v, hsome, rfl, hc, hv, hterm⟩)
      · cases hnone
      · cases hsome
        have hcolon : expectColon e t (c :: v :: rest) = .ok (v :: rest) :=
          expectColon_eq_ok.2 ⟨c, rfl, hc⟩
        have hvalue : expectValue e t (v :: rest) = .ok (v, rest) :=
          expectValue_eq_ok.2 ⟨rfl, hv⟩
        simp only [hcolon, hvalue, hterm, bind, Except.bind]
        rfl

namespace Grammar

/-! ## Terms read and terms derived -/

/-- `clause` reads exactly the terms. -/
structure ReadsTerms (o : ParseOptions) (term : List Token → Query → Prop) : Prop
    extends TermShape term where
  clause_iff : ∀ {e : Ending} {t : Token} {ts rest : List Lexeme} {q : Query},
    t.isDelimiter = false → t.isOperator = false →
    (clause o e t ts = .ok (q, rest) ↔
      ∃ used, ts = used ++ rest ∧ term (t :: used.map Lexeme.token) q)

/-- The texts that can be searched for as they stand are those the parser takes for a text. -/
theorem isText_iff {t : Token} :
    IsText t ↔ t.isDelimiter = false ∧ t.isOperator = false ∧ Qualifier.ofToken? t = none := by
  rw [IsText, Qualifier.ofToken?, Option.map_eq_none_iff, List.find?_eq_none]
  simp only [keywords, Token.isOperator, Qualifier.table, List.forall_mem_cons,
    Bool.or_eq_false_iff, Bool.not_eq_true, List.not_mem_nil]
  grind

/-- A word that is neither delimiter nor operator. -/
def isOrdinary (w : String) : Bool :=
  !(["(", ")", ":", "and", "or", "not"].any (Text.sameWord w))

/-- A token that is spelled like an ordinary word is neither a delimiter nor an operator. -/
theorem not_special {w : String} (hw : isOrdinary w) {t : Token} (ht : t.isKeyword w) :
    t.isDelimiter = false ∧ t.isOperator = false := by
  simp only [isOrdinary, List.any_cons, List.any_nil, Bool.or_false, Bool.not_eq_true',
    Bool.or_eq_false_iff] at hw
  simp [Token.isDelimiter_eq, Token.isOperator, Token.isKeyword_congr ht, hw]

/-- A value is a word, so it is no delimiter. -/
theorem anyValue_not_delimiter {name : String} (hname : isOrdinary name) {v : Token}
    (hv : anyValue v name) : v.isDelimiter = false := by
  cases hquoted : v.quoted with
  | true => rw [Token.isDelimiter, hquoted]; rfl
  | false =>
    refine (not_special hname ?_).1
    rw [Token.isKeyword, hquoted]
    exact hv

/-- No field is named like a delimiter or an operator. -/
theorem fields_ordinary : ∀ entry ∈ fields, isOrdinary entry.1 := by decide

/-- No direction of dates is named like a delimiter or an operator. -/
theorem dates_ordinary : ∀ entry ∈ dates, isOrdinary entry.1 := by decide

/-- Neither the qualifiers that have fixed values nor the values are named like a delimiter or an
operator, and each value stands for one leaf. -/
theorem values_ordinary : ∀ entry ∈ values,
    isOrdinary entry.1 ∧ isOrdinary entry.2.1 ∧ entry.2.2.leafCount = 1 := by decide

/-- A value between quotes is the only thing the grammar with keywords for values refuses. -/
theorem anyValue_of_unquotedValue {v : Token} {name : String} (h : unquotedValue v name) :
    anyValue v name := by
  rw [unquotedValue, Token.isKeyword, Bool.and_eq_true] at h
  exact h.2

/-- A qualifier, a colon and a value hold no parenthesis. -/
theorem qualified_flat {t c v : Token} (ht : t.isDelimiter = false) (hc : c.isKeyword ":")
    (hv : v.isDelimiter = false) :
    ∀ u ∈ [t, c, v], u.isKeyword "(" = false ∧ u.isKeyword ")" = false := by
  intro u hu
  simp only [List.mem_cons, List.not_mem_nil, or_false] at hu
  rcases hu with rfl | rfl | rfl
  · exact Token.not_parenthesis ht
  · exact ⟨Token.isKeyword_congr hc _, Token.isKeyword_congr hc _⟩
  · exact Token.not_parenthesis hv

/-- Terms have the shape that the derivations need, whichever spellings of the fixed values are
allowed. -/
theorem Term.shape {spells : Token → String → Bool}
    (hs : ∀ {v name}, spells v name → anyValue v name) : TermShape (Term spells) where
  leaf h := by
    cases h with
    | word | field | date => rfl
    | value hw => exact (values_ordinary _ hw).2.2
  head h := by
    cases h with
    | @word t ht =>
      obtain ⟨hd, ho, -⟩ := isText_iff.1 ht
      exact ⟨t, [], rfl, hd, ho⟩
    | @field w f t c v hw ht => exact ⟨t, _, rfl, not_special (fields_ordinary _ hw) ht⟩
    | @date w d t c v hw ht => exact ⟨t, _, rfl, not_special (dates_ordinary _ hw) ht⟩
    | @value w name q t c v hw ht => exact ⟨t, _, rfl, not_special (values_ordinary _ hw).1 ht⟩
  flat h := by
    cases h with
    | @word t ht =>
      intro u hu
      obtain rfl := List.mem_singleton.1 hu
      exact Token.not_parenthesis ht.1
    | field hw ht hc hv => exact qualified_flat (not_special (fields_ordinary _ hw) ht).1 hc hv
    | date hw ht hc hv => exact qualified_flat (not_special (dates_ordinary _ hw) ht).1 hc hv
    | value hw ht hc hv =>
      obtain ⟨hword, hname, -⟩ := values_ordinary _ hw
      exact qualified_flat (not_special hword ht).1 hc (anyValue_not_delimiter hname (hs hv))

/-- The words of the grammar for fields are those of the table. -/
theorem mem_fields {w : String} {f : Field} :
    (w, f) ∈ fields ↔ (w, .field f) ∈ Qualifier.table := by
  simp [fields, Qualifier.table]

/-- The words of the grammar for dates are those of the table. -/
theorem mem_dates {w : String} {d : Direction} :
    (w, d) ∈ dates ↔ (w, .date d) ∈ Qualifier.table := by
  simp [dates, Qualifier.table]

/-- The fixed values of the grammar are the states and the possessions, each after a word of the
table. -/
theorem mem_values {w name : String} {q : Query} :
    (w, name, q) ∈ values ↔
      ((w, .state) ∈ Qualifier.table ∧ (name, q) ∈ Qualifier.states) ∨
      ((w, .possession) ∈ Qualifier.table ∧ (name, q) ∈ Qualifier.possessions) := by
  simp [values, Qualifier.table, Qualifier.states, Qualifier.possessions]
  grind

/-- A qualifier, a colon and a value, as the parser looks at them. -/
theorem clause_qualified {o : ParseOptions} {t c v : Token} {w : String} {k : Qualifier} {q : Query}
    {used rest : List Lexeme} (hused : used.map Lexeme.token = [c, v])
    (hw : (w, k) ∈ Qualifier.table) (ht : t.isKeyword w) (hc : c.isKeyword ":")
    (hv : v.isDelimiter = false) (hterm : ∀ l : Lexeme, l.token = v → k.term o t l = .ok q) :
    ∃ k c v, Qualifier.ofToken? t = some k ∧ used ++ rest = c :: v :: rest ∧
      c.token.isKeyword ":" ∧ v.token.isDelimiter = false ∧ k.term o t v = .ok q := by
  obtain ⟨c, us, rfl, rfl, hus⟩ := List.map_eq_cons_iff.1 hused
  obtain ⟨v, rfl, rfl⟩ := List.map_eq_singleton_iff.1 hus
  exact ⟨k, c, v, Qualifier.ofToken?_eq_some.2 ⟨w, hw, ht⟩, rfl, hc, hv, hterm v rfl⟩

/-- Where unknown values are rejected, what is read as a term is what the grammar derives, with or
without quotes around the value. -/
theorem readsTerms_reject {o : ParseOptions} (ho : o.unknownValue = .reject) :
    ReadsTerms o (Term anyValue) where
  toTermShape := Term.shape id
  clause_iff := by
    intro e t ts rest q hdelim hop
    rw [clause_eq_ok]
    constructor
    · rintro (⟨hnone, rfl, rfl⟩ | ⟨k, c, v, hk, rfl, hc, hv, hterm⟩)
      · exact ⟨[], rfl, .word (isText_iff.2 ⟨hdelim, hop, hnone⟩)⟩
      · obtain ⟨w, hw, ht⟩ := Qualifier.ofToken?_eq_some.1 hk
        refine ⟨[c, v], rfl, ?_⟩
        rcases (Qualifier.term_reject ho).1 hterm with
          ⟨f, rfl, rfl⟩ | ⟨d, rfl, rfl⟩ | ⟨rfl, hq⟩ | ⟨rfl, hq⟩
        · exact .field (mem_fields.2 hw) ht hc hv
        · exact .date (mem_dates.2 hw) ht hc hv
        · obtain ⟨name, hname, hv⟩ := Qualifier.choose_states.1 hq
          exact .value (mem_values.2 (.inl ⟨hw, hname⟩)) ht hc hv
        · obtain ⟨name, hname, hv⟩ := Qualifier.choose_possessions.1 hq
          exact .value (mem_values.2 (.inr ⟨hw, hname⟩)) ht hc hv
    · rintro ⟨used, rfl, h⟩
      generalize hts : t :: used.map Lexeme.token = toks at h
      cases h with
      | word ht =>
        obtain ⟨rfl, hused⟩ := List.cons.inj hts
        obtain rfl := List.map_eq_nil_iff.1 hused
        exact .inl ⟨(isText_iff.1 ht).2.2, rfl, rfl⟩
      | field hw ht hc hv =>
        obtain ⟨rfl, hused⟩ := List.cons.inj hts
        exact .inr (clause_qualified hused (mem_fields.1 hw) ht hc hv fun l hl => by rw [← hl]; rfl)
      | date hw ht hc hv =>
        obtain ⟨rfl, hused⟩ := List.cons.inj hts
        exact .inr (clause_qualified hused (mem_dates.1 hw) ht hc hv fun l hl => by rw [← hl]; rfl)
      | @value w name q _ c v hw ht hc hv =>
        obtain ⟨rfl, hused⟩ := List.cons.inj hts
        have hdelim := anyValue_not_delimiter (values_ordinary _ hw).2.1 hv
        refine .inr ?_
        rcases mem_values.1 hw with ⟨hk, hname⟩ | ⟨hk, hname⟩
        · refine clause_qualified hused hk ht hc hdelim fun l hl => (Qualifier.term_reject ho).2 ?_
          have hq := Qualifier.choose_states.2 ⟨name, hname, hv⟩
          rw [← hl] at hq
          exact .inr (.inr (.inl ⟨rfl, hq⟩))
        · refine clause_qualified hused hk ht hc hdelim fun l hl => (Qualifier.term_reject ho).2 ?_
          have hq := Qualifier.choose_possessions.2 ⟨name, hname, hv⟩
          rw [← hl] at hq
          exact .inr (.inr (.inr ⟨rfl, hq⟩))

end Grammar

end MailSearch
