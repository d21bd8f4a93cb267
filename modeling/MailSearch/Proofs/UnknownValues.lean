import MailSearch.Proofs.Clauses

/-!
# Terms with unknown values

A value that `is:` or `has:` does not know is an error, or its clause is searched for as a word. The
grammar has the second kind of term only where the options ask for it (`Grammar.TermUnder`), and
with that `readsTerms` says for all options what `readsTerms_reject` says for those that reject:
reading a term and deriving it are the same.
-/

namespace MailSearch

namespace Grammar

/-- The words with a fixed list of values. -/
def fixedWords : List (String × Qualifier) :=
  [("is", .state), ("has", .possession)]

/-- The terms, when `u` is what becomes of an unknown value. -/
inductive TermUnder (u : UnknownValue) : List Token → Query → Prop where
  /-- A term that is one under all options. -/
  | known {ts : List Token} {q : Query} (h : Term anyValue ts q) : TermUnder u ts q
  /-- A clause that is searched for as a word. The quotes around its value are dropped. -/
  | unknown {w : String} {k : Qualifier} {t c v : Token} (hu : u = .literal)
      (hw : (w, k) ∈ fixedWords) (ht : t.isKeyword w) (hc : c.isKeyword ":")
      (hv : v.isDelimiter = false)
      (hnone : ∀ name q, (w, name, q) ∈ values → anyValue v name = false) :
      TermUnder u [t, c, v] (.text .anywhere (.bare (t.display ++ ":" ++ v.text)))

end Grammar

open Grammar

/-! ## Reading an unknown value -/

namespace Qualifier

variable {o : ParseOptions} {t : Token} {v : Lexeme} {k : Qualifier} {q : Query}

/-- The value is not among those that the qualifier knows. -/
def Unknown (k : Qualifier) (v : Token) : Prop :=
  (k = .state ∧ choose states v = none) ∨ (k = .possession ∧ choose possessions v = none)

/-- Nothing is chosen if the value has none of the names that are known. -/
theorem choose_eq_none {known : List (String × Query)} {v : Token} :
    choose known v = none ↔ ∀ name q, (name, q) ∈ known → anyValue v name = false := by
  rw [choose, Option.map_eq_none_iff, List.find?_eq_none]
  simp only [Prod.forall, Bool.not_eq_true]
  rfl

/-- An unknown value is read only where it is taken literally, as a text that holds the qualifier
too. -/
theorem unknown_eq_ok {known : List String} :
    unknown o t v known = .ok q ↔ o.unknownValue = .literal ∧
      q = .text .anywhere (.bare (t.display ++ ":" ++ v.token.text)) := by
  rw [unknown]
  cases o.unknownValue with
  | reject => simp
  | literal => simp [eq_comm]

/-- A qualifier gives what it gives where unknown values are rejected, or else it takes an unknown
value for a part of a word. -/
theorem term_eq_ok :
    k.term o t v = .ok q ↔ k.term { o with unknownValue := .reject } t v = .ok q ∨
      o.unknownValue = .literal ∧ k.Unknown v.token ∧
        q = .text .anywhere (.bare (t.display ++ ":" ++ v.token.text)) := by
  cases k with
  | field | date => simp [term, Unknown]
  | state =>
    cases hchoose : choose states v.token with
    | none => simp [term, hchoose, unknown_eq_ok, Unknown]
    | some known => simp [term, hchoose, Unknown]
  | possession =>
    cases hchoose : choose possessions v.token with
    | none => simp [term, hchoose, unknown_eq_ok, Unknown]
    | some known => simp [term, hchoose, Unknown]

/-- The values that are unknown are those that the grammar has no entry for. -/
theorem unknown_iff {w : String} {k : Qualifier} (hw : (w, k) ∈ fixedWords) {v : Token} :
    k.Unknown v ↔ ∀ name q, (w, name, q) ∈ values → anyValue v name = false := by
  simp only [fixedWords, List.mem_cons, Prod.mk.injEq, List.not_mem_nil, or_false] at hw
  rcases hw with ⟨rfl, rfl⟩ | ⟨rfl, rfl⟩ <;>
    simp [Unknown, choose_eq_none, values, states, possessions]

/-- Only the words with a fixed list of values can have an unknown one. -/
theorem Unknown.fixed {w : String} {k : Qualifier} {v : Token} (h : k.Unknown v) :
    (w, k) ∈ table ↔ (w, k) ∈ fixedWords := by
  rcases h with ⟨rfl, -⟩ | ⟨rfl, -⟩ <;> simp [table, fixedWords]

end Qualifier

namespace Grammar

/-! ## All options -/

/-- No qualifier that has fixed values is named like a delimiter or an operator. -/
theorem fixedWords_ordinary : ∀ entry ∈ fixedWords, isOrdinary entry.1 := by decide

/-- Terms have the shape that the derivations need, whatever is done about unknown values. -/
theorem TermUnder.shape (u : UnknownValue) : TermShape (TermUnder u) where
  leaf h := by
    cases h with
    | known h => exact (Term.shape id).leaf h
    | unknown => rfl
  head h := by
    cases h with
    | known h => exact (Term.shape id).head h
    | @unknown w k t c v _ hw ht => exact ⟨t, _, rfl, not_special (fixedWords_ordinary _ hw) ht⟩
  flat h := by
    cases h with
    | known h => exact (Term.shape id).flat h
    | unknown _ hw ht hc hv =>
      exact qualified_flat (not_special (fixedWords_ordinary _ hw) ht).1 hc hv

/-- **What is read as a term is what the grammar derives**, under all options. -/
theorem readsTerms (o : ParseOptions) : ReadsTerms o (TermUnder o.unknownValue) where
  toTermShape := TermUnder.shape _
  clause_iff := by
    intro e t ts rest q hdelim hop
    have hreject : clause { o with unknownValue := .reject } e t ts = .ok (q, rest) ↔
        ∃ used, ts = used ++ rest ∧ Term anyValue (t :: used.map Lexeme.token) q :=
      (readsTerms_reject rfl).clause_iff hdelim hop
    rw [clause_eq_ok] at hreject ⊢
    constructor
    · rintro (hword | ⟨k, c, v, hk, rfl, hc, hv, hterm⟩)
      · obtain ⟨used, hts, h⟩ := hreject.1 (.inl hword)
        exact ⟨used, hts, .known h⟩
      · rcases Qualifier.term_eq_ok.1 hterm with hterm | ⟨hu, hunknown, rfl⟩
        · obtain ⟨used, hts, h⟩ := hreject.1 (.inr ⟨k, c, v, hk, rfl, hc, hv, hterm⟩)
          exact ⟨used, hts, .known h⟩
        · obtain ⟨w, hw, ht⟩ := Qualifier.ofToken?_eq_some.1 hk
          have hfixed := hunknown.fixed.1 hw
          exact ⟨[c, v], rfl,
            .unknown hu hfixed ht hc hv ((Qualifier.unknown_iff hfixed).1 hunknown)⟩
    · rintro ⟨used, rfl, h⟩
      generalize hts : t :: used.map Lexeme.token = toks at h
      cases h with
      | known h =>
        subst hts
        rcases hreject.2 ⟨used, rfl, h⟩ with hword | ⟨k, c, v, hk, hts, hc, hv, hterm⟩
        · exact .inl hword
        · exact .inr ⟨k, c, v, hk, hts, hc, hv, Qualifier.term_eq_ok.2 (.inl hterm)⟩
      | @unknown w k _ c v hu hw ht hc hv hnone =>
        obtain ⟨rfl, hused⟩ := List.cons.inj hts
        have hunknown := (Qualifier.unknown_iff hw).2 hnone
        refine .inr (clause_qualified hused (hunknown.fixed.2 hw) ht hc hv fun l hl => ?_)
        rw [← hl] at hunknown ⊢
        exact Qualifier.term_eq_ok.2 (.inr ⟨hu, hunknown, rfl⟩)

end Grammar

end MailSearch
