import MailSearch.Proofs.Acceptance
import MailSearch.Proofs.UnknownValues

/-!
# Where a search is at fault

`Ending.Blames`: what the parser finds fault with is one of the lexemes that it was given, or the
way the text ends. Each rule is taken by itself, with what the rules below it blame as a hypothesis,
and `read_blames` puts them together by induction on the number of lexemes. A rule goes on with what
another one left, which is a part of what that one was given (`Grammar.ReadAs.rest_subset`).

`Scan.parse_error`: the text as a whole is empty, or one of these is at fault. Either way it is the
search text that is wrong, and not the program (`Query.parse_error_isSyntax`).
-/

namespace MailSearch

/-- A computation in two steps fails where one of them does. -/
theorem Except.bind_eq_error {ε α β : Type} {x : Except ε α} {f : α → Except ε β} {err : ε}
    (h : x >>= f = .error err) : x = .error err ∨ ∃ a, x = .ok a ∧ f a = .error err := by
  cases x with
  | error =>
    cases h
    exact .inl rfl
  | ok a => exact .inr ⟨a, rfl, h⟩

/-- A result that is changed afterwards fails where it failed before. -/
theorem Except.map_eq_error {ε α β : Type} {x : Except ε α} {f : α → β} {err : ε}
    (h : x.map f = .error err) : x = .error err := by
  cases x with
  | error =>
    cases h
    rfl
  | ok a => cases h

/-! ## Blame -/

/-- Another token where a parenthesis must be closed. -/
def Fault.isExpectedClose : Fault → Bool
  | expectedClose _ => true
  | _ => false

/-- What can be at fault: a lexeme, or the way the text ends. It is never that a query is followed
by something else than a closing parenthesis, for a query goes on until there is one. -/
inductive Ending.Blames (e : Ending) (ts : List Lexeme) : Error → Prop where
  | lexeme {l : Lexeme} (hl : l ∈ ts) (fault : Fault)
      (hfault : fault.isExpectedClose = false := by rfl) : Blames e ts (.parse l.position fault)
  | ending (fault : Fault) (hfault : fault.isExpectedClose = false := by rfl) :
      Blames e ts (e.error fault)

section
variable {o : ParseOptions} {e : Ending} {d n : Nat} {ts us : List Lexeme} {err : Error}

/-- An error that blames one of some lexemes blames one of more lexemes. -/
theorem Ending.Blames.mono (h : e.Blames ts err) (hsub : ts ⊆ us) : e.Blames us err := by
  cases h with
  | lexeme hl fault hfault => exact .lexeme (hsub hl) fault hfault
  | ending fault hfault => exact .ending fault hfault

/-- A text that may not end here is at fault for how it ends. -/
theorem Ending.blames_check (h : e.check = .error err) : e.Blames ts err := by
  cases e with
  | proper => cases h
  | openQuote position fragment =>
    cases h
    exact .ending .missingTerm

/-- Where a lexeme or the end is at fault, it is the text that is wrong. -/
theorem Ending.Blames.isSyntax (h : e.Blames ts err) : err.isSyntax := by
  cases h with
  | lexeme => rfl
  | ending => cases e <;> rfl

/-! ## Terms -/

/-- A missing colon is blamed on the lexeme in its place, or on the end. -/
theorem expectColon_blames {name : Token} (h : expectColon e name ts = .error err) :
    e.Blames ts err := by
  cases ts with
  | nil =>
    cases h
    exact .ending _
  | cons l ts =>
    rw [expectColon] at h
    split at h
    · cases h
    · cases h
      exact .lexeme (.head _) _

/-- A missing value is blamed on the lexeme in its place, or on the end. -/
theorem expectValue_blames {name : Token} (h : expectValue e name ts = .error err) :
    e.Blames ts err := by
  cases ts with
  | nil =>
    cases h
    exact .ending _
  | cons l ts =>
    rw [expectValue] at h
    split at h
    · cases h
      exact .lexeme (.head _) _
    · cases h

/-- A qualifier finds fault with nothing but its value. -/
theorem Qualifier.term_error {k : Qualifier} {name : Token} {v : Lexeme}
    (h : k.term o name v = .error err) :
    ∃ known, err = .parse v.position (.unknownValue name v.token known) := by
  have hunknown : ∀ {known}, unknown o name v known = .error err →
      ∃ known, err = .parse v.position (.unknownValue name v.token known) := by
    intro known h
    rw [unknown] at h
    split at h
    · cases h
      exact ⟨_, rfl⟩
    · cases h
  cases k with
  | field | date => cases h
  | state | possession =>
    simp only [term] at h
    split at h
    · cases h
    · exact hunknown h

/-- What a clause lacks, or an unknown value, is blamed on a lexeme after its first, or on the
end. -/
theorem clause_blames {first : Token} (h : clause o e first ts = .error err) :
    e.Blames ts err := by
  rw [clause] at h
  split at h
  · cases h
  next k _ =>
    rcases Except.bind_eq_error h with hcolon | ⟨us, hcolon, hafter⟩
    · exact expectColon_blames hcolon
    obtain ⟨c, hts, -⟩ := expectColon_eq_ok.1 hcolon
    rcases Except.bind_eq_error hafter with hvalue | ⟨⟨v, rest⟩, hvalue, hlast⟩
    · rw [hts]
      exact (expectValue_blames hvalue).mono (List.subset_cons_self _ _)
    obtain ⟨hus, -⟩ := expectValue_eq_ok.1 hvalue
    rcases Except.bind_eq_error hlast with hterm | ⟨q, -, hpure⟩
    · obtain ⟨known, rfl⟩ := Qualifier.term_error hterm
      rw [hts, hus]
      exact .lexeme (.tail _ (.head _)) _
    · cases hpure

/-! ## The rules -/

open MailSearch.Parser Grammar

/-- What a rule leaves is a part of what it was given. -/
theorem Grammar.ReadAs.rest_subset {term : List Token → Query → Prop} {rule : Rule} {p : Progress}
    (h : ReadAs o term rule n ts p) : p.rest ⊆ ts := by
  obtain ⟨used, rfl, -⟩ := h.derived
  exact List.subset_append_right _ _

/-- The lexemes of the next operand stand among those after the last one. -/
theorem joint_subset (ts : List Lexeme) : (joint ts).2 ⊆ ts := by
  rcases joint_cases ts with ⟨ws, -, -, hts⟩ | ⟨ws, l, -, -, -, hts⟩
  · intro x hx
    rw [hts]
    exact List.mem_append_right _ hx
  · intro x hx
    rw [hts]
    exact List.mem_append_right _ (.tail _ hx)

/-- A group blames its opening parenthesis for what it lacks, and a lexeme inside for the rest. -/
theorem readGroup_blames {l : Lexeme}
    (ih : ∀ d n err, readQuery o e d n ts = .error err → e.Blames ts err)
    (h : readGroup o e d n ts l.position = .error err) : e.Blames (l :: ts) err := by
  rw [readGroup_eq] at h
  split at h
  · cases h
    exact .lexeme (.head _) _
  · rcases Except.bind_eq_error h with hq | ⟨found, hq, h⟩
    · exact (ih _ _ _ hq).mono (List.subset_cons_self _ _)
    cases found with
    | none =>
      cases h
      exact .lexeme (.head _) _
    | some inner =>
      have hinner := (read_sound (readsTerms o) e ts _ _).2.2.2 _ hq
      cases hrest : inner.rest with
      | nil =>
        simp only [hrest] at h
        cases h
        exact .lexeme (.head _) _
      | cons c rest =>
        -- What a query stops at closes the group.
        have hclose : c.token.isKeyword ")" := hinner.stops c (by rw [hrest]; rfl)
        simp only [hrest, hclose, if_true] at h
        cases h

/-- Step for simple queries: the fault of a group or of a clause, or of the first lexeme. -/
theorem readSimple_blames
    (ih : ∀ us : List Lexeme, us.length < ts.length → ∀ d n err,
      readQuery o e d n us = .error err → e.Blames us err)
    (h : readSimple o e d n ts = .error err) : e.Blames ts err := by
  cases ts with
  | nil =>
    rw [readSimple_nil] at h
    cases h
    exact .ending _
  | cons l ts =>
    rw [readSimple_cons] at h
    split at h
    · exact readGroup_blames (ih ts (Nat.lt_succ_self _)) h
    · split at h
      · cases h
        exact .lexeme (.head _) _
      · split at h
        · cases h
          exact .lexeme (.head _) _
        · split at h
          · cases h
            exact .lexeme (.head _) _
          · exact (clause_blames (Except.map_eq_error h)).mono (List.subset_cons_self _ _)

/-- Step for disjunctions: the fault of the simple query, or of what is read after the `or`. -/
theorem readDisjunction_blames
    (hs : ∀ err, readSimple o e d n ts = .error err → e.Blames ts err)
    (ih : ∀ us : List Lexeme, us.length < ts.length → ∀ n err,
      readDisjunction o e d n us = .error err → e.Blames us err)
    (h : readDisjunction o e d n ts = .error err) : e.Blames ts err := by
  rw [readDisjunction_eq] at h
  rcases Except.bind_eq_error h with hfirst | ⟨first, hfirst, h⟩
  · exact hs err hfirst
  have hf := (read_sound (readsTerms o) e ts d n).1 first hfirst
  have hlt := hf.length_lt (TermUnder.shape _)
  have hsub := hf.rest_subset
  cases hrest : first.rest with
  | nil =>
    simp only [hrest] at h
    rcases Except.bind_eq_error h with hend | ⟨-, -, h⟩
    · exact Ending.blames_check hend
    · cases h
  | cons l tail =>
    rw [hrest] at hlt hsub
    simp only [hrest] at h
    split at h
    · rcases Except.bind_eq_error h with hnext | ⟨next, -, h⟩
      · have hlen : tail.length < ts.length := Nat.lt_of_succ_lt hlt
        exact (ih tail hlen _ _ hnext).mono fun x hx => hsub (.tail _ hx)
      · cases h
    · cases h

/-- Step for conjunctions: the fault of the disjunction, or of what is read after the words that
join the two. -/
theorem readConjunction_blames
    (hs : ∀ err, readDisjunction o e d n ts = .error err → e.Blames ts err)
    (ih : ∀ us : List Lexeme, us.length < ts.length → ∀ n err,
      readConjunction o e d n us = .error err → e.Blames us err)
    (h : readConjunction o e d n ts = .error err) : e.Blames ts err := by
  rw [readConjunction_eq] at h
  rcases Except.bind_eq_error h with hfirst | ⟨first, hfirst, h⟩
  · exact hs err hfirst
  have hf := (read_sound (readsTerms o) e ts d n).2.1 first hfirst
  have hlt := hf.length_lt (TermUnder.shape _)
  have hsub := hf.rest_subset
  cases hrest : first.rest with
  | nil =>
    simp only [hrest] at h
    cases h
  | cons l tail =>
    rw [hrest] at hlt hsub
    simp only [hrest] at h
    split at h
    · cases h
    · rcases Except.bind_eq_error h with hnext | ⟨next, -, h⟩
      · have hlen := Nat.lt_of_le_of_lt (joint_length_le (l :: tail)) hlt
        exact (ih _ hlen _ _ hnext).mono fun x hx => hsub (joint_subset _ hx)
      · cases h

/-- Step for queries: the fault of the conjunction, or of the query after it. -/
theorem readQuery_blames
    (hs : ∀ err, readConjunction o e d n ts = .error err → e.Blames ts err)
    (ih : ∀ us : List Lexeme, us.length < ts.length → ∀ n err,
      readQuery o e d n us = .error err → e.Blames us err)
    (h : readQuery o e d n ts = .error err) : e.Blames ts err := by
  cases ts with
  | nil =>
    rw [readQuery_nil] at h
    exact Ending.blames_check (Except.map_eq_error h)
  | cons l ts =>
    rw [readQuery_cons] at h
    split at h
    · cases h
    · rcases Except.bind_eq_error h with hfirst | ⟨first, hfirst, h⟩
      · exact hs err hfirst
      have hf := (read_sound (readsTerms o) e (l :: ts) d n).2.2.1 first hfirst
      rcases Except.bind_eq_error h with hmore | ⟨more, -, h⟩
      · exact (ih _ (hf.length_lt (TermUnder.shape _)) _ _ hmore).mono hf.rest_subset
      · cases more <;> cases h

/-- **What is at fault is one of the lexemes or the end**, for each rule of the parser. -/
theorem read_blames (o : ParseOptions) (e : Ending) (ts : List Lexeme) : ∀ d n,
    (∀ err, readSimple o e d n ts = .error err → e.Blames ts err) ∧
    (∀ err, readDisjunction o e d n ts = .error err → e.Blames ts err) ∧
    (∀ err, readConjunction o e d n ts = .error err → e.Blames ts err) ∧
    (∀ err, readQuery o e d n ts = .error err → e.Blames ts err) := by
  -- As in `read_sound`, a rule calls the next one on the same lexemes and itself on fewer.
  induction hlen : ts.length using Nat.strongRecOn generalizing ts with
  | ind m ih =>
    subst hlen
    intro d n
    have hsimple : ∀ err, readSimple o e d n ts = .error err → e.Blames ts err := fun _ =>
      readSimple_blames fun us hlt d n err h => (ih _ hlt us rfl d n).2.2.2 err h
    have hdisj : ∀ err, readDisjunction o e d n ts = .error err → e.Blames ts err := fun _ =>
      readDisjunction_blames hsimple fun us hlt n err h => (ih _ hlt us rfl d n).2.1 err h
    have hconj : ∀ err, readConjunction o e d n ts = .error err → e.Blames ts err := fun _ =>
      readConjunction_blames hdisj fun us hlt n err h => (ih _ hlt us rfl d n).2.2.1 err h
    have hquery : ∀ err, readQuery o e d n ts = .error err → e.Blames ts err := fun _ =>
      readQuery_blames hconj fun us hlt n err h => (ih _ hlt us rfl d n).2.2.2 err h
    exact ⟨hsimple, hdisj, hconj, hquery⟩

end

/-! ## Whole texts -/

open MailSearch.Parser Grammar

/-- A text that is no search is empty, or a lexeme of it or its end is at fault. -/
theorem Scan.parse_error {s : Scan} {o : ParseOptions} {err : Error} (h : s.parse o = .error err) :
    (err = .empty ∧ s.lexemes = []) ∨ s.ending.Blames s.lexemes err := by
  rw [Scan.parse_eq] at h
  rcases Except.bind_eq_error h with hread | ⟨found, hread, h⟩
  · exact .inr ((read_blames o s.ending s.lexemes 0 0).2.2.2 err hread)
  cases found with
  | none =>
    cases hls : s.lexemes with
    | nil =>
      simp only [hls] at h
      cases h
      exact .inl ⟨rfl, rfl⟩
    | cons l ls =>
      simp only [hls] at h
      cases h
      exact .inr (.lexeme (.head _) _)
  | some p =>
    have hp := (read_sound (readsTerms o) s.ending s.lexemes 0 0).2.2.2 p hread
    cases hrest : p.rest with
    | nil =>
      simp only [hrest] at h
      cases h
    | cons l rest =>
      simp only [hrest] at h
      cases h
      exact .inr (.lexeme (hp.rest_subset (by rw [hrest]; exact .head _)) _)

/-- **A text that is no search is itself at fault.** -/
theorem Query.parse_error_isSyntax {text : String} {o : ParseOptions} {err : Error}
    (h : Query.parse text o = .error err) : err.isSyntax := by
  rcases Scan.parse_error h with ⟨rfl, -⟩ | hblames
  · rfl
  · exact hblames.isSyntax

end MailSearch
