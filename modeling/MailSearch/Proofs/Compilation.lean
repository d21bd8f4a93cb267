import MailSearch.Compiler
import MailSearch.Proofs.Condensing
import MailSearch.Proofs.Emission
import MailSearch.Proofs.Faults

/-!
# Only the search text can make a compilation fail

A search is parsed, condensed and written as SQL, and each of these passes can fail.
`only_syntax_fails`: the last two never do when they come after one another. Every tree can be
condensed, and that leaves no text leaf (`Query.condense_isCondensed`), and a text leaf is all that
the generator fails on
(`Generator.emit_error`). What is left are the faults of the search text itself, which are never
violations (`Query.parse_error_isSyntax`).
-/

namespace MailSearch

namespace Query

/-- The leaves of a tree, from left to right. -/
def leaves : Query → List Query
  | and l r | or l r | butNot l r => l.leaves ++ r.leaves
  | text f w => [text f w]
  | flag f status => [flag f status]
  | attachment => [attachment]
  | date phrase direction => [date phrase direction]
  | fullText raw => [fullText raw]

/-- A tree is condensed if none of its leaves is a text leaf. -/
theorem isCondensed_iff {q : Query} : q.isCondensed ↔ ∀ f w, text f w ∉ q.leaves := by
  induction q with
  | and l r ihl ihr | or l r ihl ihr | butNot l r ihl ihr =>
    simp only [isCondensed, Bool.and_eq_true, ihl, ihr, leaves, List.mem_append, not_or,
      ← forall_and]
  | text f w => simp [isCondensed, leaves]
  | flag | attachment | date | fullText => simp [isCondensed, leaves]

/-! ## Condensing -/

/-- What a tree is condensed to has no text leaf. -/
theorem Condenses.isCondensed {q c : Query} (h : Condenses q c) : c.isCondensed := by
  induction h with
  | fold | flag | attachment | date | fullText => rfl
  | and _ _ _ ihl ihr | or _ _ _ ihl ihr | butNot _ _ ihl ihr =>
    rw [Query.isCondensed, ihl, ihr]
    rfl

/-- **Every tree can be condensed**, and then it is condensed. -/
theorem condense_isCondensed (q : Query) : ∃ c, q.condense = .ok c ∧ c.isCondensed := by
  obtain ⟨c, hcondense, h⟩ := q.condense_condenses
  exact ⟨c, hcondense, h.isCondensed⟩

end Query

/-! ## Generating -/

namespace Generator

variable {g : Generator} {s : Polarity} {q : Query} {err : Error}

/-- A join fails where one of its sides does. -/
theorem join_eq_error {join : Predicate → Predicate → Predicate} {x y : Except Error Predicate}
    (h : (do return join (← x) (← y)) = Except.error err) : x = .error err ∨ y = .error err := by
  rcases Except.bind_eq_error h with hx | ⟨l, -, h⟩
  · exact .inl hx
  · rcases Except.bind_eq_error h with hy | ⟨r, -, h⟩
    · exact .inr hy
    · cases h

/-- The generator fails only on a text leaf, and names it. -/
theorem emit_error (h : g.emit s q = .error err) :
    ∃ f w, .text f w ∈ q.leaves ∧ err = .violation (.notCondensed (.text f w)) := by
  induction q generalizing s with
  | and l r ihl ihr | or l r ihl ihr | butNot l r ihl ihr =>
    rcases join_eq_error h with hl | hr
    · obtain ⟨f, w, hmem, herr⟩ := ihl hl
      exact ⟨f, w, List.mem_append_left _ hmem, herr⟩
    · obtain ⟨f, w, hmem, herr⟩ := ihr hr
      exact ⟨f, w, List.mem_append_right _ hmem, herr⟩
  | text f w =>
    cases h
    exact ⟨f, w, .head _, rfl⟩
  | flag | attachment | fullText => cases h
  | date phrase direction =>
    rw [emit] at h
    split at h <;> cases h

/-- A tree without text leaves is written. -/
theorem generate_isCondensed (g : Generator) {q : Query} (h : q.isCondensed) :
    ∃ sql, (g.generate q).1 = .ok sql := by
  obtain ⟨p, hp⟩ := emit_isCondensed h .kept
  exact ⟨_, by rw [generate_eq, hp]; rfl⟩

/-- Only a tree without text leaves has a predicate. -/
theorem isCondensed_of_emit {p : Predicate} (h : g.emit s q = .ok p) : q.isCondensed := by
  induction q generalizing s p with
  | and l r ihl ihr | or l r ihl ihr | butNot l r ihl ihr =>
    obtain ⟨pl, pr, hl, hr, -⟩ := join_eq_ok.1 h
    rw [Query.isCondensed, ihl hl, ihr hr]
    rfl
  | text => cases h
  | flag | attachment | date | fullText => rfl

/-- A tree is not written exactly if it has a text leaf. -/
theorem generate_fails_iff :
    (∃ err, (g.generate q).1 = .error err) ↔ ∃ f w, .text f w ∈ q.leaves := by
  rw [generate_eq]
  constructor
  · rintro ⟨err, h⟩
    obtain ⟨f, w, hmem, -⟩ := emit_error (Except.map_eq_error h)
    exact ⟨f, w, hmem⟩
  · rintro ⟨f, w, hmem⟩
    cases h : g.emit .kept q with
    | error err => exact ⟨err, rfl⟩
    | ok p => exact absurd hmem (Query.isCondensed_iff.1 (isCondensed_of_emit h) f w)

end Generator

/-! ## Compiling -/

namespace Compiler

variable (c : Compiler) {text : String} (now : Instant)

/-- A search that is parsed is compiled. -/
theorem compile_of_parse_ok {q : Query} (h : c.parse text = .ok q) :
    ∃ sql, c.compile text now = .ok sql := by
  obtain ⟨condensed, hcondense, hq⟩ := q.condense_isCondensed
  obtain ⟨sql, hsql⟩ := (c.generator now).generate_isCondensed hq
  refine ⟨sql, ?_⟩
  simp only [compile, explain, h, hcondense, hsql, bind, Except.bind]
  rfl

/-- A search that is not parsed is not compiled. -/
theorem compile_of_parse_error {err : Error} (h : c.parse text = .error err) :
    c.compile text now = .error err := by
  simp only [compile, explain, h, bind, Except.bind]
  rfl

/-- Compiling fails with an error exactly where parsing fails with it: nothing after it can. -/
theorem compile_eq_error {err : Error} :
    c.compile text now = .error err ↔ c.parse text = .error err := by
  constructor
  · intro h
    cases hparse : c.parse text with
    | error err' =>
      rw [compile_of_parse_error c now hparse] at h
      cases h
      rfl
    | ok q =>
      obtain ⟨sql, hsql⟩ := compile_of_parse_ok c now hparse
      rw [hsql] at h
      cases h
  · exact compile_of_parse_error c now

end Compiler

/-- **Only the search text can make a compilation fail.** Every tree can be condensed, and what it
is condensed to is written in SQL by every generator. A tree that is not condensed is written
exactly if it has no text leaf, and a text leaf is a violation. So a search is compiled exactly if
it is parsed, and where it is not the error is that of the parser, which is never a violation. -/
theorem only_syntax_fails :
    (∀ (g : Generator) (q : Query), ∃ c sql, q.condense = .ok c ∧ (g.generate c).1 = .ok sql) ∧
    (∀ (g : Generator) (q : Query),
      ((∃ err, (g.generate q).1 = .error err) ↔ ∃ f w, .text f w ∈ q.leaves) ∧
      ∀ err, (g.generate q).1 = .error err →
        ∃ f w, .text f w ∈ q.leaves ∧ err = .violation (.notCondensed (.text f w))) ∧
    ∀ (c : Compiler) (text : String) (now : Instant) (err : Error),
      (c.compile text now = .error err ↔ Query.parse text c.options = .error err) ∧
      (c.compile text now = .error err → err.isSyntax ∧ ∀ v, err ≠ .violation v) := by
  refine ⟨fun g q => ?_, fun g q => ⟨Generator.generate_fails_iff, fun err h => ?_⟩,
    fun c text now err => ⟨c.compile_eq_error now, fun h => ?_⟩⟩
  · obtain ⟨c, hcondense, hc⟩ := q.condense_isCondensed
    obtain ⟨sql, hsql⟩ := g.generate_isCondensed hc
    exact ⟨c, sql, hcondense, hsql⟩
  · rw [Generator.generate_eq] at h
    exact Generator.emit_error (Except.map_eq_error h)
  · have hfault := Query.parse_error_isSyntax ((c.compile_eq_error now).1 h)
    refine ⟨hfault, ?_⟩
    rintro v rfl
    cases hfault

end MailSearch
