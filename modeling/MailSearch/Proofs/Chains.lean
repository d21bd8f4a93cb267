import MailSearch.Proofs.Sessions

/-!
# Where the rules of the parser stop

`parser_makes_progress`: wherever in a text a rule of the parser is called, it leaves less of the
text unread if it succeeds, and it stops where its rule says. Behind a disjunction no `OR` follows,
and behind a conjunction or a query nothing or a closing parenthesis. So a query is never more than
one conjunction, a group is always closed by what comes after its query, and all that can be left
behind the query of a whole text is a closing parenthesis too many.

The rules go through lexemes. `Cursor.behind` is the place in the text that a number of lexemes
leads to, and `Parsed.place` the one that a rule has come to.

Queries, conjunctions and disjunctions can also be read in a loop: the operands are collected one
after the other and joined in the end (`Parser.conjunctions`, `Parser.operands`,
`Parser.alternatives`). `Parser.readQuery_eq_chain`, `Parser.readConjunction_eq_chain` and
`Parser.readDisjunction_eq_chain` say that the loops come to the same. There would be no tree for no
operands; whatever is answered for a disjunction without any makes no difference, because there is
none. In a conjunction each operand is collected with the join on its left, and the tree is built
from the last operand back, so that a join is used one step after its operand (`Operands.tree`).
-/

namespace MailSearch

/-- Only a closing parenthesis is spelled like one. -/
theorem Token.eq_close {t : Token} (h : t.isKeyword ")") : t = .bare ")" := by
  have hword : Text.sameWord t.text ")" = (t.text == ")") :=
    Text.sameWord_singleton (d := ')') (by decide)
  obtain ⟨text, quoted⟩ := t
  rw [isKeyword, hword, Bool.and_eq_true, Bool.not_eq_true', beq_iff_eq] at h
  obtain ⟨rfl, rfl⟩ := h
  rfl

/-! ## Places in the text -/

namespace Cursor

/-- The place behind the next `n` lexemes. -/
def behind (c : Cursor) : Nat → Cursor
  | 0 => c
  | n + 1 => c.next.2.behind n

/-- There is nothing more to read here, or a token that satisfies `P`. An open quote is neither. -/
def Faces (c : Cursor) (P : Token → Prop) : Prop :=
  c.peek = .ok none ∨ ∃ l, c.peek = .ok (some l) ∧ P l.token

/-- The fault is a closing parenthesis here that closes nothing. -/
def FacesStrayClose (c : Cursor) (err : Error) : Prop :=
  ∃ l, c.peek = .ok (some l) ∧ l.token = .bare ")" ∧ err = .parse l.position (.unexpected l.token)

/-- Lexemes that are scanned can be passed one after the other, and each takes a character. -/
theorem behind_spec {c : Cursor} {n : Nat} (h : n ≤ c.scan.lexemes.length) :
    c.Reaches (c.behind n) ∧ (c.behind n).scan = ⟨c.scan.lexemes.drop n, c.scan.ending⟩ ∧
      (c.behind n).rest.length + n ≤ c.rest.length := by
  induction n generalizing c with
  | zero => exact ⟨.refl c, rfl, Nat.le_refl _⟩
  | succ n ih =>
    rcases c.next_cases with ⟨l, after, hread, hnext⟩ | ⟨hread, -⟩ | ⟨hread, -⟩
    · have hlt := read_length_lt hread
      have hafter : c.Reaches after := by
        have hreaches := c.next_reaches
        rwa [hnext] at hreaches
      have hbehind : c.behind (n + 1) = after.behind n := by rw [behind, hnext]
      rw [scan_found hread] at h ⊢
      obtain ⟨hlater, hscan, hlength⟩ := ih (Nat.le_of_succ_le_succ h)
      rw [hbehind]
      exact ⟨hafter.trans hlater, hscan, by omega⟩
    · rw [scan_finished hread] at h
      cases h
    · rw [scan_openQuote hread] at h
      cases h

/-- What there is to read at a place is the first lexeme of its scan. -/
theorem peek_eq {c : Cursor} {rest : List Lexeme} {e : Ending} (hscan : c.scan = ⟨rest, e⟩) :
    c.peek = answerAt rest (e.check.map fun _ => none) 0 := by
  rw [peek, c.next_answer.1, answersFrom, hscan]

/-- A place whose scan is at its proper end, or begins with such a token. -/
theorem faces_of_scan {c : Cursor} {rest : List Lexeme} {e : Ending} {P : Token → Prop}
    (hscan : c.scan = ⟨rest, e⟩) (hend : rest = [] → e.check = .ok ())
    (hP : ∀ l ∈ rest.head?, P l.token) : c.Faces P := by
  cases rest with
  | nil =>
    left
    rw [peek_eq hscan, hend rfl]
    rfl
  | cons l rest => exact .inr ⟨l, peek_eq hscan, hP l rfl⟩

/-- A lexeme that is left where a query stops is a closing parenthesis. -/
theorem Faces.stray {c : Cursor} {l : Lexeme} {rest : List Lexeme} {e : Ending}
    (h : c.Faces (· = .bare ")")) (hscan : c.scan = ⟨l :: rest, e⟩) :
    c.FacesStrayClose (.parse l.position (.unexpected l.token)) := by
  have hpeek : c.peek = .ok (some l) := peek_eq hscan
  rcases h with hnone | ⟨l', hsome, hclose⟩
  · rw [hpeek] at hnone
    cases hnone
  · rw [hpeek] at hsome
    cases hsome
    exact ⟨l, hpeek, hclose, rfl⟩

end Cursor

namespace Parsed

variable {c : Cursor}

/-- The place up to which a rule has read that was called at the place `c`. -/
def place (p : Parsed c.scan.lexemes) : Cursor :=
  c.behind (c.scan.lexemes.length - p.rest.length)

/-- The certificate of a result, for the result without it. -/
theorem progress_length_lt {ts : List Lexeme} {x : Except Error (Parsed ts)} {p : Progress}
    (h : x.map progress = .ok p) : p.rest.length < ts.length := by
  obtain ⟨q, -, rfl⟩ := Except.map_eq_ok h
  exact q.shorter

/-- The rule has read on in the text, and left less of it. -/
structure Advances (p : Parsed c.scan.lexemes) : Prop where
  reaches : c.Reaches p.place
  shorter : ∃ read, read ≠ "" ∧ c.remaining = read ++ p.place.remaining
  /-- The lexemes that it left are those that are scanned from there on. -/
  scan : p.place.scan = ⟨p.rest, c.scan.ending⟩

/-- A rule takes its lexemes from the front, so it advances. -/
theorem advances {p : Parsed c.scan.lexemes} {o : ParseOptions} {n : Nat}
    {term : List Token → Query → Prop} {rule : Grammar.Rule}
    (h : Grammar.ReadAs o term rule n c.scan.lexemes p.progress) : p.Advances := by
  obtain ⟨used, hused, -⟩ := h.derived
  -- The type of `p` mentions the lexemes, so they are not rewritten but measured and cut.
  have hlength : c.scan.lexemes.length = used.length + p.rest.length :=
    (congrArg List.length hused).trans List.length_append
  have hdrop : c.scan.lexemes.drop used.length = p.rest :=
    (congrArg (List.drop used.length) hused).trans List.drop_left
  have hplace : p.place = c.behind used.length := by
    rw [place, hlength, Nat.add_sub_cancel]
  have hpos := p.shorter
  obtain ⟨hreaches, hscan, hrest⟩ := Cursor.behind_spec (c := c) (n := used.length) (by omega)
  rw [← hplace] at hreaches hscan hrest
  refine ⟨hreaches, ?_, by rw [hscan, hdrop]⟩
  obtain ⟨passed, hpassed, -⟩ := hreaches
  refine ⟨String.ofList passed, fun hnil => ?_, ?_⟩
  · have hempty : passed = [] := by rw [← String.toList_ofList (l := passed), hnil]; rfl
    rw [hpassed, hempty, List.nil_append] at hrest
    omega
  · rw [Cursor.remaining, hpassed, String.ofList_append]
    rfl

end Parsed

/-! ## Loops -/

/-- Operands that were read one after the other. -/
structure Chain where
  operands : List Query
  /-- How many terms have been read so far in the whole text. -/
  terms : Nat
  /-- The lexemes that were not read. -/
  rest : List Lexeme
deriving DecidableEq, Repr

/-- Joins operands from the right; there is no tree for none. -/
def foldRight (join : Query → Query → Query) : List Query → Option Query
  | [] => none
  | q :: qs => some ((foldRight join qs).elim q (join q))

/-- The result of a chain, once its operands are joined. -/
def Chain.joined (chain : Chain) (join : Query → Query → Query) : Option Progress :=
  (foldRight join chain.operands).map fun q => ⟨q, chain.terms, chain.rest⟩

/-- The operands of a conjunction that were read one after the other. -/
structure Operands where
  first : Query
  /-- The others, each with the join on its left. -/
  others : List (Join × Query)
  /-- How many terms have been read so far in the whole text. -/
  terms : Nat
  /-- The lexemes that were not read. -/
  rest : List Lexeme
deriving DecidableEq, Repr

namespace Operands

/-- One step back: the tree so far is put behind an operand, by the join that was on the left of the
tree, and the join on the left of the operand is kept for the next step. -/
def back (tree operand : Join × Query) : Join × Query :=
  (operand.1, tree.1.combine operand.2 tree.2)

/-- The tree of a conjunction, built from the last operand back to the first. -/
def tree (first : Query) (others : List (Join × Query)) : Query :=
  match others.reverse with
  | [] => first
  | last :: before => (before.foldl back last).1.combine first (before.foldl back last).2

/-- The result of a conjunction, once its operands are joined. -/
def joined (read : Operands) : Progress :=
  ⟨tree read.first read.others, read.terms, read.rest⟩

/-- **Each join takes everything to its right**, though the tree is built from the right. -/
theorem tree_cons (first q : Query) (join : Join) (others : List (Join × Query)) :
    tree first ((join, q) :: others) = join.combine first (tree q others) := by
  rw [tree, tree, List.reverse_cons]
  cases others.reverse with
  | nil => rfl
  | cons last before =>
    -- The new operand is the last one that the way back comes to.
    rw [List.cons_append]
    simp only [List.foldl_append, List.foldl_cons, List.foldl_nil, back]

end Operands

namespace Parser

/-- Reads simple queries while an `OR` follows. -/
def alternatives (o : ParseOptions) (e : Ending) (depth terms : Nat) (ts : List Lexeme) :
    Except Error Chain := do
  let first ← simple o e depth terms ts
  match _h : first.rest with
  | [] => do
    e.check
    return ⟨[first.query], first.terms, []⟩
  | l :: tail =>
    if l.token.isKeyword "or" then
      let next ← alternatives o e depth first.terms tail
      return ⟨first.query :: next.operands, next.terms, next.rest⟩
    else return ⟨[first.query], first.terms, l :: tail⟩
termination_by ts.length
decreasing_by
  have := first.shorter
  simp only [_h, List.length_cons] at this
  omega

/-- Reads disjunctions, and the joins between them, up to the end, an `OR` or a closing
parenthesis. -/
def operands (o : ParseOptions) (e : Ending) (depth terms : Nat) (ts : List Lexeme) :
    Except Error Operands := do
  let first ← disjunction o e depth terms ts
  match _h : first.rest with
  | [] => return ⟨first.query, [], first.terms, []⟩
  | l :: tail =>
    if l.token.isKeyword "or" || l.token.isKeyword ")" then
      return ⟨first.query, [], first.terms, l :: tail⟩
    else
      let next ← operands o e depth first.terms (joint (l :: tail)).2
      return ⟨first.query, ((joint (l :: tail)).1, next.first) :: next.others, next.terms,
        next.rest⟩
termination_by ts.length
decreasing_by
  have := first.shorter
  rw [_h] at this
  exact Nat.lt_of_le_of_lt (joint_length_le _) this

/-- Reads conjunctions up to the end or a closing parenthesis. -/
def conjunctions (o : ParseOptions) (e : Ending) (depth terms : Nat) (ts : List Lexeme) :
    Except Error Chain :=
  match ts with
  | [] => do
    e.check
    return ⟨[], terms, []⟩
  | l :: tail =>
    if l.token.isKeyword ")" then return ⟨[], terms, l :: tail⟩
    else do
      let first ← conjunction o e depth terms (l :: tail)
      let next ← conjunctions o e depth first.terms first.rest
      return ⟨first.query :: next.operands, next.terms, next.rest⟩
termination_by ts.length
decreasing_by exact first.shorter

open Grammar

section
variable {o : ParseOptions} {e : Ending} {d n : Nat} {ts : List Lexeme} {p : Progress}
  {chain : Chain}

/-! ### One equation for each loop -/

/-- The equation of the loop of a disjunction. -/
theorem alternatives_eq :
    alternatives o e d n ts = do
      let first ← readSimple o e d n ts
      match first.rest with
      | [] => do
        e.check
        return ⟨[first.query], first.terms, []⟩
      | l :: tail =>
        if l.token.isKeyword "or" then
          let next ← alternatives o e d first.terms tail
          return ⟨first.query :: next.operands, next.terms, next.rest⟩
        else return ⟨[first.query], first.terms, l :: tail⟩ := by
  rw [alternatives, readSimple]
  cases simple o e d n ts with
  | error => rfl
  | ok first =>
    obtain ⟨q, m, rest, hlt⟩ := first
    cases rest <;> rfl

/-- The equation of the loop of a conjunction. -/
theorem operands_eq :
    operands o e d n ts = do
      let first ← readDisjunction o e d n ts
      match first.rest with
      | [] => return ⟨first.query, [], first.terms, []⟩
      | l :: tail =>
        if l.token.isKeyword "or" || l.token.isKeyword ")" then
          return ⟨first.query, [], first.terms, l :: tail⟩
        else
          let next ← operands o e d first.terms (joint (l :: tail)).2
          return ⟨first.query, ((joint (l :: tail)).1, next.first) :: next.others, next.terms,
            next.rest⟩ := by
  rw [operands, readDisjunction]
  cases disjunction o e d n ts with
  | error => rfl
  | ok first =>
    obtain ⟨q, m, rest, hlt⟩ := first
    cases rest <;> rfl

/-- The loop of a query at the end of the text. -/
theorem conjunctions_nil : conjunctions o e d n [] = e.check.map fun _ => ⟨[], n, []⟩ := by
  rw [conjunctions]
  cases e.check <;> rfl

/-- The loop of a query before a lexeme. -/
theorem conjunctions_cons (l : Lexeme) :
    conjunctions o e d n (l :: ts) =
      if l.token.isKeyword ")" then .ok ⟨[], n, l :: ts⟩
      else do
        let first ← readConjunction o e d n (l :: ts)
        let next ← conjunctions o e d first.terms first.rest
        return ⟨first.query :: next.operands, next.terms, next.rest⟩ := by
  rw [conjunctions, readConjunction]
  split
  · rfl
  · cases conjunction o e d n (l :: ts) <;> rfl

/-! ### Disjunctions -/

/-- A disjunction has an operand. -/
theorem alternatives_ne_nil (h : alternatives o e d n ts = .ok chain) : chain.operands ≠ [] := by
  rw [alternatives_eq] at h
  obtain ⟨first, -, h⟩ := Except.bind_eq_ok h
  cases hrest : first.rest with
  | nil =>
    simp only [hrest] at h
    obtain ⟨-, -, h⟩ := Except.bind_eq_ok h
    cases h
    exact List.cons_ne_nil _ _
  | cons l tail =>
    simp only [hrest] at h
    split at h
    · obtain ⟨next, -, h⟩ := Except.bind_eq_ok h
      cases h
      exact List.cons_ne_nil _ _
    · cases h
      exact List.cons_ne_nil _ _

/-- **A disjunction is its chain, joined.** Whatever is answered for a chain without operands makes
no difference. -/
theorem readDisjunction_eq_chain (o : ParseOptions) (e : Ending) (d n : Nat) (ts : List Lexeme)
    (err : Error) :
    readDisjunction o e d n ts =
      alternatives o e d n ts >>= fun chain => (chain.joined .or).elim (.error err) .ok := by
  induction hlen : ts.length using Nat.strongRecOn generalizing n ts with
  | ind m ih =>
    subst hlen
    rw [readDisjunction_eq, alternatives_eq]
    cases hfirst : readSimple o e d n ts with
    | error => rfl
    | ok first =>
      have hlt := Parsed.progress_length_lt hfirst
      obtain ⟨q, k, rest⟩ := first
      cases rest with
      | nil => cases e.check <;> rfl
      | cons l tail =>
        simp only [bind, Except.bind]
        split
        · have hlen : tail.length < ts.length := Nat.lt_of_succ_lt hlt
          rw [ih _ hlen k tail rfl]
          cases hnext : alternatives o e d k tail with
          | error => rfl
          | ok next =>
            obtain ⟨operands, k', rest⟩ := next
            cases operands with
            | nil =>
              -- Only here would `err` be answered.
              exact absurd rfl (alternatives_ne_nil hnext)
            | cons => rfl
        · rfl

/-! ### Conjunctions -/

/-- **A conjunction is its operands, joined.** -/
theorem readConjunction_eq_chain (o : ParseOptions) (e : Ending) (d n : Nat) (ts : List Lexeme) :
    readConjunction o e d n ts = (operands o e d n ts).map Operands.joined := by
  induction hlen : ts.length using Nat.strongRecOn generalizing n ts with
  | ind m ih =>
    subst hlen
    rw [readConjunction_eq, operands_eq]
    cases hfirst : readDisjunction o e d n ts with
    | error => rfl
    | ok first =>
      have hlt := Parsed.progress_length_lt hfirst
      obtain ⟨q, k, rest⟩ := first
      cases rest with
      | nil => rfl
      | cons l tail =>
        simp only [bind, Except.bind]
        split
        · rfl
        · have hlen := Nat.lt_of_le_of_lt (joint_length_le (l :: tail)) hlt
          rw [ih _ hlen k _ rfl]
          cases operands o e d k (joint (l :: tail)).2 with
          | error => rfl
          | ok next =>
            refine congrArg Except.ok ?_
            simp only [Operands.joined, Operands.tree_cons]

/-! ### Queries -/

/-- Where no conjunction is read, nothing is. -/
theorem conjunctions_eq_nil {k : Nat} {rest : List Lexeme}
    (h : conjunctions o e d n ts = .ok ⟨[], k, rest⟩) : k = n ∧ rest = ts := by
  cases ts with
  | nil =>
    rw [conjunctions_nil] at h
    obtain ⟨-, -, h⟩ := Except.map_eq_ok h
    cases h
    exact ⟨rfl, rfl⟩
  | cons l ts =>
    rw [conjunctions_cons] at h
    split at h
    · cases h
      exact ⟨rfl, rfl⟩
    · obtain ⟨first, -, h⟩ := Except.bind_eq_ok h
      obtain ⟨next, -, h⟩ := Except.bind_eq_ok h
      cases h

/-- **A query is its chain, joined.** -/
theorem readQuery_eq_chain (o : ParseOptions) (e : Ending) (d n : Nat) (ts : List Lexeme) :
    readQuery o e d n ts = (conjunctions o e d n ts).map (·.joined .and) := by
  induction hlen : ts.length using Nat.strongRecOn generalizing n ts with
  | ind m ih =>
    subst hlen
    cases ts with
    | nil =>
      rw [readQuery_nil, conjunctions_nil]
      cases e.check <;> rfl
    | cons l ts =>
      rw [readQuery_cons, conjunctions_cons]
      split
      · rfl
      · cases hfirst : readConjunction o e d n (l :: ts) with
        | error => rfl
        | ok first =>
          simp only [bind, Except.bind]
          rw [ih _ (Parsed.progress_length_lt hfirst) first.terms first.rest rfl]
          cases hnext : conjunctions o e d first.terms first.rest with
          | error => rfl
          | ok next =>
            obtain ⟨operands, k, rest⟩ := next
            cases operands with
            | nil =>
              -- The rule returns the first conjunction here, and the loop what comes after it.
              obtain ⟨rfl, rfl⟩ := conjunctions_eq_nil hnext
              rfl
            | cons => rfl

/-! ## Where the rules stop -/

/-- A disjunction that goes to the end has looked there for an open quote. -/
theorem readDisjunction_check (h : readDisjunction o e d n ts = .ok p) (hnil : p.rest = []) :
    e.check = .ok () := by
  induction hlen : ts.length using Nat.strongRecOn generalizing n ts p with
  | ind m ih =>
    subst hlen
    rw [readDisjunction_eq] at h
    obtain ⟨first, hfirst, h⟩ := Except.bind_eq_ok h
    have hlt := Parsed.progress_length_lt hfirst
    cases hrest : first.rest with
    | nil =>
      simp only [hrest] at h
      obtain ⟨_, hcheck, -⟩ := Except.bind_eq_ok h
      exact hcheck
    | cons l tail =>
      rw [hrest] at hlt
      simp only [hrest] at h
      split at h
      · obtain ⟨next, hnext, h⟩ := Except.bind_eq_ok h
        cases h
        exact ih _ (Nat.lt_of_succ_lt hlt) hnext hnil rfl
      · cases h
        rw [hrest] at hnil
        cases hnil

/-- So has a conjunction. -/
theorem readConjunction_check (h : readConjunction o e d n ts = .ok p) (hnil : p.rest = []) :
    e.check = .ok () := by
  induction hlen : ts.length using Nat.strongRecOn generalizing n ts p with
  | ind m ih =>
    subst hlen
    rw [readConjunction_eq] at h
    obtain ⟨first, hfirst, h⟩ := Except.bind_eq_ok h
    have hlt := Parsed.progress_length_lt hfirst
    cases hrest : first.rest with
    | nil => exact readDisjunction_check hfirst hrest
    | cons l tail =>
      rw [hrest] at hlt
      simp only [hrest] at h
      split at h
      · cases h
        rw [hrest] at hnil
        cases hnil
      · obtain ⟨next, hnext, h⟩ := Except.bind_eq_ok h
        cases h
        exact ih _ (Nat.lt_of_le_of_lt (joint_length_le _) hlt) hnext hnil rfl

/-- **Where a conjunction has stopped, the loop of a query is over.** -/
theorem conjunctions_after (h : readConjunction o e d n ts = .ok p) :
    conjunctions o e d p.terms p.rest = .ok ⟨[], p.terms, p.rest⟩ := by
  have hstops := ((read_sound (readsTerms o) e ts d n).2.2.1 p h).stops
  cases hrest : p.rest with
  | nil =>
    rw [conjunctions_nil, readConjunction_check h hrest]
    rfl
  | cons l rest =>
    have hclose : l.token.isKeyword ")" := hstops l (by rw [hrest]; rfl)
    rw [conjunctions_cons, hclose]
    rfl

/-- So a query is one conjunction at most. -/
theorem conjunctions_length_le (h : conjunctions o e d n ts = .ok chain) :
    chain.operands.length ≤ 1 := by
  cases ts with
  | nil =>
    rw [conjunctions_nil] at h
    obtain ⟨-, -, rfl⟩ := Except.map_eq_ok h
    exact Nat.zero_le _
  | cons l ts =>
    rw [conjunctions_cons] at h
    split at h
    · cases h
      exact Nat.zero_le _
    · obtain ⟨first, hfirst, h⟩ := Except.bind_eq_ok h
      rw [conjunctions_after hfirst] at h
      cases h
      exact Nat.le_refl _

/-- Where a query has nothing to read, the text ends or a parenthesis is closed. -/
theorem readQuery_eq_none (h : readQuery o e d n ts = .ok none) :
    Rule.query.Stops ts ∧ (ts = [] → e.check = .ok ()) := by
  cases ts with
  | nil =>
    rw [readQuery_nil] at h
    obtain ⟨_, hcheck, -⟩ := Except.map_eq_ok h
    exact ⟨Rule.stops_nil _, fun _ => hcheck⟩
  | cons l ts =>
    rw [readQuery_cons] at h
    split at h
    next hclose =>
      refine ⟨fun x hx => ?_, fun hnil => nomatch hnil⟩
      obtain rfl := Option.some.inj hx
      exact hclose
    next =>
      obtain ⟨first, -, h⟩ := Except.bind_eq_ok h
      obtain ⟨more, -, h⟩ := Except.bind_eq_ok h
      cases more <;> cases h

end

/-! ## The rules at a place -/

/-- What the rules of the parser do when they are called at the place `c`, with `d` parentheses open
and `n` terms read before. -/
structure StopInTime (o : ParseOptions) (c : Cursor) (d n : Nat) : Prop where
  simple : ∀ p, Parser.simple o c.scan.ending d n c.scan.lexemes = .ok p → p.Advances
  disjunction : ∀ p, Parser.disjunction o c.scan.ending d n c.scan.lexemes = .ok p →
    p.Advances ∧ p.place.Faces (·.isKeyword "or" = false)
  conjunction : ∀ p, Parser.conjunction o c.scan.ending d n c.scan.lexemes = .ok p →
    p.Advances ∧ p.place.Faces (· = .bare ")")
  query : ∀ p, Parser.query o c.scan.ending d n c.scan.lexemes = .ok (some p) →
    p.Advances ∧ p.place.Faces (· = .bare ")")
  /-- A query that reads nothing stands where it stops. -/
  nothing : Parser.query o c.scan.ending d n c.scan.lexemes = .ok none → c.Faces (· = .bare ")")
  /-- Where a conjunction has stopped, the loop of a query ends, and it does not fail. -/
  ends : ∀ p, Parser.conjunction o c.scan.ending d n c.scan.lexemes = .ok p →
    conjunctions o c.scan.ending d p.terms p.rest = .ok ⟨[], p.terms, p.rest⟩
  /-- That loop goes round once at most. -/
  once : ∀ chain, conjunctions o c.scan.ending d n c.scan.lexemes = .ok chain →
    chain.operands.length ≤ 1

/-- **Wherever they are called, the rules stop in time.** -/
theorem stopInTime (o : ParseOptions) (c : Cursor) (d n : Nat) : StopInTime o c d n := by
  obtain ⟨hsimple, hdisj, hconj, hquery⟩ :=
    read_sound (readsTerms o) c.scan.ending c.scan.lexemes d n
  have hprogress : ∀ p, Parser.conjunction o c.scan.ending d n c.scan.lexemes = .ok p →
      readConjunction o c.scan.ending d n c.scan.lexemes = .ok p.progress := by
    intro p h
    rw [readConjunction, h]
    rfl
  refine ⟨fun p h => ?_, fun p h => ?_, fun p h => ?_, fun p h => ?_, fun h => ?_,
    fun p h => ?_, fun chain => conjunctions_length_le⟩
  · have hread : readSimple o c.scan.ending d n c.scan.lexemes = .ok p.progress := by
      rw [readSimple, h]; rfl
    exact Parsed.advances (hsimple _ hread)
  · have hread : readDisjunction o c.scan.ending d n c.scan.lexemes = .ok p.progress := by
      rw [readDisjunction, h]; rfl
    have hadv := Parsed.advances (hdisj _ hread)
    exact ⟨hadv, Cursor.faces_of_scan hadv.scan (readDisjunction_check hread) (hdisj _ hread).stops⟩
  · have hread := hprogress p h
    have hadv := Parsed.advances (hconj _ hread)
    exact ⟨hadv, Cursor.faces_of_scan hadv.scan (readConjunction_check hread)
      fun l hl => Token.eq_close ((hconj _ hread).stops l hl)⟩
  · have hread : readQuery o c.scan.ending d n c.scan.lexemes = .ok (some p.progress) := by
      rw [readQuery, h]; rfl
    have hadv := Parsed.advances (hquery _ hread)
    exact ⟨hadv, Cursor.faces_of_scan hadv.scan (readQuery_eq_some hconj hread).2
      fun l hl => Token.eq_close ((hquery _ hread).stops l hl)⟩
  · have hread : readQuery o c.scan.ending d n c.scan.lexemes = .ok none := by
      rw [readQuery, h]; rfl
    obtain ⟨hstops, hend⟩ := readQuery_eq_none hread
    exact Cursor.faces_of_scan rfl hend fun l hl => Token.eq_close (hstops l hl)
  · exact conjunctions_after (hprogress p h)

end Parser

/-! ## Whole texts -/

open MailSearch.Parser

section
variable {text : String} {o : ParseOptions} {err : Error}

/-- No text is refused because another token stands where a parenthesis must be closed. -/
theorem Query.parse_ne_expectedClose (place : Nat) (got : Token) :
    Query.parse text o ≠ .error (.parse place (.expectedClose got)) := by
  intro h
  rcases Scan.parse_error h with ⟨hempty, -⟩ | hblames
  · cases hempty
  · generalize herr : Error.parse place (.expectedClose got) = err at hblames
    cases hblames with
    | lexeme hl fault hfault =>
      cases herr
      cases hfault
    | ending fault hfault =>
      cases hending : (Cursor.start text).scan.ending with
      | proper =>
        rw [hending] at herr
        cases herr
        cases hfault
      | openQuote =>
        rw [hending] at herr
        cases herr

/-- No text is refused for a tree that it does not produce. -/
theorem Query.parse_ne_violation (v : Violation) : Query.parse text o ≠ .error (.violation v) :=
  fun h => nomatch Query.parse_error_isSyntax h

/-- **Behind the query of a text there can only be a closing parenthesis too many.** -/
theorem Query.parse_stray
    {p : Parsed (Cursor.start text).scan.lexemes}
    (hread : Parser.query o (Cursor.start text).scan.ending 0 0 (Cursor.start text).scan.lexemes =
      .ok (some p))
    (h : Query.parse text o = .error err) : p.place.FacesStrayClose err := by
  obtain ⟨hadv, hfaces⟩ := (stopInTime o (.start text) 0 0).query p hread
  rw [Query.parse, Scan.parse, hread] at h
  cases hrest : p.rest with
  | nil =>
    simp only [bind, Except.bind, hrest] at h
    cases h
  | cons l rest =>
    simp only [bind, Except.bind, hrest] at h
    cases h
    exact hfaces.stray (hrest ▸ hadv.scan)

/-- A text without a query is empty, or begins with such a parenthesis. -/
theorem Query.parse_without_query
    (hread : Parser.query o (Cursor.start text).scan.ending 0 0 (Cursor.start text).scan.lexemes =
      .ok none)
    (h : Query.parse text o = .error err) :
    (err = .empty ∧ (Cursor.start text).peek = .ok none) ∨
      (Cursor.start text).FacesStrayClose err := by
  have hfaces := (stopInTime o (.start text) 0 0).nothing hread
  rw [Query.parse, Scan.parse, hread] at h
  cases hscan : (Cursor.start text).scan with
  | mk lexemes ending =>
    rw [hscan] at h
    cases lexemes with
    | nil =>
      cases h
      rcases hfaces with hnone | ⟨l, hsome, -⟩
      · exact .inl ⟨rfl, hnone⟩
      · rw [Cursor.peek_eq hscan] at hsome
        cases ending <;> cases hsome
    | cons l rest =>
      cases h
      exact .inr (hfaces.stray hscan)

end

/-- **The parser gets on, and its last defences are never needed.** At every place each rule reads
on and stops in time, and the loop of a query goes round once at most. The loops are the rules,
whatever is answered for a disjunction without operands. A text is never refused by a violation, nor
for a token in the place of a closing parenthesis, and what is left behind its query is a closing
parenthesis. -/
theorem parser_makes_progress (o : ParseOptions) :
    (∀ c d n, StopInTime o c d n) ∧
    (∀ e d n ts,
      readQuery o e d n ts = (conjunctions o e d n ts).map (·.joined .and) ∧
      readConjunction o e d n ts = (operands o e d n ts).map Operands.joined ∧
      ∀ err, readDisjunction o e d n ts =
        alternatives o e d n ts >>= fun chain => (chain.joined .or).elim (.error err) .ok) ∧
    ∀ text err, Query.parse text o = .error err →
      (∀ v, err ≠ .violation v) ∧
      (∀ place got, err ≠ .parse place (.expectedClose got)) ∧
      (∀ p, Parser.query o (Cursor.start text).scan.ending 0 0 (Cursor.start text).scan.lexemes =
        .ok (some p) → p.place.FacesStrayClose err) ∧
      (Parser.query o (Cursor.start text).scan.ending 0 0 (Cursor.start text).scan.lexemes =
        .ok none → (err = .empty ∧ (Cursor.start text).peek = .ok none) ∨
          (Cursor.start text).FacesStrayClose err) := by
  refine ⟨stopInTime o,
    fun e d n ts => ⟨readQuery_eq_chain o e d n ts, readConjunction_eq_chain o e d n ts,
      readDisjunction_eq_chain o e d n ts⟩,
    fun text err h => ⟨?_, ?_, ?_, ?_⟩⟩
  · rintro v rfl
    exact Query.parse_ne_violation v h
  · rintro place got rfl
    exact Query.parse_ne_expectedClose place got h
  · intro p hread
    exact Query.parse_stray hread h
  · intro hread
    exact Query.parse_without_query hread h

end MailSearch
