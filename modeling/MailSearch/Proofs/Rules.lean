import MailSearch.Query.Parser

/-!
# The rules of the parser as equations

A rule of the parser returns a `Parsed`, whose type mentions the lexemes it was given: that is what
makes the recursion end, and it stands in the way of every rewriting step afterwards. `Progress` is
the same result without the certificate, and `readQuery`, `readConjunction`, `readDisjunction`,
`readSimple` and `readGroup` are the rules with that result. Each has one equation here that gives
it through the others (`readQuery_nil`, `readQuery_cons`, `readConjunction_eq`, ...); nothing after
this module opens the rules themselves.
-/

namespace MailSearch

/-- What a rule read, without the proof that it read something. -/
structure Progress where
  /-- The tree. -/
  query : Query
  /-- How many terms have been read so far in the whole text. -/
  terms : Nat
  /-- The lexemes that were not read. -/
  rest : List Lexeme
deriving DecidableEq, Repr

/-- The result of a rule, without its certificate. -/
def Parsed.progress {ts : List Lexeme} (p : Parsed ts) : Progress :=
  ⟨p.query, p.terms, p.rest⟩

/-- A computation in two steps succeeds only where both do. -/
theorem Except.bind_eq_ok {ε α β : Type} {x : Except ε α} {f : α → Except ε β} {b : β}
    (h : x >>= f = .ok b) : ∃ a, x = .ok a ∧ f a = .ok b := by
  cases x with
  | error => cases h
  | ok a => exact ⟨a, rfl, h⟩

/-- A result that was changed afterwards was a result before. -/
theorem Except.map_eq_ok {ε α β : Type} {x : Except ε α} {f : α → β} {b : β}
    (h : x.map f = .ok b) : ∃ a, x = .ok a ∧ f a = b := by
  cases x with
  | error => cases h
  | ok a => exact ⟨a, rfl, Except.ok.inj h⟩

namespace Parser

section
variable (o : ParseOptions) (e : Ending) (depth terms : Nat) (ts : List Lexeme)

/-- `query`, as a function to plain results. -/
def readQuery : Except Error (Option Progress) :=
  (query o e depth terms ts).map (Option.map Parsed.progress)

/-- `conjunction`, as a function to plain results. -/
def readConjunction : Except Error Progress :=
  (conjunction o e depth terms ts).map Parsed.progress

/-- `disjunction`, as a function to plain results. -/
def readDisjunction : Except Error Progress :=
  (disjunction o e depth terms ts).map Parsed.progress

/-- `simple`, as a function to plain results. -/
def readSimple : Except Error Progress :=
  (simple o e depth terms ts).map Parsed.progress

/-- `group`, as a function to plain results. -/
def readGroup (position : Nat) : Except Error Progress :=
  (group o e depth terms position ts).map Parsed.progress

/-! ## One equation for each rule -/

/-- At the end of the lexemes there is no query, unless a quote was left open. -/
theorem readQuery_nil : readQuery o e depth terms [] = e.check.map fun _ => none := by
  rw [readQuery, query]
  cases e.check <;> rfl

/-- A query ends before a closing parenthesis. Otherwise it is a conjunction, and the query after it
is joined to it by an `and`. -/
theorem readQuery_cons (l : Lexeme) :
    readQuery o e depth terms (l :: ts) =
      if l.token.isKeyword ")" then .ok none
      else do
        let first ← readConjunction o e depth terms (l :: ts)
        match ← readQuery o e depth first.terms first.rest with
        | none => return some first
        | some next =>
          return some ⟨.and first.query next.query, next.terms, next.rest⟩ := by
  rw [readQuery, query]
  split
  · rfl
  · rw [readConjunction]
    cases conjunction o e depth terms (l :: ts) with
    | error => rfl
    | ok first =>
      show Except.map _ (query o e depth first.terms first.rest >>= _) =
        (readQuery o e depth first.terms first.rest >>= _)
      rw [readQuery]
      cases query o e depth first.terms first.rest with
      | error => rfl
      | ok next => cases next <;> rfl

/-- A conjunction ends with its first disjunction if an `or`, a closing parenthesis or nothing
follows. Otherwise the words that join the two are skipped, and a conjunction follows. -/
theorem readConjunction_eq :
    readConjunction o e depth terms ts = do
      let first ← readDisjunction o e depth terms ts
      match first.rest with
      | [] => return first
      | l :: _ =>
        if l.token.isKeyword "or" || l.token.isKeyword ")" then return first
        else
          let next ← readConjunction o e depth first.terms (joint first.rest).2
          return ⟨(joint first.rest).1.combine first.query next.query, next.terms, next.rest⟩ := by
  rw [readConjunction, conjunction, readDisjunction]
  cases disjunction o e depth terms ts with
  | error => rfl
  | ok first =>
    obtain ⟨q, n, rest, hlt⟩ := first
    cases rest with
    | nil => rfl
    | cons l tail =>
      simp only [bind, Except.bind, Except.map, Parsed.progress]
      cases l.token.isKeyword "or" || l.token.isKeyword ")" with
      | true => rfl
      | false =>
        rw [readConjunction]
        cases conjunction o e depth n (joint (l :: tail)).2 <;> rfl

/-- A disjunction goes on where an `or` follows its simple query. At the end of the lexemes an open
quote is reported first. -/
theorem readDisjunction_eq :
    readDisjunction o e depth terms ts = do
      let first ← readSimple o e depth terms ts
      match first.rest with
      | [] => do
        e.check
        return first
      | l :: tail =>
        if l.token.isKeyword "or" then
          let next ← readDisjunction o e depth first.terms tail
          return ⟨.or first.query next.query, next.terms, next.rest⟩
        else return first := by
  rw [readDisjunction, disjunction, readSimple]
  cases simple o e depth terms ts with
  | error => rfl
  | ok first =>
    obtain ⟨q, n, rest, hlt⟩ := first
    cases rest with
    | nil =>
      simp only [bind, Except.bind, Except.map, Parsed.progress]
      cases e.check <;> rfl
    | cons l tail =>
      simp only [bind, Except.bind, Except.map, Parsed.progress]
      cases l.token.isKeyword "or" with
      | false => rfl
      | true =>
        rw [readDisjunction]
        simp only [if_true]
        cases disjunction o e depth n tail <;> rfl

/-- At the end of the lexemes a term is missing, or a quote was left open. -/
theorem readSimple_nil : readSimple o e depth terms [] = .error (e.error .missingTerm) := by
  rw [readSimple, simple]
  rfl

/-- A simple query is a group or a clause. The limit on terms is checked before the clause is read,
and after the tokens with which none begins. -/
theorem readSimple_cons (l : Lexeme) :
    readSimple o e depth terms (l :: ts) =
      if l.token.isKeyword "(" then readGroup o e depth terms ts l.position
      else if l.token.isDelimiter then .error (.parse l.position (.unexpected l.token))
      else if l.token.isOperator then .error (.parse l.position (.unexpectedOperator l.token))
      else if o.maxTerms < terms + 1 then .error (.parse l.position (.tooManyTerms o.maxTerms))
      else (clause o e l.token ts).map fun read => ⟨read.1, terms + 1, read.2⟩ := by
  rw [readSimple, simple, readGroup]
  split
  · cases group o e depth terms l.position ts <;> rfl
  · split
    · rfl
    · split
      · rfl
      · split
        · rfl
        · split <;> simp_all [Except.map, Parsed.progress]

/-- A group is a query one level deeper and a closing parenthesis. The limit on depth is checked
first, and what the group lacks is reported where it was opened. -/
theorem readGroup_eq (position : Nat) :
    readGroup o e depth terms ts position =
      if o.maxDepth ≤ depth then .error (.parse position (.tooDeep o.maxDepth))
      else (do
        match ← readQuery o e (depth + 1) terms ts with
        | none => .error (.parse position .emptyGroup)
        | some inner =>
          match inner.rest with
          | [] => .error (.parse position .unclosedGroup)
          | l :: tail =>
            if l.token.isKeyword ")" then return ⟨inner.query, inner.terms, tail⟩
            else .error (.parse l.position (.expectedClose l.token))) := by
  rw [readGroup, group, readQuery]
  split
  · rfl
  · cases query o e (depth + 1) terms ts with
    | error => rfl
    | ok found =>
      cases found with
      | none => rfl
      | some inner =>
        obtain ⟨q, n, rest, hlt⟩ := inner
        cases rest with
        | nil => rfl
        | cons l tail =>
          simp only [bind, Except.bind, Except.map, Option.map, Parsed.progress]
          cases l.token.isKeyword ")" <;> rfl

end

end Parser

/-! ## A whole text -/

/-- Parsing reads a query from the first lexeme on, and nothing may be left after it. -/
theorem Scan.parse_eq (s : Scan) (o : ParseOptions) :
    s.parse o = (do
      match ← Parser.readQuery o s.ending 0 0 s.lexemes with
      | none =>
        match s.lexemes with
        | [] => .error .empty
        | l :: _ => .error (.parse l.position (.unexpected l.token))
      | some p =>
        match p.rest with
        | [] => return p.query
        | l :: _ => .error (.parse l.position (.unexpected l.token))) := by
  rw [parse, Parser.readQuery]
  cases Parser.query o s.ending 0 0 s.lexemes with
  | error => rfl
  | ok found => cases found <;> rfl

/-- A text that is parsed is one query, read to the end. -/
theorem Scan.read_of_parse {s : Scan} {o : ParseOptions} {q : Query} (h : s.parse o = .ok q) :
    ∃ p, Parser.readQuery o s.ending 0 0 s.lexemes = .ok (some p) ∧ p.rest = [] ∧ p.query = q := by
  rw [Scan.parse_eq] at h
  obtain ⟨found, hread, h⟩ := Except.bind_eq_ok h
  cases found with
  | none => cases hls : s.lexemes <;> simp only [hls] at h <;> cases h
  | some p =>
    cases hrest : p.rest with
    | cons => simp only [hrest] at h; cases h
    | nil =>
      simp only [hrest] at h
      cases h
      exact ⟨p, hread, hrest, rfl⟩

/-- A text has tokens if it does not end inside a quote. -/
theorem tokenize_eq_ok {text : String} {ls : List Lexeme} :
    tokenize text = .ok ls ↔
      (Cursor.start text).scan.lexemes = ls ∧ (Cursor.start text).scan.ending.check = .ok () := by
  rw [tokenize]
  cases (Cursor.start text).scan.ending with
  | proper => simp [Ending.check]
  | openQuote => simp [Ending.check]

end MailSearch
