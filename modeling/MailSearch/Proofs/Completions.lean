import MailSearch.Proofs.Cutting
import MailSearch.Proofs.Faults

/-!
# What stands before a fault is the beginning of a search

The parser reports a fault at the first place where the text cannot go on as it does, or at the
parenthesis of a group that comes to nothing. `parse_error_completable`: the text before that place
is the beginning of a search, under the same options, if these allow one term for each byte and one
more.

What has to be added depends on how far the parser has come, and that is followed rule by rule.
`Completable` says that the lexemes before a place, and some tokens more, are derived by a rule. At
the place where a rule begins a single word will do (`Completable.here`); behind a qualifier the
colon and a value are missing (`clause_completable`); and each rule turns a completion of its last
part into one of its own. A group is completed by closing it, so completions open no parenthesis,
and the depth of what was read (`Fits`) is enough for them.
-/

namespace MailSearch

open Grammar MailSearch.Parser

/-! ## Derivations within the limit on depth -/

/-- The tokens are derived, and `d` open parentheses leave room for theirs. -/
structure Fits (o : ParseOptions) (rule : Rule) (d : Nat) (ts : List Token) (q : Query) : Prop where
  derived : Derives (TermUnder o.unknownValue) False rule ts q
  depth : d + mostOpen 0 ts ≤ o.maxDepth

namespace Fits

variable {o : ParseOptions} {d : Nat} {ts us ws : List Token} {t : Token} {q r : Query}

/-- A term opens no parenthesis, so it fits wherever the depth is within the limit. -/
theorem term (hd : d ≤ o.maxDepth) (h : TermUnder o.unknownValue ts q) : Fits o .simple d ts q := by
  have hflat := mostOpen_flat ((TermUnder.shape _).flat h) 0 []
  rw [List.append_nil, mostOpen] at hflat
  exact ⟨.term h, by rwa [hflat]⟩

/-- A word by itself. -/
theorem word (hd : d ≤ o.maxDepth) :
    Fits o .simple d [.bare "x"] (.text .anywhere (.bare "x")) :=
  term hd (.known (.word (isText_iff.2 (by decide))))

/-- A simple query is a disjunction, at the same depth. -/
theorem alternative (h : Fits o .simple d ts q) : Fits o .disjunction d ts q :=
  ⟨.alternative h.derived, h.depth⟩

/-- A disjunction is a conjunction, at the same depth. -/
theorem operand (h : Fits o .disjunction d ts q) : Fits o .conjunction d ts q :=
  ⟨.operand h.derived, h.depth⟩

/-- A conjunction is a query, at the same depth. -/
theorem one (h : Fits o .conjunction d ts q) : Fits o .query d ts q :=
  ⟨.one h.derived, h.depth⟩

/-- Behind a derivation and a word that is no parenthesis, as many are open as before. -/
theorem depth_join {rule : Rule} (h : Fits o rule d ts q) (ws : List Token)
    (hws : ∀ opened rest, mostOpen opened (ws ++ rest) = mostOpen opened rest)
    (hus : d + mostOpen 0 us ≤ o.maxDepth) : d + mostOpen 0 (ts ++ (ws ++ us)) ≤ o.maxDepth := by
  rw [h.derived.mostOpen_append (TermUnder.shape _), hws, Nat.zero_add, ← Nat.add_max_add_left]
  exact Nat.max_le.2 ⟨h.depth, hus⟩

/-- The `or` between two alternatives opens no parenthesis, so both keep to the limit together. -/
theorem or (h : Fits o .simple d ts q) (ht : t.isKeyword "or") (h' : Fits o .disjunction d us r) :
    Fits o .disjunction d (ts ++ t :: us) (.or q r) :=
  ⟨.or h.derived ht h'.derived,
    h.depth_join [t] (fun _ _ => mostOpen_keyword ht ⟨rfl, rfl⟩ _ _) h'.depth⟩

/-- Nor does an `and`, written or left out. -/
theorem and (h : Fits o .disjunction d ts q) (hw : OptionalAnd ws)
    (h' : Fits o .conjunction d us r) : Fits o .conjunction d (ts ++ ws ++ us) (.and q r) := by
  refine ⟨.and h.derived hw h'.derived, ?_⟩
  rw [List.append_assoc]
  exact h.depth_join ws hw.mostOpen h'.depth

/-- Nor does a `not`, with an `and` before it or without. -/
theorem butNot (h : Fits o .disjunction d ts q) (hw : OptionalAnd ws) (ht : t.isKeyword "not")
    (h' : Fits o .conjunction d us r) :
    Fits o .conjunction d (ts ++ ws ++ t :: us) (.butNot q r) := by
  refine ⟨.butNot h.derived hw ht h'.derived, ?_⟩
  rw [List.append_assoc]
  refine h.depth_join ws hw.mostOpen ?_
  rw [mostOpen_keyword ht ⟨rfl, rfl⟩]
  exact h'.depth

/-- A group takes one of the parentheses that may be open. -/
theorem group {a b : Token} (ha : a.isKeyword "(") (h : Fits o .query (d + 1) ts q)
    (hb : b.isKeyword ")") : Fits o .simple d (a :: ts ++ [b]) q := by
  have hdepth := h.depth
  refine ⟨.group ha h.derived hb, ?_⟩
  rw [h.derived.mostOpen_group (TermUnder.shape _) ha hb]
  omega

/-- There is a token for each leaf. -/
theorem leafCount_le {rule : Rule} (h : Fits o rule d ts q) : q.leafCount ≤ ts.length :=
  h.derived.leafCount_le (TermUnder.shape _)

end Fits

/-! ## Completions -/

/-- The lexemes before `rest`, which begins at `place`, and some tokens that are added behind them
are derived. Completing them adds one leaf at most. -/
structure Completion (o : ParseOptions) (e : Ending) (rule : Rule) (d : Nat) (ts : List Lexeme)
    (place : Nat) (used rest : List Lexeme) (added : List Token) (q : Query) : Prop where
  lexemes : ts = used ++ rest
  place : e.Marks rest place
  fits : Fits o rule d (used.map Lexeme.token ++ added) q
  leaves : q.leafCount ≤ used.length + 1
  written : ∀ t ∈ added, t.Written

/-- What stands before `place` can be completed to something that the rule derives. -/
def Completable (o : ParseOptions) (e : Ending) (rule : Rule) (d : Nat) (ts : List Lexeme)
    (place : Nat) : Prop :=
  ∃ used rest added q, Completion o e rule d ts place used rest added q

/-- What a rule has read is derived within the limit on depth. -/
def Taken (o : ParseOptions) (rule : Rule) (d : Nat) (ts : List Lexeme) (p : Progress) : Prop :=
  ∃ used, ts = used ++ p.rest ∧ Fits o rule d (used.map Lexeme.token) p.query

section
variable {o : ParseOptions} {e : Ending} {rule rule' : Rule} {d n place : Nat}
  {ts us : List Lexeme} {p : Progress}

/-- Where a simple query must begin, a word can stand. -/
theorem Completable.here (hd : d ≤ o.maxDepth) (h : e.Marks ts place) :
    Completable o e .simple d ts place := by
  have hx : (Token.bare "x").Written := IsWord.written (by decide)
  exact ⟨[], ts, [.bare "x"], _, rfl, h, .word hd, Nat.le_refl _, by simpa using hx⟩

/-- **A completion of the last part is one of the whole**, where the part that comes before it can
be put before every derivation of the last part. -/
theorem Completable.after (h : Completable o e rule d us place) (front : List Lexeme)
    (hfront : ∀ {vs q}, Fits o rule d vs q → ∃ q',
      Fits o rule' d (front.map Lexeme.token ++ vs) q' ∧
        q'.leafCount ≤ front.length + q.leafCount) :
    Completable o e rule' d (front ++ us) place := by
  obtain ⟨used, rest, added, q, hlexemes, hplace, hfits, hleaves, hwritten⟩ := h
  obtain ⟨q', hfits', hleaves'⟩ := hfront hfits
  refine ⟨front ++ used, rest, added, q', ?_, hplace, ?_, ?_, hwritten⟩
  · rw [hlexemes, List.append_assoc]
  · rwa [List.map_append, List.append_assoc]
  · rw [List.length_append]
    omega

/-- A simple query that can be completed is a disjunction that can. -/
theorem Completable.alternative (h : Completable o e .simple d ts place) :
    Completable o e .disjunction d ts place :=
  h.after [] fun hfits => ⟨_, hfits.alternative, Nat.le_add_left _ _⟩

/-- A disjunction that can be completed is a conjunction that can. -/
theorem Completable.operand (h : Completable o e .disjunction d ts place) :
    Completable o e .conjunction d ts place :=
  h.after [] fun hfits => ⟨_, hfits.operand, Nat.le_add_left _ _⟩

/-- A conjunction that can be completed is a query that can. -/
theorem Completable.one (h : Completable o e .conjunction d ts place) :
    Completable o e .query d ts place :=
  h.after [] fun hfits => ⟨_, hfits.one, Nat.le_add_left _ _⟩

/-- A group that was opened is completed by completing what it holds, and closing it. -/
theorem Completable.group {l : Lexeme} (hl : l.token.isKeyword "(")
    (h : Completable o e .query (d + 1) ts place) : Completable o e .simple d (l :: ts) place := by
  obtain ⟨used, rest, added, q, rfl, hplace, hfits, hleaves, hwritten⟩ := h
  refine ⟨l :: used, rest, added ++ [.bare ")"], q, rfl, hplace, ?_, ?_, ?_⟩
  · have hgroup := hfits.group hl (b := .bare ")") rfl
    simpa using hgroup
  · exact Nat.le_trans hleaves (Nat.le_succ _)
  · intro t ht
    rcases List.mem_append.1 ht with ht | ht
    · exact hwritten t ht
    · obtain rfl := List.mem_singleton.1 ht
      exact .delimiter (c := ')') rfl

/-- What was read to the end needs nothing more. -/
theorem Taken.completable {l : Lexeme} {rest : List Lexeme} (h : Taken o rule d ts p)
    (hrest : p.rest = l :: rest) : Completable o e rule d ts l.position := by
  obtain ⟨used, hts, hfits⟩ := h
  have hleaves := hfits.leafCount_le
  rw [List.length_map] at hleaves
  refine ⟨used, p.rest, [], p.query, hts, ?_, ?_, Nat.le_succ_of_le hleaves, nofun⟩
  · rw [hrest]
    exact .lexeme l rest
  · rwa [List.append_nil]

/-! ## Outcomes of a rule -/

/-- A result is as it should be, or a fault was found at a place that is as it should be. Nothing is
said about an open quote. -/
structure Ensures {α : Type} (good : α → Prop) (bad : Nat → Prop) (x : Except Error α) : Prop where
  ok : ∀ a, x = .ok a → good a
  fault : ∀ place fault, x = .error (.parse place fault) → bad place

namespace Ensures

variable {α β : Type} {good : α → Prop} {good' : β → Prop} {bad bad' : Nat → Prop}

/-- A result that is as it should be. -/
theorem ofOk {a : α} (h : good a) : Ensures good bad (.ok a) where
  ok a' ha := by
    cases ha
    exact h
  fault := nofun

/-- A fault at a place that is as it should be. -/
theorem ofFault {fault : Fault} (h : bad place) :
    Ensures good bad (.error (.parse place fault)) where
  ok := nofun
  fault place' fault' herr := by
    cases herr
    exact h

/-- Reading on: a fault of the first part is one of the whole. -/
theorem bind {x : Except Error α} {f : α → Except Error β} (h : Ensures good bad x)
    (hbad : ∀ place, bad place → bad' place)
    (hf : ∀ a, x = .ok a → good a → Ensures good' bad' (f a)) : Ensures good' bad' (x >>= f) where
  ok b hb := by
    obtain ⟨a, ha, hb⟩ := Except.bind_eq_ok hb
    exact (hf a ha (h.ok a ha)).ok b hb
  fault place fault herr := by
    rcases Except.bind_eq_error herr with hx | ⟨a, ha, herr⟩
    · exact hbad place (h.fault place fault hx)
    · exact (hf a ha (h.ok a ha)).fault place fault herr

/-- Changing the result changes nothing about the places of faults. -/
theorem map {x : Except Error α} {f : α → β} (h : Ensures (fun a => good' (f a)) bad x) :
    Ensures good' bad (x.map f) where
  ok b hb := by
    obtain ⟨a, ha, rfl⟩ := Except.map_eq_ok hb
    exact h.ok a ha
  fault place fault herr := h.fault place fault (Except.map_eq_error herr)

end Ensures

/-- A text whose end is at fault ends at the place of the fault. -/
theorem Ending.marks_of_error {fault fault' : Fault} (h : e.error fault = .parse place fault') :
    e.Marks [] place := by
  cases e with
  | proper =>
    cases h
    exact .ending rfl
  | openQuote => cases h

/-- Where a text may end, the end is an open quote at worst, and no fault of the tokens. -/
theorem Ending.check_ensures (e : Ending) :
    Ensures (fun _ => True) (fun _ => False) e.check where
  ok _ _ := trivial
  fault _ _ h := by cases e <;> cases h

/-! ## Terms -/

/-- A value that the qualifier knows. -/
def Qualifier.sample : Qualifier → String
  | possession => "attachment"
  | field _ | date _ | state => "read"

/-- The sample is a word, so it can be written without quotes. -/
theorem Qualifier.sample_isWord (k : Qualifier) : IsWord k.sample := by
  cases k with
  | possession => exact (by decide : IsWord "attachment")
  | field | date | state => exact (by decide : IsWord "read")

/-- With that value the qualifier is a term. -/
theorem Qualifier.sample_term {k : Qualifier} {t c : Token} (ht : ofToken? t = some k)
    (hspecial : t.isDelimiter = false ∧ t.isOperator = false) (hc : c.isKeyword ":") :
    ∃ q, TermUnder o.unknownValue [t, c, .bare k.sample] q := by
  have hterm : ∃ q, k.term o t ⟨0, .bare k.sample⟩ = .ok q := by
    cases k <;> exact ⟨_, rfl⟩
  have hvalue : (Token.bare k.sample).isDelimiter = false := by
    cases k <;> rfl
  obtain ⟨q, hq⟩ := hterm
  have hclause : clause o (.proper 0) t [⟨0, c⟩, ⟨0, .bare k.sample⟩] = .ok (q, []) :=
    clause_eq_ok.2 (.inr ⟨k, ⟨0, c⟩, ⟨0, .bare k.sample⟩, ht, rfl, hc, hvalue, hq⟩)
  obtain ⟨used, hused, h⟩ := ((readsTerms o).clause_iff hspecial.1 hspecial.2).1 hclause
  rw [List.append_nil] at hused
  subst hused
  exact ⟨q, h⟩

/-- The fault about a missing colon marks the token that stands in its place, or the end. -/
theorem expectColon_marks {name : Token} {fault : Fault}
    (h : expectColon e name ts = .error (.parse place fault)) : e.Marks ts place := by
  cases ts with
  | nil => exact Ending.marks_of_error (Except.error.inj h)
  | cons l ts =>
    rw [expectColon] at h
    split at h
    · cases h
    · cases h
      exact .lexeme l ts

/-- The fault about a missing value marks the token that stands in its place, or the end. -/
theorem expectValue_marks {name : Token} {fault : Fault}
    (h : expectValue e name ts = .error (.parse place fault)) : e.Marks ts place := by
  cases ts with
  | nil => exact Ending.marks_of_error (Except.error.inj h)
  | cons l ts =>
    rw [expectValue] at h
    split at h
    · cases h
      exact .lexeme l ts
    · cases h

/-- **A term that is broken off can be completed**: a qualifier lacks its colon and value, or only
the value, or it does not know the one that is there. -/
theorem clause_completable {l : Lexeme} {fault : Fault} (hd : d ≤ o.maxDepth)
    (hspecial : l.token.isDelimiter = false ∧ l.token.isOperator = false)
    (h : clause o e l.token ts = .error (.parse place fault)) :
    Completable o e .simple d (l :: ts) place := by
  rw [clause] at h
  split at h
  next => cases h
  next k hk =>
    have hsample := k.sample_isWord.written
    have hvalue : ∀ {c us}, ts = c :: us → c.token.isKeyword ":" → e.Marks us place →
        Completable o e .simple d (l :: ts) place := by
      rintro c us rfl hc hplace
      obtain ⟨q, hq⟩ := Qualifier.sample_term hk hspecial hc
      have hleaf := (TermUnder.shape _).leaf hq
      exact ⟨[l, c], us, [.bare k.sample], q, rfl, hplace, .term hd hq,
        by rw [hleaf]; exact Nat.le_add_left _ _, by simpa using hsample⟩
    rcases Except.bind_eq_error h with hcolon | ⟨us, hcolon, hafter⟩
    · obtain ⟨q, hq⟩ := Qualifier.sample_term hk hspecial (c := .bare ":") rfl
      have hleaf := (TermUnder.shape _).leaf hq
      have hwritten : ∀ t ∈ [Token.bare ":", .bare k.sample], t.Written := by
        intro t ht
        simp only [List.mem_cons, List.not_mem_nil, or_false] at ht
        rcases ht with rfl | rfl
        · exact .delimiter (c := ':') rfl
        · exact hsample
      exact ⟨[l], ts, [.bare ":", .bare k.sample], q, rfl, expectColon_marks hcolon,
        .term hd hq, by rw [hleaf]; exact Nat.le_add_left _ _, hwritten⟩
    obtain ⟨c, hts, hc⟩ := expectColon_eq_ok.1 hcolon
    rcases Except.bind_eq_error hafter with hmissing | ⟨⟨v, rest⟩, hfound, hlast⟩
    · exact hvalue hts hc (expectValue_marks hmissing)
    obtain ⟨hus, -⟩ := expectValue_eq_ok.1 hfound
    rcases Except.bind_eq_error hlast with hunknown | ⟨q, -, hpure⟩
    · obtain ⟨known, herr⟩ := Qualifier.term_error hunknown
      cases herr
      exact hvalue hts hc (hus ▸ .lexeme v rest)
    · cases hpure

/-- A clause that is read is a term, and one that is not read can be completed. -/
theorem clause_ensures {l : Lexeme} (hd : d ≤ o.maxDepth)
    (hspecial : l.token.isDelimiter = false ∧ l.token.isOperator = false) :
    Ensures (fun read : Query × List Lexeme => Taken o .simple d (l :: ts) ⟨read.1, n, read.2⟩)
      (Completable o e .simple d (l :: ts)) (clause o e l.token ts) where
  ok read h := by
    obtain ⟨used, rfl, hterm⟩ := ((readsTerms o).clause_iff hspecial.1 hspecial.2).1 h
    exact ⟨l :: used, rfl, .term hd hterm⟩
  fault place fault := clause_completable hd hspecial

/-! ## The rules -/

/-- A group: what stands inside it is read or can be completed, and then it is closed. -/
theorem readGroup_ensures {l : Lexeme} (hd : d ≤ o.maxDepth) (hl : l.token.isKeyword "(")
    (ih : ∀ d n, d ≤ o.maxDepth → Ensures (fun found => ∀ p ∈ found, Taken o .query d ts p)
      (Completable o e .query d ts) (readQuery o e d n ts)) :
    Ensures (Taken o .simple d (l :: ts)) (Completable o e .simple d (l :: ts))
      (readGroup o e d n ts l.position) := by
  -- A group that is too deep, empty or never closed is reported where it begins.
  have hbegin : Completable o e .simple d (l :: ts) l.position := .here hd (.lexeme l ts)
  rw [readGroup_eq]
  split
  next => exact .ofFault hbegin
  next hdeep =>
    refine (ih (d + 1) n (Nat.lt_of_not_le hdeep)).bind (fun _ h => h.group hl) ?_
    intro found hfound htaken
    cases found with
    | none => exact .ofFault hbegin
    | some inner =>
      have hstops := ((read_sound (readsTerms o) e ts _ _).2.2.2 inner hfound).stops
      obtain ⟨used, hts, hfits⟩ := htaken inner rfl
      cases hrest : inner.rest with
      | nil =>
        simp only [hrest]
        exact .ofFault hbegin
      | cons c rest =>
        have hclose : c.token.isKeyword ")" := hstops c (by rw [hrest]; rfl)
        simp only [hrest, hclose, if_true]
        refine .ofOk ⟨l :: used ++ [c], by simp [hts, hrest], ?_⟩
        rw [List.map_append]
        exact hfits.group hl hclose

/-- A simple query is read, or what stands before the fault can be completed to one. -/
theorem readSimple_ensures (hd : d ≤ o.maxDepth)
    (ih : ∀ us : List Lexeme, us.length < ts.length → ∀ d n, d ≤ o.maxDepth →
      Ensures (fun found => ∀ p ∈ found, Taken o .query d us p) (Completable o e .query d us)
        (readQuery o e d n us)) :
    Ensures (Taken o .simple d ts) (Completable o e .simple d ts) (readSimple o e d n ts) := by
  cases ts with
  | nil =>
    rw [readSimple_nil]
    refine ⟨nofun, fun place fault h => .here hd (Ending.marks_of_error (Except.error.inj h))⟩
  | cons l ts =>
    have hbegin : Completable o e .simple d (l :: ts) l.position := .here hd (.lexeme l ts)
    rw [readSimple_cons]
    split
    next hl => exact readGroup_ensures hd hl (ih ts (Nat.lt_succ_self _))
    split
    next => exact .ofFault hbegin
    next hdelim =>
      split
      next => exact .ofFault hbegin
      next hop =>
        split
        next => exact .ofFault hbegin
        next =>
          simp only [Bool.not_eq_true] at hdelim hop
          exact (clause_ensures hd ⟨hdelim, hop⟩).map

/-- So for disjunctions: before an `or` all was read, and what comes after it can be completed. -/
theorem readDisjunction_ensures
    (hs : Ensures (Taken o .simple d ts) (Completable o e .simple d ts) (readSimple o e d n ts))
    (ih : ∀ us : List Lexeme, us.length < ts.length → ∀ n,
      Ensures (Taken o .disjunction d us) (Completable o e .disjunction d us)
        (readDisjunction o e d n us)) :
    Ensures (Taken o .disjunction d ts) (Completable o e .disjunction d ts)
      (readDisjunction o e d n ts) := by
  rw [readDisjunction_eq]
  refine hs.bind (fun _ h => h.alternative) fun first hfirst htaken => ?_
  have hlt := ((read_sound (readsTerms o) e ts d n).1 first hfirst).length_lt (TermUnder.shape _)
  obtain ⟨used, hts, hfits⟩ := htaken
  have hleaves := hfits.leafCount_le
  rw [List.length_map] at hleaves
  have hdone : Taken o .disjunction d ts first := ⟨used, hts, hfits.alternative⟩
  cases hrest : first.rest with
  | nil =>
    simp only
    exact e.check_ensures.bind nofun fun _ _ _ => .ofOk hdone
  | cons l tail =>
    rw [hrest] at hlt hts
    simp only
    split
    next hor =>
      have hsplit : ts = (used ++ [l]) ++ tail := by simp [hts]
      refine (ih tail (Nat.lt_of_succ_lt hlt) first.terms).bind (fun place h => ?_) ?_
      · rw [hsplit]
        refine h.after _ fun {vs q} hnext => ⟨.or first.query q, ?_, ?_⟩
        · simpa using hfits.or hor hnext
        · rw [Query.leafCount, List.length_append, List.length_singleton]
          omega
      · rintro next - ⟨used', htail, hnext⟩
        refine .ofOk ⟨used ++ l :: used', ?_, ?_⟩
        · rw [hts, htail]
          simp
        · rw [List.map_append, List.map_cons]
          exact hfits.or hor hnext
    next => exact .ofOk hdone

/-- So for conjunctions: before the words that join two parts all was read, and what comes after
them can be completed. -/
theorem readConjunction_ensures
    (hs : Ensures (Taken o .disjunction d ts) (Completable o e .disjunction d ts)
      (readDisjunction o e d n ts))
    (ih : ∀ us : List Lexeme, us.length < ts.length → ∀ n,
      Ensures (Taken o .conjunction d us) (Completable o e .conjunction d us)
        (readConjunction o e d n us)) :
    Ensures (Taken o .conjunction d ts) (Completable o e .conjunction d ts)
      (readConjunction o e d n ts) := by
  rw [readConjunction_eq]
  refine hs.bind (fun _ h => h.operand) fun first hfirst htaken => ?_
  have hlt := ((read_sound (readsTerms o) e ts d n).2.1 first hfirst).length_lt (TermUnder.shape _)
  obtain ⟨used, hts, hfits⟩ := htaken
  have hleaves := hfits.leafCount_le
  rw [List.length_map] at hleaves
  have hdone : Taken o .conjunction d ts first := ⟨used, hts, hfits.operand⟩
  cases hrest : first.rest with
  | nil => exact .ofOk hdone
  | cons l tail =>
    rw [hrest] at hlt hts
    simp only
    split
    next => exact .ofOk hdone
    next =>
      have hlen := Nat.lt_of_le_of_lt (joint_length_le (l :: tail)) hlt
      -- What is read before the next operand is the first one and the words of the join.
      obtain ⟨ws, hsplit, hjoin⟩ : ∃ ws, l :: tail = ws ++ (joint (l :: tail)).2 ∧
          ∀ {vs q}, Fits o .conjunction d vs q →
            Fits o .conjunction d ((used ++ ws).map Lexeme.token ++ vs)
              ((joint (l :: tail)).1.combine first.query q) := by
        rcases joint_cases (l :: tail) with ⟨ws, hw, hand, heq⟩ | ⟨ws, c, hw, hc, hnot, heq⟩
        · refine ⟨ws, heq, fun hnext => ?_⟩
          rw [hand, List.map_append]
          exact hfits.and hw hnext
        · refine ⟨ws ++ [c], by rw [List.append_assoc]; exact heq, fun hnext => ?_⟩
          rw [hnot]
          simpa [Join.combine] using hfits.butNot hw hc hnext
      have hwhole : ts = (used ++ ws) ++ (joint (l :: tail)).2 := by
        rw [hts, List.append_assoc, ← hsplit]
      refine (ih _ hlen first.terms).bind (fun place h => ?_) ?_
      · rw [hwhole]
        refine h.after _ fun hnext => ⟨_, hjoin hnext, ?_⟩
        rw [List.length_append]
        cases (joint (l :: tail)).1 <;> simp only [Join.combine, Query.leafCount] <;> omega
      · rintro next - ⟨used', hoperand, hnext⟩
        refine .ofOk ⟨used ++ ws ++ used', ?_, ?_⟩
        · rw [List.append_assoc (used ++ ws), ← hoperand]
          exact hwhole
        · rw [List.map_append]
          exact hjoin hnext

/-- So for queries, which are one conjunction or nothing. -/
theorem readQuery_ensures
    (hs : Ensures (Taken o .conjunction d ts) (Completable o e .conjunction d ts)
      (readConjunction o e d n ts)) :
    Ensures (fun found => ∀ p ∈ found, Taken o .query d ts p) (Completable o e .query d ts)
      (readQuery o e d n ts) := by
  have hend : Ensures (fun found : Option Progress => found = none) (fun _ => False)
      (e.check.map fun _ => none) :=
    Ensures.map ⟨fun _ _ => rfl, e.check_ensures.fault⟩
  cases ts with
  | nil =>
    rw [readQuery_nil]
    refine ⟨fun found h => ?_, fun place fault h => (hend.fault place fault h).elim⟩
    rw [hend.ok found h]
    exact nofun
  | cons l ts =>
    rw [readQuery_cons]
    split
    next => exact .ofOk nofun
    next =>
      refine hs.bind (fun _ h => h.one) fun first hfirst htaken => ?_
      obtain ⟨used, hts, hfits⟩ := htaken
      have hstops := ((read_sound (readsTerms o) e (l :: ts) d n).2.2.1 first hfirst).stops
      have hmore : Ensures (fun found => found = none) (fun _ => False)
          (readQuery o e d first.terms first.rest) := by
        cases hrest : first.rest with
        | nil =>
          rw [readQuery_nil]
          exact hend
        | cons c rest =>
          have hclose : c.token.isKeyword ")" := hstops c (by rw [hrest]; rfl)
          rw [readQuery_cons, if_pos hclose]
          exact .ofOk rfl
      refine hmore.bind nofun fun found _ hnone => ?_
      subst hnone
      refine .ofOk fun p hp => ?_
      cases hp
      exact ⟨used, hts, hfits.one⟩

end

/-- **Whatever a rule comes to, what it read is a beginning**: it is derived, or it can be completed
up to the place of the fault. -/
theorem read_ensures (o : ParseOptions) (e : Ending) (ts : List Lexeme) : ∀ d n, d ≤ o.maxDepth →
    Ensures (Taken o .simple d ts) (Completable o e .simple d ts) (readSimple o e d n ts) ∧
    Ensures (Taken o .disjunction d ts) (Completable o e .disjunction d ts)
      (readDisjunction o e d n ts) ∧
    Ensures (Taken o .conjunction d ts) (Completable o e .conjunction d ts)
      (readConjunction o e d n ts) ∧
    Ensures (fun found => ∀ p ∈ found, Taken o .query d ts p) (Completable o e .query d ts)
      (readQuery o e d n ts) := by
  -- As in `read_sound`, a rule calls the next one on the same lexemes and itself on fewer.
  induction hlen : ts.length using Nat.strongRecOn generalizing ts with
  | ind m ih =>
    subst hlen
    intro d n hd
    have hsimple : Ensures (Taken o .simple d ts) (Completable o e .simple d ts)
        (readSimple o e d n ts) :=
      readSimple_ensures hd fun us hlt d n hd => (ih _ hlt us rfl d n hd).2.2.2
    have hdisj := readDisjunction_ensures hsimple fun us hlt n => (ih _ hlt us rfl d n hd).2.1
    have hconj := readConjunction_ensures hdisj fun us hlt n => (ih _ hlt us rfl d n hd).2.2.1
    exact ⟨hsimple, hdisj, hconj, readQuery_ensures hconj⟩

/-! ## Whole texts -/

/-- The lexemes before a fault can be completed to those of a search. -/
theorem Scan.parse_completable {s : Scan} {o : ParseOptions} {place : Nat} {fault : Fault}
    (h : s.parse o = .error (.parse place fault)) :
    Completable o s.ending .query 0 s.lexemes place := by
  have hread := (read_ensures o s.ending s.lexemes 0 0 (Nat.zero_le _)).2.2.2
  rw [Scan.parse_eq] at h
  rcases Except.bind_eq_error h with herr | ⟨found, hfound, h⟩
  · exact hread.fault place fault herr
  cases found with
  | none =>
    cases hls : s.lexemes with
    | nil =>
      simp only [hls] at h
      cases h
    | cons l ls =>
      simp only [hls] at h
      cases h
      exact (Completable.here (Nat.zero_le _) (.lexeme l ls)).alternative.operand.one
  | some p =>
    cases hrest : p.rest with
    | nil =>
      simp only [hrest] at h
      cases h
    | cons l rest =>
      simp only [hrest] at h
      cases h
      exact (hread.ok _ hfound p rfl).completable hrest

/-- **What stands before a fault is the beginning of a search.** Where a text is refused for a fault
at some place, and the options allow more terms than the text has bytes, the text before that place
can be continued so that it is parsed under the same options. -/
theorem parse_error_completable {text : String} {o : ParseOptions} {place : Nat} {fault : Fault}
    (hterms : text.utf8ByteSize < o.maxTerms)
    (h : Query.parse text o = .error (.parse place fault)) :
    ∃ front back, text = front ++ back ∧ front.utf8ByteSize = place ∧
      ∃ added q, Query.parse (front ++ added) o = .ok q := by
  obtain ⟨used, rest, added, q, hlexemes, hplace, hfits, hleaves, hwritten⟩ :=
    Scan.parse_completable h
  obtain ⟨front, back, hcut⟩ := Cursor.cut hlexemes hplace
  have htext : text.toList = front ++ back := hcut.text
  have hfront : place = 0 + Text.byteLength front := hcut.place
  refine ⟨String.ofList front, String.ofList back, ?_, ?_, String.ofList (spaced added), q, ?_⟩
  · rw [← String.toList_inj, htext]
    simp
  · rw [hfront, Nat.zero_add, Text.utf8ByteSize_ofList]
  · have hscans := hcut.scans.append (Scans.spaced hwritten) fun _ hcs =>
      (Boundary.spaced added).append hcs
    refine Query.parse_of_scans (by simpa using hscans) hfits.derived ?_ ?_
    · simpa using hfits.depth
    · -- Each leaf but one has a lexeme of its own in the text, and each lexeme a byte.
      have hlength := length_tokensOf_le text
      rw [tokensOf, List.length_map, hlexemes, List.length_append] at hlength
      omega

/-- A value that is not known, inside a group that uses up the depth: what stands before it lacks a
value and the parenthesis. A group that is never closed is reported where it begins. -/
theorem parse_error_completable_group :
    let o : ParseOptions := { maxDepth := 1, maxTerms := 20 }
    Query.parse "a OR (b is:\"c" o = .error (.lex 11 "\"c") ∧
    (Query.parse "a OR (b is:c" o =
        .error (.parse 11 (.unknownValue (.bare "is") (.bare "c")
          ["read", "unread", "starred", "unstarred"])) ∧
      ∃ front back, "a OR (b is:c" = front ++ back ∧ front.utf8ByteSize = 11 ∧
        ∃ added q, Query.parse (front ++ added) o = .ok q) ∧
    (Query.parse "a OR (b" o = .error (.parse 5 .unclosedGroup) ∧
      ∃ front back, "a OR (b" = front ++ back ∧ front.utf8ByteSize = 5 ∧
        ∃ added q, Query.parse (front ++ added) o = .ok q) := by
  intro o
  have hquote : Query.parse "a OR (b is:\"c" o = .error (.lex 11 "\"c") := by decide +kernel
  have hvalue : Query.parse "a OR (b is:c" o =
      .error (.parse 11 (.unknownValue (.bare "is") (.bare "c")
        ["read", "unread", "starred", "unstarred"])) := by decide +kernel
  have hopen : Query.parse "a OR (b" o = .error (.parse 5 .unclosedGroup) := by decide +kernel
  exact ⟨hquote, ⟨hvalue, parse_error_completable (by decide) hvalue⟩,
    ⟨hopen, parse_error_completable (by decide) hopen⟩⟩

end MailSearch
