import Mathlib.Control.Monad.Basic
import MailSearch.Proofs.Clauses

/-!
# The parser reads the grammar

`parse_iff_derives`: a text is a search exactly if its tokens are derived by the grammar and keep to
the two limits, on the parentheses that are open at once (`Grammar.mostOpen`) and on the leaves of
the tree. The tree is that of the derivation in which each query is one conjunction
(`Grammar.Answers`). The two directions go by different inductions.

* Completeness (`Grammar.Derives.delivers`) is by induction on the derivation. Reading a derivation
  either gives its tree or reaches a limit that the derivation does not keep to
  (`Grammar.Delivers`), so the limits are taken along and not assumed away. A rule reads as far as
  its derivation goes because of what comes after it (`Grammar.Rule.Stops`).
* Soundness (`Grammar.read_sound`) is by induction on the number of tokens, for the four rules at
  once. What a rule has read is derived, and what is left begins where the rule stops.

The parser compares the values of `is:` and `has:` by their text, quotes or no quotes, so the
grammar it reads is the one with `Grammar.anyValue`. With keywords for values
(`Grammar.unquotedValue`) the grammar is smaller (`quoted_value_is_parsed`), and the parser answers
by it too on every text in which no such value is quoted (`Grammar.HasQuotedValue`).
-/

namespace MailSearch

namespace Grammar

/-! ## Outcomes up to the two limits -/

/-- What reading a derivation ends in: its value if it keeps to both limits, and otherwise the fault
of a limit that it does not keep to. -/
inductive Delivers {α : Type} (o : ParseOptions) (depth terms : Nat) (value : α) :
    Except Error α → Prop where
  | ok (hd : depth ≤ o.maxDepth) (hn : terms ≤ o.maxTerms) :
      Delivers o depth terms value (.ok value)
  | tooDeep (position : Nat) (hd : o.maxDepth < depth) :
      Delivers o depth terms value (.error (.parse position (.tooDeep o.maxDepth)))
  | tooManyTerms (position : Nat) (hn : o.maxTerms < terms) :
      Delivers o depth terms value (.error (.parse position (.tooManyTerms o.maxTerms)))

/-- Reading on: the first part may reach a limit, and then the whole does. -/
theorem Delivers.bind {α β : Type} {o : ParseOptions} {d d' n n' : Nat} {a : α} {b : β}
    {x : Except Error α} {f : α → Except Error β} (h : Delivers o d n a x) (hd : d ≤ d')
    (hn : n ≤ n') (hf : d ≤ o.maxDepth → n ≤ o.maxTerms → Delivers o d' n' b (f a)) :
    Delivers o d' n' b (x >>= f) := by
  cases h with
  | ok h1 h2 => exact hf h1 h2
  | tooDeep p h => exact .tooDeep p (Nat.lt_of_lt_of_le h hd)
  | tooManyTerms p h => exact .tooManyTerms p (Nat.lt_of_lt_of_le h hn)

/-- Where a rule stops reading. -/
def Rule.Stops : Rule → List Lexeme → Prop
  | .simple, _ => True
  | .disjunction, rest => ∀ l ∈ rest.head?, l.token.isKeyword "or" = false
  | .conjunction, rest | .query, rest => ∀ l ∈ rest.head?, l.token.isKeyword ")" = true

open MailSearch.Parser in
/-- The rule `rule` of the parser delivers `p`. -/
def Rule.Delivers (o : ParseOptions) (e : Ending) (rule : Rule) (d n : Nat) (ts : List Lexeme)
    (depth : Nat) (p : Progress) : Prop :=
  match rule with
  | .query => Grammar.Delivers o depth p.terms (some p) (readQuery o e d n ts)
  | .conjunction => Grammar.Delivers o depth p.terms p (readConjunction o e d n ts)
  | .disjunction => Grammar.Delivers o depth p.terms p (readDisjunction o e d n ts)
  | .simple => Grammar.Delivers o depth p.terms p (readSimple o e d n ts)

section
variable {o : ParseOptions} {e : Ending} {d n k k' : Nat} {ts us : List Lexeme} {p s : Progress}

open MailSearch.Parser

/-- A conjunction after which the query stops is the whole query. -/
theorem Delivers.one {l : Lexeme} (he : e.check = .ok ()) (hl : l.token.isKeyword ")" = false)
    (hrest : Rule.query.Stops p.rest)
    (h : Delivers o k p.terms p (readConjunction o e d n (l :: ts))) :
    Delivers o k p.terms (some p) (readQuery o e d n (l :: ts)) := by
  rw [readQuery_cons, hl]
  refine h.bind (Nat.le_refl _) (Nat.le_refl _) fun hd hn => ?_
  have hnone : readQuery o e d p.terms p.rest = .ok none := by
    cases hp : p.rest with
    | nil => rw [readQuery_nil, he]; rfl
    | cons l' rest => rw [readQuery_cons, hrest l' (by rw [hp]; rfl)]; rfl
  rw [hnone]
  exact .ok hd hn

/-- A disjunction after which the conjunction stops is the whole conjunction. -/
theorem Delivers.operand (hrest : Rule.conjunction.Stops p.rest)
    (h : Delivers o k p.terms p (readDisjunction o e d n ts)) :
    Delivers o k p.terms p (readConjunction o e d n ts) := by
  rw [readConjunction_eq]
  refine h.bind (Nat.le_refl _) (Nat.le_refl _) fun hd hn => ?_
  cases hp : p.rest with
  | nil => exact .ok hd hn
  | cons l' rest =>
    simp only [hrest l' (by rw [hp]; rfl), Bool.or_true, if_true]
    exact .ok hd hn

/-- The join before an operand: an `AND` is dropped. -/
theorem joint_operand {ws : List Lexeme} {l : Lexeme} (us : List Lexeme)
    (hw : OptionalAnd (ws.map Lexeme.token))
    (hand : l.token.isKeyword "and" = false) (hnot : l.token.isKeyword "not" = false) :
    joint (ws ++ l :: us) = (.and, l :: us) := by
  rcases hw with hw | ⟨t, ht, hw⟩
  · rw [List.map_eq_nil_iff.1 hw]
    simp [joint, hand, hnot]
  · obtain ⟨a, rfl, rfl⟩ := List.map_eq_singleton_iff.1 hw
    simp [joint, ht, hnot]

/-- The join before a `NOT`: an `AND` is dropped, and the `NOT` is taken. -/
theorem joint_not {ws : List Lexeme} {l : Lexeme} (us : List Lexeme)
    (hw : OptionalAnd (ws.map Lexeme.token))
    (hnot : l.token.isKeyword "not") : joint (ws ++ l :: us) = (.butNot, us) := by
  have hand : l.token.isKeyword "and" = false := Token.isKeyword_congr hnot _
  rcases hw with hw | ⟨t, ht, hw⟩
  · rw [List.map_eq_nil_iff.1 hw]
    simp [joint, hand, hnot]
  · obtain ⟨a, rfl, rfl⟩ := List.map_eq_singleton_iff.1 hw
    simp [joint, ht, hnot]

/-- A conjunction goes on at an `AND` and at an operand or `NOT`. -/
theorem goes_on {ws : List Lexeme} {l : Lexeme} (us : List Lexeme)
    (hw : OptionalAnd (ws.map Lexeme.token))
    (hor : l.token.isKeyword "or" = false) (hclose : l.token.isKeyword ")" = false) :
    ∃ l' rest, ws ++ l :: us = l' :: rest ∧ l'.token.isKeyword "or" = false ∧
      l'.token.isKeyword ")" = false := by
  rcases hw with hw | ⟨t, ht, hw⟩
  · rw [List.map_eq_nil_iff] at hw
    subst hw
    exact ⟨l, us, rfl, hor, hclose⟩
  · obtain ⟨a, rfl, rfl⟩ := List.map_eq_singleton_iff.1 hw
    exact ⟨a, l :: us, rfl, Token.isKeyword_congr ht _, Token.isKeyword_congr ht _⟩

/-- A disjunction stops there. -/
theorem stops_join {ws : List Lexeme} {l : Lexeme} (us : List Lexeme)
    (hw : OptionalAnd (ws.map Lexeme.token))
    (hor : l.token.isKeyword "or" = false) (hclose : l.token.isKeyword ")" = false) :
    Rule.disjunction.Stops (ws ++ l :: us) := by
  obtain ⟨l', rest, hgo, hor', -⟩ := goes_on us hw hor hclose
  rw [hgo]
  intro x hx
  obtain rfl := Option.some.inj hx
  exact hor'

/-- Two parts of a conjunction: the second is read on from the first, past the words that join them,
and the deeper of the two decides about the limit. -/
theorem Delivers.join {ws : List Lexeme} {l : Lexeme} (hw : OptionalAnd (ws.map Lexeme.token))
    (hor : l.token.isKeyword "or" = false) (hclose : l.token.isKeyword ")" = false)
    (hp : p.rest = ws ++ l :: us) (hle : p.terms ≤ s.terms)
    (h : Delivers o k p.terms p (readDisjunction o e d n ts))
    (h' : Delivers o k' s.terms s (readConjunction o e d p.terms (joint p.rest).2)) :
    Delivers o (max k k') s.terms
      ⟨(joint p.rest).1.combine p.query s.query, s.terms, s.rest⟩
      (readConjunction o e d n ts) := by
  obtain ⟨l', rest, hgo, hor', hclose'⟩ := goes_on us hw hor hclose
  rw [hgo] at hp
  rw [readConjunction_eq]
  refine h.bind (Nat.le_max_left _ _) hle fun hd hn => ?_
  simp only [hp, hor', hclose', Bool.or_self] at h' ⊢
  refine h'.bind (Nat.le_max_right _ _) (Nat.le_refl _) fun hd' hn' => ?_
  exact .ok (Nat.max_le.2 ⟨hd, hd'⟩) hn'

/-- A simple query that no `or` follows is the whole disjunction. -/
theorem Delivers.alternative (he : e.check = .ok ()) (hrest : Rule.disjunction.Stops p.rest)
    (h : Delivers o k p.terms p (readSimple o e d n ts)) :
    Delivers o k p.terms p (readDisjunction o e d n ts) := by
  rw [readDisjunction_eq]
  refine h.bind (Nat.le_refl _) (Nat.le_refl _) fun hd hn => ?_
  cases hp : p.rest with
  | nil =>
    simp only [he]
    exact .ok hd hn
  | cons l' rest =>
    simp only [hrest l' (by rw [hp]; rfl)]
    exact .ok hd hn

/-- Two alternatives: the second is read on from the first, past the `or`. -/
theorem Delivers.or {l : Lexeme} (hp : p.rest = l :: us) (hl : l.token.isKeyword "or")
    (hle : p.terms ≤ s.terms) (h : Delivers o k p.terms p (readSimple o e d n ts))
    (h' : Delivers o k' s.terms s (readDisjunction o e d p.terms us)) :
    Delivers o (max k k') s.terms ⟨.or p.query s.query, s.terms, s.rest⟩
      (readDisjunction o e d n ts) := by
  rw [readDisjunction_eq]
  refine h.bind (Nat.le_max_left _ _) hle fun hd hn => ?_
  simp only [hp, hl, if_true]
  refine h'.bind (Nat.le_max_right _ _) (Nat.le_refl _) fun hd' hn' => ?_
  exact .ok (Nat.max_le.2 ⟨hd, hd'⟩) hn'

/-- A group is what stands inside it, read one level deeper. -/
theorem Delivers.group {a b : Lexeme} (ha : a.token.isKeyword "(") (hp : p.rest = b :: us)
    (hb : b.token.isKeyword ")") (hk : d < k)
    (h : d < o.maxDepth → Delivers o k p.terms (some p) (readQuery o e (d + 1) n ts)) :
    Delivers o k p.terms ⟨p.query, p.terms, us⟩ (readSimple o e d n (a :: ts)) := by
  rw [readSimple_cons, ha, if_pos rfl, readGroup_eq]
  split
  next hd => exact .tooDeep _ (Nat.lt_of_le_of_lt hd hk)
  next hd =>
    refine (h (Nat.lt_of_not_le hd)).bind (Nat.le_refl _) (Nat.le_refl _) fun hd hn => ?_
    simp only [hp, hb, if_true]
    exact .ok hd hn

/-- A term opens no parenthesis and counts as one leaf more. -/
theorem Delivers.term {term : List Token → Query → Prop} (ht : ReadsTerms o term) {l : Lexeme}
    {rest : List Lexeme} {q : Query} (hd : d ≤ o.maxDepth)
    (h : term (l.token :: ts.map Lexeme.token) q) :
    Delivers o d (n + 1) ⟨q, n + 1, rest⟩ (readSimple o e d n (l :: ts ++ rest)) := by
  obtain ⟨t, us, hts, hdelim, hop⟩ := ht.head h
  obtain ⟨rfl, -⟩ := List.cons.inj hts
  have hclause : clause o e l.token (ts ++ rest) = .ok (q, rest) :=
    (ht.clause_iff hdelim hop).2 ⟨ts, rfl, h⟩
  rw [List.cons_append, readSimple_cons, (Token.not_parenthesis hdelim).1, hdelim, hop, hclause]
  simp only [Bool.false_eq_true, if_false]
  split
  next hn => exact .tooManyTerms _ hn
  next hn => exact .ok hd (Nat.le_of_not_lt hn)

/-! ## What is derived is read -/

/-- **What is derived is read**, wherever it stands: at any depth, after any number of terms and
before anything at which the rule stops. The tree is that of the derivation, unless a limit is in
the way, and the two limits are in the way exactly when the parentheses of the tokens or the leaves
of the tree are too many. -/
theorem Derives.delivers {term : List Token → Query → Prop} (ht : ReadsTerms o term)
    (he : e.check = .ok ()) {rule : Rule} {toks : List Token} {q : Query}
    (h : Derives term False rule toks q) :
    ∀ (rest : List Lexeme) {ts : List Lexeme} {d n : Nat}, ts.map Lexeme.token = toks →
      d ≤ o.maxDepth → rule.Stops rest → rule.Delivers o e d n (ts ++ rest) (d + mostOpen 0 toks)
        ⟨q, n + q.leafCount, rest⟩ := by
  induction h with
  | one h ih =>
    intro rest ts d n hts hd hrest
    obtain ⟨t, us, rfl, -, hclose⟩ := h.head ht.toTermShape
    obtain ⟨l, ls, rfl, rfl, -⟩ := List.map_eq_cons_iff.1 hts
    exact .one he hclose hrest (ih rest hts hd hrest)
  | more hs => exact hs.elim
  | operand _ ih =>
    intro rest ts d n hts hd hrest
    refine .operand hrest (ih rest hts hd ?_)
    intro l hl
    exact Token.isKeyword_congr (hrest l hl) _
  | @and _ _ _ q r hq hw hr ihq ihr =>
    intro rest ts d n hts hd hrest
    obtain ⟨xys, zs, rfl, hxys, hzs⟩ := List.map_eq_append_iff.1 hts
    obtain ⟨xs, ys, rfl, hxs, rfl⟩ := List.map_eq_append_iff.1 hxys
    obtain ⟨t, us, rfl, hop, hclose⟩ := hr.head ht.toTermShape
    obtain ⟨l, zs, rfl, rfl, rfl⟩ := List.map_eq_cons_iff.1 hzs
    simp only [Token.isOperator, Bool.or_eq_false_iff] at hop
    have hjoint := joint_operand (zs ++ rest) hw hop.1.1 hop.2
    have hfirst := ihq _ (n := n) hxs hd (stops_join (zs ++ rest) hw hop.1.2 hclose)
    have hnext := ihr rest (n := n + q.leafCount) hzs hd hrest
    have := Delivers.join (p := ⟨q, n + q.leafCount, ys ++ l :: (zs ++ rest)⟩)
      (s := ⟨r, n + q.leafCount + r.leafCount, rest⟩) hw hop.1.2 hclose rfl
      (Nat.le_add_right _ _) hfirst (by simp only [hjoint]; exact hnext)
    rw [hq.mostOpen_join ht.toTermShape hw, ← Nat.add_max_add_left]
    simpa only [Rule.Delivers, hjoint, Join.combine, Query.leafCount, Nat.add_assoc,
      List.append_assoc, List.cons_append] using this
  | @butNot _ _ _ t q r hq hw hnot hr ihq ihr =>
    intro rest ts d n hts hd hrest
    obtain ⟨xys, zs, rfl, hxys, hzs⟩ := List.map_eq_append_iff.1 hts
    obtain ⟨xs, ys, rfl, hxs, rfl⟩ := List.map_eq_append_iff.1 hxys
    obtain ⟨l, zs, rfl, rfl, rfl⟩ := List.map_eq_cons_iff.1 hzs
    have hjoint := joint_not (zs ++ rest) hw hnot
    have hor : l.token.isKeyword "or" = false := Token.isKeyword_congr hnot _
    have hclose : l.token.isKeyword ")" = false := Token.isKeyword_congr hnot _
    have hfirst := ihq _ (n := n) hxs hd (stops_join (zs ++ rest) hw hor hclose)
    have hnext := ihr rest (n := n + q.leafCount) rfl hd hrest
    have := Delivers.join (p := ⟨q, n + q.leafCount, ys ++ l :: (zs ++ rest)⟩)
      (s := ⟨r, n + q.leafCount + r.leafCount, rest⟩) hw hor hclose rfl
      (Nat.le_add_right _ _) hfirst (by simp only [hjoint]; exact hnext)
    rw [hq.mostOpen_join ht.toTermShape hw, mostOpen_keyword hnot ⟨rfl, rfl⟩,
      ← Nat.add_max_add_left]
    simpa only [Rule.Delivers, hjoint, Join.combine, Query.leafCount, Nat.add_assoc,
      List.append_assoc, List.cons_append] using this
  | alternative _ ih =>
    intro rest ts d n hts hd hrest
    exact .alternative he hrest (ih rest hts hd trivial)
  | @or _ _ _ q r hq hor hr ihq ihr =>
    intro rest ts d n hts hd hrest
    obtain ⟨xs, ys, rfl, hxs, hys⟩ := List.map_eq_append_iff.1 hts
    obtain ⟨l, ys, rfl, rfl, rfl⟩ := List.map_eq_cons_iff.1 hys
    have hfirst := ihq (l :: (ys ++ rest)) (n := n) hxs hd trivial
    have hnext := ihr rest (n := n + q.leafCount) rfl hd hrest
    have := Delivers.or (p := ⟨q, n + q.leafCount, l :: (ys ++ rest)⟩)
      (s := ⟨r, n + q.leafCount + r.leafCount, rest⟩) rfl hor (Nat.le_add_right _ _) hfirst hnext
    rw [hq.mostOpen_append ht.toTermShape, mostOpen_keyword hor ⟨rfl, rfl⟩, Nat.zero_add,
      ← Nat.add_max_add_left]
    simpa only [Rule.Delivers, Query.leafCount, Nat.add_assoc, List.append_assoc,
      List.cons_append] using this
  | @group _ _ _ q ha h hb ih =>
    intro rest ts d n hts hd hrest
    obtain ⟨l, ls, rfl, rfl, hls⟩ := List.map_eq_cons_iff.1 hts
    obtain ⟨xs, ys, rfl, hxs, hys⟩ := List.map_eq_append_iff.1 hls
    obtain ⟨c, rfl, rfl⟩ := List.map_eq_singleton_iff.1 hys
    have := Delivers.group (p := ⟨q, n + q.leafCount, c :: rest⟩) ha rfl hb
      (Nat.lt_of_lt_of_le (Nat.lt_succ_self d) (Nat.le_add_right _ _))
      fun hlt => ih (c :: rest) (n := n) hxs (Nat.succ_le_of_lt hlt)
        (by intro x hx; obtain rfl := Option.some.inj hx; exact hb)
    rw [h.mostOpen_group ht.toTermShape ha hb, ← Nat.succ_add_eq_add_succ]
    simpa only [Rule.Delivers, List.append_assoc, List.cons_append, List.nil_append] using this
  | term h =>
    intro rest ts d n hts hd hrest
    obtain ⟨t, us, rfl, -⟩ := ht.head h
    obtain ⟨l, ls, rfl, rfl, rfl⟩ := List.map_eq_cons_iff.1 hts
    have hflat := mostOpen_flat (ht.flat h) 0 []
    rw [List.append_nil, mostOpen] at hflat
    rw [hflat, ht.leaf h]
    exact .term ht hd h

/-! ## What is read is derived -/

/-- What a rule read is derived, it is one term for each leaf, and it was not broken off. -/
structure ReadAs (o : ParseOptions) (term : List Token → Query → Prop) (rule : Rule) (n : Nat)
    (ts : List Lexeme) (p : Progress) : Prop where
  derived : ∃ used, ts = used ++ p.rest ∧ Derives term False rule (used.map Lexeme.token) p.query
  terms : p.terms = n + p.query.leafCount
  within : p.terms ≤ o.maxTerms
  stops : rule.Stops p.rest

/-- Every rule reads something. -/
theorem ReadAs.length_lt {term : List Token → Query → Prop} (hterm : TermShape term) {rule : Rule}
    (h : ReadAs o term rule n ts p) : p.rest.length < ts.length := by
  obtain ⟨used, rfl, hder⟩ := h.derived
  obtain ⟨t, us, hused, -⟩ := hder.head hterm
  have hlen : (used.map Lexeme.token).length = us.length + 1 := by rw [hused]; rfl
  rw [List.length_map] at hlen
  rw [List.length_append]
  omega

/-- What stands before the next operand is `AND`, `NOT`, both or nothing. -/
theorem joint_cases (ts : List Lexeme) :
    (∃ ws, OptionalAnd (ws.map Lexeme.token) ∧ (joint ts).1 = .and ∧ ts = ws ++ (joint ts).2) ∨
    (∃ ws l, OptionalAnd (ws.map Lexeme.token) ∧ l.token.isKeyword "not" ∧
      (joint ts).1 = .butNot ∧ ts = ws ++ l :: (joint ts).2) := by
  cases ts with
  | nil => exact .inl ⟨[], .inl rfl, rfl, rfl⟩
  | cons l ts =>
    cases hand : l.token.isKeyword "and" with
    | false =>
      cases hnot : l.token.isKeyword "not" with
      | false => exact .inl ⟨[], .inl rfl, by simp [joint, hand, hnot], by simp [joint, hand, hnot]⟩
      | true =>
        exact .inr ⟨[], l, .inl rfl, hnot, by simp [joint, hand, hnot], by simp [joint, hand, hnot]⟩
    | true =>
      -- The `AND` is dropped, and what comes after it is looked at for a `NOT` only.
      have hw : OptionalAnd ([l].map Lexeme.token) := .inr ⟨l.token, hand, rfl⟩
      cases ts with
      | nil => exact .inl ⟨[l], hw, by simp [joint, hand], by simp [joint, hand]⟩
      | cons c ts =>
        cases hnot : c.token.isKeyword "not" with
        | false => exact .inl ⟨[l], hw, by simp [joint, hand, hnot], by simp [joint, hand, hnot]⟩
        | true =>
          exact .inr ⟨[l], c, hw, hnot, by simp [joint, hand, hnot], by simp [joint, hand, hnot]⟩

/-- A rule may stop at the end. -/
theorem Rule.stops_nil (rule : Rule) : rule.Stops [] := by
  cases rule with
  | simple => trivial
  | query | conjunction | disjunction => exact fun l hl => nomatch hl

section
variable {term : List Token → Query → Prop}

/-- A query between parentheses: what follows it is the closing one. -/
theorem readGroup_sound {l : Lexeme} (hopen : l.token.isKeyword "(")
    (ih : ∀ d n p, readQuery o e d n ts = .ok (some p) → ReadAs o term .query n ts p)
    (h : readGroup o e d n ts l.position = .ok p) : ReadAs o term .simple n (l :: ts) p := by
  rw [readGroup_eq] at h
  split at h
  · cases h
  · obtain ⟨found, hq, h⟩ := Except.bind_eq_ok h
    cases found with
    | none => cases h
    | some inner =>
      have hinner := ih _ _ _ hq
      obtain ⟨used, hts, hder⟩ := hinner.derived
      cases hrest : inner.rest with
      | nil => simp only [hrest] at h; cases h
      | cons c rest =>
        have hclose : c.token.isKeyword ")" := hinner.stops c (by rw [hrest]; rfl)
        simp only [hrest, hclose, if_true] at h
        cases h
        refine ⟨⟨l :: used ++ [c], by simp [hts, hrest], ?_⟩, hinner.terms, hinner.within, trivial⟩
        rw [List.map_append]
        exact .group hopen hder hclose

/-- A simple query that was read is a group or a term. -/
theorem readSimple_sound (ht : ReadsTerms o term)
    (ih : ∀ us : List Lexeme, us.length < ts.length → ∀ d n p,
      readQuery o e d n us = .ok (some p) → ReadAs o term .query n us p)
    (h : readSimple o e d n ts = .ok p) : ReadAs o term .simple n ts p := by
  cases ts with
  | nil => rw [readSimple_nil] at h; cases h
  | cons l ts =>
    rw [readSimple_cons] at h
    split at h
    next hopen => exact readGroup_sound hopen (ih ts (Nat.lt_succ_self _)) h
    next =>
      split at h
      · cases h
      next hdelim =>
        split at h
        · cases h
        next hop =>
          split at h
          · cases h
          next hterms =>
            obtain ⟨⟨q, rest⟩, hclause, rfl⟩ := Except.map_eq_ok h
            simp only [Bool.not_eq_true] at hdelim hop
            obtain ⟨used, rfl, hder⟩ := (ht.clause_iff hdelim hop).1 hclause
            exact ⟨⟨l :: used, rfl, .term hder⟩, by rw [ht.leaf hder],
              Nat.le_of_not_lt hterms, trivial⟩

/-- A disjunction that was read is a simple query, or one and what was read after the `or`. -/
theorem readDisjunction_sound (ht : ReadsTerms o term)
    (hs : ∀ p, readSimple o e d n ts = .ok p → ReadAs o term .simple n ts p)
    (ih : ∀ us : List Lexeme, us.length < ts.length → ∀ n p,
      readDisjunction o e d n us = .ok p → ReadAs o term .disjunction n us p)
    (h : readDisjunction o e d n ts = .ok p) : ReadAs o term .disjunction n ts p := by
  rw [readDisjunction_eq] at h
  obtain ⟨first, hfirst, h⟩ := Except.bind_eq_ok h
  have hf := hs first hfirst
  have hlt := hf.length_lt ht.toTermShape
  obtain ⟨used, hts, hder⟩ := hf.derived
  cases hrest : first.rest with
  | nil =>
    simp only [hrest] at h
    obtain ⟨-, -, h⟩ := Except.bind_eq_ok h
    cases h
    exact ⟨⟨used, hts, .alternative hder⟩, hf.terms, hf.within, hrest ▸ Rule.stops_nil _⟩
  | cons l tail =>
    simp only [hrest] at h
    split at h
    next hor =>
      obtain ⟨next, hnext, h⟩ := Except.bind_eq_ok h
      cases h
      have hn := ih tail (by rw [hrest, List.length_cons] at hlt; omega) _ _ hnext
      obtain ⟨used', hts', hder'⟩ := hn.derived
      refine ⟨⟨used ++ l :: used', by rw [hts, hrest, hts']; simp, ?_⟩, ?_, hn.within, hn.stops⟩
      · rw [List.map_append, List.map_cons]
        exact .or hder hor hder'
      · rw [hn.terms, hf.terms, Query.leafCount, Nat.add_assoc]
    next hor =>
      cases h
      refine ⟨⟨used, hts, .alternative hder⟩, hf.terms, hf.within, ?_⟩
      rw [hrest]
      intro l' hl'
      obtain rfl := Option.some.inj hl'
      simpa using hor

/-- A conjunction that was read is a disjunction, or one and what was read after the words that join
them. -/
theorem readConjunction_sound (ht : ReadsTerms o term)
    (hs : ∀ p, readDisjunction o e d n ts = .ok p → ReadAs o term .disjunction n ts p)
    (ih : ∀ us : List Lexeme, us.length < ts.length → ∀ n p,
      readConjunction o e d n us = .ok p → ReadAs o term .conjunction n us p)
    (h : readConjunction o e d n ts = .ok p) : ReadAs o term .conjunction n ts p := by
  rw [readConjunction_eq] at h
  obtain ⟨first, hfirst, h⟩ := Except.bind_eq_ok h
  have hf := hs first hfirst
  have hlt := hf.length_lt ht.toTermShape
  obtain ⟨used, hts, hder⟩ := hf.derived
  cases hrest : first.rest with
  | nil =>
    simp only [hrest] at h
    cases h
    exact ⟨⟨used, hts, .operand hder⟩, hf.terms, hf.within, hrest ▸ Rule.stops_nil _⟩
  | cons l tail =>
    have hor : l.token.isKeyword "or" = false := hf.stops l (by rw [hrest]; rfl)
    simp only [hrest, hor, Bool.false_or] at h
    split at h
    next hclose =>
      cases h
      refine ⟨⟨used, hts, .operand hder⟩, hf.terms, hf.within, ?_⟩
      rw [hrest]
      intro l' hl'
      obtain rfl := Option.some.inj hl'
      exact hclose
    next hclose =>
      obtain ⟨next, hnext, h⟩ := Except.bind_eq_ok h
      cases h
      have hj := joint_length_le (l :: tail)
      have hn := ih _ (by rw [hrest] at hlt; omega) _ _ hnext
      obtain ⟨used', hts', hder'⟩ := hn.derived
      have hterms : next.terms = n + (first.query.leafCount + next.query.leafCount) := by
        rw [hn.terms, hf.terms, Nat.add_assoc]
      rcases joint_cases (l :: tail) with ⟨ws, hw, hjoin, heq⟩ | ⟨ws, c, hw, hc, hjoin, heq⟩
      · rw [hjoin]
        refine ⟨⟨used ++ ws ++ used', ?_, ?_⟩, hterms, hn.within, hn.stops⟩
        · rw [hts, hrest, heq, hts']
          simp
        · rw [List.map_append, List.map_append]
          exact .and hder hw hder'
      · rw [hjoin]
        refine ⟨⟨used ++ ws ++ c :: used', ?_, ?_⟩, hterms, hn.within, hn.stops⟩
        · rw [hts, hrest, heq, hts']
          simp
        · rw [List.map_append, List.map_append, List.map_cons]
          exact .butNot hder hw hc hder'

/-- A query is its first conjunction, which stops at the end or at a parenthesis: there is no second
one. At the end it was looked for, so the text was not broken off there. -/
theorem readQuery_eq_some
    (hs : ∀ p, readConjunction o e d n ts = .ok p → ReadAs o term .conjunction n ts p)
    (h : readQuery o e d n ts = .ok (some p)) :
    readConjunction o e d n ts = .ok p ∧ (p.rest = [] → e.check = .ok ()) := by
  cases ts with
  | nil =>
    rw [readQuery_nil] at h
    obtain ⟨-, -, h⟩ := Except.map_eq_ok h
    cases h
  | cons l ts =>
    rw [readQuery_cons] at h
    split at h
    · cases h
    · obtain ⟨first, hfirst, h⟩ := Except.bind_eq_ok h
      obtain ⟨more, hmore, h⟩ := Except.bind_eq_ok h
      cases hrest : first.rest with
      | nil =>
        rw [hrest, readQuery_nil] at hmore
        obtain ⟨_, hcheck, rfl⟩ := Except.map_eq_ok hmore
        cases h
        exact ⟨hfirst, fun _ => hcheck⟩
      | cons c rest =>
        have hclose : c.token.isKeyword ")" := (hs first hfirst).stops c (by rw [hrest]; rfl)
        rw [hrest, readQuery_cons, hclose] at hmore
        cases hmore
        cases h
        exact ⟨hfirst, fun hnil => by rw [hrest] at hnil; cases hnil⟩

/-- A query that was read is one conjunction, since a conjunction ends only where the query does. -/
theorem readQuery_sound
    (hs : ∀ p, readConjunction o e d n ts = .ok p → ReadAs o term .conjunction n ts p)
    (h : readQuery o e d n ts = .ok (some p)) : ReadAs o term .query n ts p := by
  have hp := hs p (readQuery_eq_some hs h).1
  obtain ⟨used, hts, hder⟩ := hp.derived
  exact ⟨⟨used, hts, .one hder⟩, hp.terms, hp.within, hp.stops⟩

/-- **What is read is derived**, by each rule of the parser, with each query one conjunction. -/
theorem read_sound (ht : ReadsTerms o term) (e : Ending) (ts : List Lexeme) : ∀ d n,
    (∀ p, readSimple o e d n ts = .ok p → ReadAs o term .simple n ts p) ∧
    (∀ p, readDisjunction o e d n ts = .ok p → ReadAs o term .disjunction n ts p) ∧
    (∀ p, readConjunction o e d n ts = .ok p → ReadAs o term .conjunction n ts p) ∧
    (∀ p, readQuery o e d n ts = .ok (some p) → ReadAs o term .query n ts p) := by
  -- Every rule but `query` calls the next one on the same lexemes, and itself only on fewer.
  induction hlen : ts.length using Nat.strongRecOn generalizing ts with
  | ind m ih =>
    subst hlen
    intro d n
    have hsimple := fun p => readSimple_sound (e := e) (d := d) (n := n) (p := p) ht
      fun us hlt d n p h => (ih _ hlt us rfl d n).2.2.2 p h
    have hdisj := fun p => readDisjunction_sound (p := p) ht hsimple
      fun us hlt n p h => (ih _ hlt us rfl d n).2.1 p h
    have hconj := fun p => readConjunction_sound (p := p) ht hdisj
      fun us hlt n p h => (ih _ hlt us rfl d n).2.2.1 p h
    exact ⟨hsimple, hdisj, hconj, fun p => readQuery_sound hconj⟩

end

end

end Grammar

/-! ## Whole texts -/

open Grammar

/-- A text whose tokens are derived is parsed to the tree of the derivation, up to the limits. -/
theorem Scan.parse_delivers {s : Scan} {o : ParseOptions} {term : List Token → Query → Prop}
    (ht : ReadsTerms o term) (he : s.ending.check = .ok ()) {q : Query}
    (h : Derives term False .query (s.lexemes.map Lexeme.token) q) :
    Delivers o (mostOpen 0 (s.lexemes.map Lexeme.token)) q.leafCount q (s.parse o) := by
  have hread := h.delivers ht he [] (n := 0) rfl (Nat.zero_le _) (Rule.stops_nil _)
  rw [List.append_nil, Nat.zero_add, Nat.zero_add] at hread
  rw [Scan.parse_eq]
  exact Delivers.bind hread (Nat.le_refl _) (Nat.le_refl _) fun hd hn => .ok hd hn

/-- A text that is parsed is derived, and keeps to the limit on terms. -/
theorem Scan.parse_sound {s : Scan} {o : ParseOptions} {term : List Token → Query → Prop}
    (ht : ReadsTerms o term) {q : Query} (h : s.parse o = .ok q) :
    Derives term False .query (s.lexemes.map Lexeme.token) q ∧ q.leafCount ≤ o.maxTerms := by
  obtain ⟨p, hread, hrest, rfl⟩ := Scan.read_of_parse h
  have hp := (read_sound ht s.ending s.lexemes 0 0).2.2.2 p hread
  obtain ⟨used, hls, hder⟩ := hp.derived
  rw [hrest, List.append_nil] at hls
  have hterms := hp.terms
  have hwithin := hp.within
  exact ⟨hls ▸ hder, by omega⟩

/-- A text that is parsed has no open quote. -/
theorem Scan.check_of_parse {s : Scan} {o : ParseOptions} {term : List Token → Query → Prop}
    (ht : ReadsTerms o term) {q : Query} (h : s.parse o = .ok q) : s.ending.check = .ok () := by
  obtain ⟨p, hread, hrest, rfl⟩ := Scan.read_of_parse h
  have hs := (read_sound ht s.ending s.lexemes 0 0).2.2.1
  exact (readQuery_eq_some hs hread).2 hrest

/-- **What is parsed**: the tokens are derived, the parentheses nest no deeper than they may, and
the leaves are no more than they may be. Only the last two depend on the limits. -/
theorem Scan.parse_iff_within {s : Scan} {o : ParseOptions} {term : List Token → Query → Prop}
    (ht : ReadsTerms o term) {q : Query} :
    s.parse o = .ok q ↔
      (s.ending.check = .ok () ∧ Derives term False .query (s.lexemes.map Lexeme.token) q) ∧
      mostOpen 0 (s.lexemes.map Lexeme.token) ≤ o.maxDepth ∧ q.leafCount ≤ o.maxTerms := by
  constructor
  · intro h
    have hcheck := Scan.check_of_parse ht h
    obtain ⟨hder, hterms⟩ := Scan.parse_sound ht h
    have hdel := Scan.parse_delivers ht hcheck hder
    rw [h] at hdel
    cases hdel with
    | ok hdepth => exact ⟨⟨hcheck, hder⟩, hdepth, hterms⟩
  · rintro ⟨⟨hcheck, hder⟩, hdepth, hterms⟩
    have hdel := Scan.parse_delivers ht hcheck hder
    generalize s.parse o = out at hdel
    cases hdel with
    | ok => rfl
    | tooDeep _ hd => exact absurd hd (Nat.not_lt.2 hdepth)
    | tooManyTerms _ hn => exact absurd hn (Nat.not_lt.2 hterms)

/-! ## Values between quotes -/

namespace Grammar

/-- Somewhere in the tokens `is:` or `has:` has one of its values between quotes. -/
def HasQuotedValue (ts : List Token) : Prop :=
  ∃ w name q t c v, (w, name, q) ∈ values ∧ t.isKeyword w ∧ c.isKeyword ":" ∧
    v.quoted = true ∧ anyValue v name ∧ [t, c, v] <:+: ts

variable {several : Prop} {rule : Rule} {ts : List Token} {q : Query}

/-- Only the fixed values are spelled, so only they matter when the spellings change. -/
theorem Term.imp {spells spells' : Token → String → Bool} (h : Term spells ts q)
    (hvalue : ∀ {w name t c v}, ts = [t, c, v] → (w, name, q) ∈ values → t.isKeyword w →
      c.isKeyword ":" → spells v name → spells' v name) : Term spells' ts q := by
  cases h with
  | word ht => exact .word ht
  | field hw ht hc hv => exact .field hw ht hc hv
  | date hw ht hc hv => exact .date hw ht hc hv
  | value hw ht hc hv => exact .value hw ht hc (hvalue rfl hw ht hc hv)

/-- Without such a value, taking values for texts or for keywords makes no difference. -/
theorem derives_unquotedValue_iff (hts : ¬ HasQuotedValue ts) :
    Derives (Term unquotedValue) several rule ts q ↔
      Derives (Term anyValue) several rule ts q := by
  constructor
  · intro h
    exact h.imp fun us r _ hterm => hterm.imp fun _ _ _ _ hv => anyValue_of_unquotedValue hv
  · intro h
    refine h.imp fun us r hus hterm => hterm.imp ?_
    rintro w name t c v rfl hw ht hc hv
    cases hquoted : v.quoted with
    | true => exact absurd ⟨w, name, r, t, c, v, hw, ht, hc, hquoted, hv, hus⟩ hts
    | false =>
      rw [unquotedValue, Token.isKeyword, hquoted]
      exact hv

/-- The answer of the parser is what the grammar says of the tokens, when `spells` says what the
values of `is:` and `has:` are, within the limits on open parentheses and on leaves. -/
structure Answers (spells : Token → String → Bool) (o : ParseOptions) (ts : List Token)
    (answer : Except Error Query) : Prop where
  /-- A text is a search exactly if its tokens are derived, with as many conjunctions in a row as
  one likes. -/
  accepted : (∃ q, answer = .ok q) ↔ mostOpen 0 ts ≤ o.maxDepth ∧
    ∃ q, Derives (Term spells) True .query ts q ∧ q.leafCount ≤ o.maxTerms
  /-- Its tree is that of the derivation with one conjunction in each query. -/
  tree : ∀ q, answer = .ok q ↔ mostOpen 0 ts ≤ o.maxDepth ∧
    Derives (Term spells) False .query ts q ∧ q.leafCount ≤ o.maxTerms

/-- The trees say which texts are accepted: what is derived with several conjunctions in a row is
derived without, and with as many leaves. -/
theorem Answers.ofTree {spells : Token → String → Bool} {o : ParseOptions}
    {answer : Except Error Query}
    (htree : ∀ q, answer = .ok q ↔ mostOpen 0 ts ≤ o.maxDepth ∧
      Derives (Term spells) False .query ts q ∧ q.leafCount ≤ o.maxTerms) :
    Answers spells o ts answer := by
  refine ⟨⟨?_, ?_⟩, htree⟩
  · rintro ⟨q, hq⟩
    obtain ⟨hdepth, hder, hterms⟩ := (htree q).1 hq
    exact ⟨hdepth, q, hder.ofSingle, hterms⟩
  · rintro ⟨hdepth, q, hder, hterms⟩
    obtain ⟨q', hder', hleaves⟩ := hder.single
    exact ⟨q', (htree q').2 ⟨hdepth, hder', hleaves ▸ hterms⟩⟩

end Grammar

/-- **The parser accepts exactly the grammar.** A text is parsed exactly if its tokens are derived,
its parentheses nest no deeper than they may and the leaves are no more than they may be, and its
tree is that of the derivation. This is the grammar in which the values of `is:` and `has:` may
stand between quotes; where none does, it is also the grammar in which they are keywords. -/
theorem parse_iff_derives {text : String} {o : ParseOptions} {ls : List Lexeme}
    (hls : tokenize text = .ok ls) (ho : o.unknownValue = .reject) :
    Answers anyValue o (ls.map Lexeme.token) (Query.parse text o) ∧
    (¬ HasQuotedValue (ls.map Lexeme.token) →
      Answers unquotedValue o (ls.map Lexeme.token) (Query.parse text o)) := by
  obtain ⟨rfl, hcheck⟩ := tokenize_eq_ok.1 hls
  have htree : ∀ q, Query.parse text o = .ok q ↔
      mostOpen 0 ((Cursor.start text).scan.lexemes.map Lexeme.token) ≤ o.maxDepth ∧
      Derives (Term anyValue) False .query ((Cursor.start text).scan.lexemes.map Lexeme.token) q ∧
      q.leafCount ≤ o.maxTerms := by
    intro q
    constructor
    · intro h
      obtain ⟨⟨-, hder⟩, hdepth, hterms⟩ := (Scan.parse_iff_within (readsTerms_reject ho)).1 h
      exact ⟨hdepth, hder, hterms⟩
    · rintro ⟨hdepth, hder, hterms⟩
      exact (Scan.parse_iff_within (readsTerms_reject ho)).2 ⟨⟨hcheck, hder⟩, hdepth, hterms⟩
  refine ⟨.ofTree htree, fun hquoted => .ofTree fun q => ?_⟩
  rw [derives_unquotedValue_iff hquoted]
  exact htree q

/-- A search with every kind of join, a keyword as a value, and a value between quotes. One
parenthesis is open and there are four leaves: with these limits it is parsed, with a lower one it
is not. Without the quotes around the last value the tree is the same, and it is derived with
keywords for values too. -/
theorem parse_iff_derives_mixed :
    let quoted := "a NOT (from:OR or \"b c\") is:\"Read\""
    let bare := "a NOT (from:OR or \"b c\") is:Read"
    let ls (value : Token) : List Lexeme :=
      [⟨0, .bare "a"⟩, ⟨2, .bare "NOT"⟩, ⟨6, .bare "("⟩, ⟨7, .bare "from"⟩, ⟨11, .bare ":"⟩,
        ⟨12, .bare "OR"⟩, ⟨15, .bare "or"⟩, ⟨18, .quote "b c"⟩, ⟨23, .bare ")"⟩,
        ⟨25, .bare "is"⟩, ⟨27, .bare ":"⟩, ⟨28, value⟩]
    let q : Query := .butNot (.text .anywhere (.bare "a")) (.and
      (.or (.text .sender (.bare "OR")) (.text .anywhere (.quote "b c"))) (.flag .unread false))
    (tokenize quoted = .ok (ls (.quote "Read")) ∧
      Derives (Term anyValue) False .query ((ls (.quote "Read")).map Lexeme.token) q ∧
      Query.parse quoted { maxDepth := 1, maxTerms := 4 } = .ok q ∧
      Query.parse quoted { maxDepth := 0, maxTerms := 4 } ≠ .ok q ∧
      Query.parse quoted { maxDepth := 1, maxTerms := 3 } ≠ .ok q) ∧
    tokenize bare = .ok (ls (.bare "Read")) ∧
    ¬ HasQuotedValue ((ls (.bare "Read")).map Lexeme.token) ∧
    Derives (Term unquotedValue) False .query ((ls (.bare "Read")).map Lexeme.token) q ∧
    Query.parse bare { maxDepth := 1, maxTerms := 4 } = .ok q := by
  intro quoted bare ls q
  have hquoted : tokenize quoted = .ok (ls (.quote "Read")) := by decide +kernel
  have hbare : tokenize bare = .ok (ls (.bare "Read")) := by decide +kernel
  have hopen : mostOpen 0 ((ls (.quote "Read")).map Lexeme.token) = 1 := by decide +kernel
  have hnone : ¬ HasQuotedValue ((ls (.bare "Read")).map Lexeme.token) := by
    have hvalues : ∀ v ∈ (ls (.bare "Read")).map Lexeme.token, v.quoted = true →
        ∀ entry ∈ values, anyValue v entry.2.1 = false := by decide +kernel
    rintro ⟨w, name, r, t, c, v, hw, -, -, hv, hname, hinside⟩
    rw [hvalues v (hinside.subset (by simp)) hv _ hw] at hname
    cases hname
  have hder := (((parse_iff_derives (o := {}) hquoted rfl).1.tree q).1 (by decide +kernel)).2.1
  have hder' := (((parse_iff_derives (o := {}) hbare rfl).2 hnone).tree q).1 (by decide +kernel)
  refine ⟨⟨hquoted, hder, ?_, ?_, ?_⟩, hbare, hnone, hder'.2.1, ?_⟩
  · exact ((parse_iff_derives hquoted rfl).1.tree q).2 ⟨Nat.le_of_eq hopen, hder, Nat.le_refl 4⟩
  · intro h
    have hdepth := (((parse_iff_derives hquoted rfl).1.tree q).1 h).1
    rw [hopen] at hdepth
    exact absurd hdepth (by decide)
  · intro h
    have hterms : 4 ≤ 3 := (((parse_iff_derives hquoted rfl).1.tree q).1 h).2.2
    exact absurd hterms (by decide)
  · exact (((parse_iff_derives hbare rfl).2 hnone).tree q).2
      ⟨by decide +kernel, hder'.2.1, Nat.le_refl 4⟩

/-- With keywords for values, what follows `is:` is one of them. -/
theorem Grammar.Derives.value_of_is {several : Prop} {rule : Rule} {ts : List Token} {q : Query}
    (h : Derives (Term unquotedValue) several rule ts q) {t : Token} {us : List Token}
    (hts : ts = t :: us) (ht : t.isKeyword "is") :
    ∃ c v vs name, us = c :: v :: vs ∧ v.isKeyword name := by
  -- A derivation begins with its first part, and only a term begins with `is`.
  have happend : ∀ {rule xs ys zs r}, Derives (Term unquotedValue) several rule xs r →
      xs ++ ys = t :: zs → ∃ xs', xs = t :: xs' ∧ zs = xs' ++ ys := by
    intro rule xs ys zs r hder heq
    obtain ⟨x, xs', rfl, -⟩ := hder.head (Term.shape anyValue_of_unquotedValue)
    obtain ⟨rfl, rfl⟩ := List.cons.inj heq
    exact ⟨xs', rfl, rfl⟩
  induction h generalizing us with
  | one _ ih | operand _ ih | alternative _ ih => exact ih hts
  | more _ hq _ ih _ | or hq _ _ ih _ =>
    obtain ⟨xs, rfl, rfl⟩ := happend hq hts
    obtain ⟨c, v, vs, name, rfl, hv⟩ := ih rfl
    exact ⟨c, v, _, name, rfl, hv⟩
  | and hq _ _ ih _ | butNot hq _ _ _ ih _ =>
    rw [List.append_assoc] at hts
    obtain ⟨xs, rfl, rfl⟩ := happend hq hts
    obtain ⟨c, v, vs, name, rfl, hv⟩ := ih rfl
    exact ⟨c, v, _, name, rfl, hv⟩
  | group ha _ _ _ =>
    obtain ⟨rfl, -⟩ := List.cons.inj hts
    rw [Token.isKeyword_congr ht] at ha
    cases ha
  | term h =>
    cases h with
    | word hword =>
      obtain ⟨rfl, -⟩ := List.cons.inj hts
      have := hword.2 "is" (by decide)
      rw [ht] at this
      cases this
    | field hw hkey | date hw hkey =>
      obtain ⟨rfl, -⟩ := List.cons.inj hts
      simp only [fields, dates, List.mem_cons, Prod.mk.injEq, List.not_mem_nil, or_false] at hw
      rw [Token.isKeyword_congr ht] at hkey
      rcases hw with ⟨rfl, -⟩ | ⟨rfl, -⟩ | ⟨rfl, -⟩ | ⟨rfl, -⟩ <;> cases hkey
    | value _ _ _ hv =>
      obtain ⟨-, rfl⟩ := List.cons.inj hts
      exact ⟨_, _, [], _, rfl, hv⟩

/-- Quotes do not keep a value of `is:` from being one, though they make a keyword a text: the
grammar with keywords for values does not have `is:"read"`, and the parser takes it. -/
theorem quoted_value_is_parsed :
    tokenize "is:\"read\"" = .ok [⟨0, .bare "is"⟩, ⟨2, .bare ":"⟩, ⟨3, .quote "read"⟩] ∧
    Query.parse "is:\"read\"" {} = .ok (.flag .unread false) ∧
    ¬ ∃ q, Derives (Term unquotedValue) True .query [.bare "is", .bare ":", .quote "read"] q := by
  refine ⟨by decide +kernel, by decide +kernel, ?_⟩
  rintro ⟨q, h⟩
  obtain ⟨c, v, vs, name, hus, hv⟩ := h.value_of_is rfl (by decide)
  cases hus
  cases hv

end MailSearch
