import MailSearch.Proofs.Limits

/-!
# What the tree does not depend on

Two texts may differ in spaces, in the case of keywords, and in the `AND`s that can be left out, and
be parsed to the same tree. `Grammar.normalForm` takes these differences away from a list of tokens.
It has to look at where a token stands, for a keyword after a colon is a text: `from:OR` looks for
mail from *OR*. `parse_eq_of_normalForm_eq`: texts with the same normal form have the same tree.

Nothing is said about two runs of the parser. A derivation of the tokens is a derivation of their
normal form, with the same tree (`Grammar.Derives.normalFrom`), and there is one tree at most for
given tokens (`Grammar.Derives.unique`).
-/

namespace MailSearch

/-- The token in lower case (of the letters `A` to `Z`). Quotes are kept. -/
def Token.lowered (t : Token) : Token :=
  { t with text := String.ofList (Text.lower t.text.toList) }

namespace Grammar

/-! ## Normal forms

The tokens before a place are listed backwards, the nearest first. -/

/-- The nearest token is a colon. -/
def afterColon (before : List Token) : Bool :=
  before.head?.any (·.isKeyword ":")

/-- The token is a word with a fixed list of values. -/
def asksValue (t : Token) : Bool :=
  t.isKeyword "is" || t.isKeyword "has"

/-- What a token becomes. After a colon only the fixed values change. Elsewhere `AND` is left out,
the other keywords are written in lower case, and `since` is written `after`. -/
def normalToken (before : List Token) (t : Token) : List Token :=
  if afterColon before then [if before.tail.head?.any asksValue then t.lowered else t]
  else if t.isKeyword "and" then []
  else if t.isKeyword "since" then [.bare "after"]
  else if keywords.any t.isKeyword then [t.lowered]
  else [t]

/-- The normal form of what follows the tokens `before`. -/
def normalFrom (before : List Token) : List Token → List Token
  | [] => []
  | t :: ts => normalToken before t ++ normalFrom (t :: before) ts

/-- The normal form of a list of tokens. -/
def normalForm (ts : List Token) : List Token :=
  normalFrom [] ts

section
variable {before : List Token} {t c v : Token} {w : String}

/-- Tokens in a row are normalised one by one, each after those before it. -/
theorem normalFrom_append (before ts us : List Token) :
    normalFrom before (ts ++ us) =
      normalFrom before ts ++ normalFrom (ts.reverse ++ before) us := by
  induction ts generalizing before with
  | nil => rfl
  | cons t ts ih =>
    rw [List.cons_append, normalFrom, normalFrom, ih, List.append_assoc, List.reverse_cons,
      List.append_assoc, List.singleton_append]

@[simp]
theorem afterColon_cons (t : Token) (before : List Token) :
    afterColon (t :: before) = t.isKeyword ":" := rfl

/-- A word is no colon. -/
theorem keyword_afterColon (before : List Token) (ht : t.isKeyword w)
    (hw : Text.sameWord w ":" = false) : afterColon (t :: before) = false := by
  rw [afterColon_cons, Token.isKeyword_congr ht, hw]

/-! ## Single tokens -/

/-- A keyword in lower case is the keyword. -/
theorem lowered_eq (hw : Text.lower w.toList = w.toList) (ht : t.isKeyword w) :
    t.lowered = .bare w := by
  rw [Token.isKeyword, Bool.and_eq_true, Bool.not_eq_true', Text.sameWord, beq_iff_eq] at ht
  rw [Token.lowered, ht.1, ht.2, hw, String.ofList_toList]
  rfl

/-- An `and` that is no value is left out. -/
theorem normalToken_and (hb : afterColon before = false) (ht : t.isKeyword "and") :
    normalToken before t = [] := by
  simp [normalToken, hb, ht]

/-- A `since` that is no value becomes `after`. -/
theorem normalToken_since (hb : afterColon before = false) (ht : t.isKeyword "since") :
    normalToken before t = [.bare "after"] := by
  have hand : t.isKeyword "and" = false := (Token.isKeyword_congr ht "and").trans rfl
  simp [normalToken, hb, ht, hand]

/-- The other keywords are written in one way. -/
theorem normalToken_keyword (hb : afterColon before = false)
    (hw : w ∈ keywords ∧ w ≠ "and" ∧ w ≠ "since") (ht : t.isKeyword w) :
    normalToken before t = [.bare w] := by
  have hwords : ∀ w ∈ keywords, w ≠ "and" → w ≠ "since" → Text.sameWord w "and" = false ∧
      Text.sameWord w "since" = false ∧ Text.lower w.toList = w.toList := by decide
  obtain ⟨hand, hsince, hlower⟩ := hwords w hw.1 hw.2.1 hw.2.2
  have hany : keywords.any t.isKeyword := List.any_eq_true.2 ⟨w, hw.1, ht⟩
  rw [normalToken, hb, Token.isKeyword_congr ht, Token.isKeyword_congr ht, hand, hsince, hany,
    lowered_eq hlower ht]
  rfl

/-- All else stays as it is. -/
theorem normalToken_other (hb : afterColon before = false)
    (ht : ∀ w ∈ keywords, t.isKeyword w = false) : normalToken before t = [t] := by
  have hany : keywords.any t.isKeyword = false := List.any_eq_false.2 fun w hw => by
    rw [ht w hw]
    exact Bool.false_ne_true
  rw [normalToken, hb, ht "and" (by decide), ht "since" (by decide), hany]
  rfl

/-- What is spelled like a word that is no keyword stays as it is. -/
theorem normalToken_delimiter (hb : afterColon before = false)
    (hw : ∀ x ∈ keywords, Text.sameWord w x = false) (ht : t.isKeyword w) :
    normalToken before t = [t] := by
  refine normalToken_other hb fun x hx => ?_
  rw [Token.isKeyword_congr ht]
  exact hw x hx

/-- A qualifier with its value, which stays as it is unless it is one of a fixed list. -/
theorem normalFrom_clause (hw : w ∈ keywords) (ht : t.isKeyword w) (hc : c.isKeyword ":") :
    normalFrom before [t, c, v] =
      normalToken before t ++ [c, if asksValue (.bare w) then v.lowered else v] := by
  have hwords : ∀ w ∈ keywords, Text.sameWord w ":" = false := by decide
  have hcolon : normalToken (t :: before) c = [c] :=
    normalToken_delimiter (keyword_afterColon before ht (hwords w hw)) (by decide) hc
  have hasks : asksValue t = asksValue (.bare w) := by
    rw [asksValue, Token.isKeyword_congr ht, Token.isKeyword_congr ht]
    rfl
  have hvalue : normalToken (c :: t :: before) v =
      [if asksValue (.bare w) then v.lowered else v] := by
    rw [← hasks, normalToken, afterColon_cons, hc]
    rfl
  rw [normalFrom, normalFrom, normalFrom, normalFrom, hcolon, hvalue]
  rfl

/-! ## Derivations -/

/-- The normal form of a term is a term. -/
theorem Term.normalFrom {ts : List Token} {q : Query} (h : Term anyValue ts q)
    (hb : afterColon before = false) :
    Term anyValue (Grammar.normalFrom before ts) q ∧ afterColon (ts.reverse ++ before) = false := by
  cases h with
  | @word t ht =>
    rw [Grammar.normalFrom, Grammar.normalFrom, normalToken_other hb ht.2]
    exact ⟨.word ht, Token.not_colon ht.1⟩
  | @field w f t c v hw ht hc hv =>
    have hwords : ∀ e ∈ fields, (e.1 ∈ keywords ∧ e.1 ≠ "and" ∧ e.1 ≠ "since") ∧
        asksValue (.bare e.1) = false := by decide
    obtain ⟨hkeyword, hasks⟩ := hwords _ hw
    rw [normalFrom_clause hkeyword.1 ht hc, normalToken_keyword hb hkeyword ht, hasks]
    exact ⟨.field hw (Token.isKeyword_bare w) hc hv, Token.not_colon hv⟩
  | @date w d t c v hw ht hc hv =>
    have hwords : ∀ e ∈ dates, e.1 ∈ keywords ∧ e.1 ≠ "and" ∧ asksValue (.bare e.1) = false ∧
        (e.1 = "since" → e.2 = .after) := by decide
    obtain ⟨hkeyword, hand, hasks, hafter⟩ := hwords _ hw
    rw [normalFrom_clause hkeyword ht hc, hasks]
    refine ⟨?_, Token.not_colon hv⟩
    by_cases hsince : w = "since"
    · obtain rfl : d = .after := hafter hsince
      subst hsince
      rw [normalToken_since hb ht]
      exact .date (w := "after") (by decide) (Token.isKeyword_bare _) hc hv
    · rw [normalToken_keyword hb ⟨hkeyword, hand, hsince⟩ ht]
      exact .date hw (Token.isKeyword_bare w) hc hv
  | @value w name q t c v hw ht hc hv =>
    have hwords : ∀ e ∈ values, (e.1 ∈ keywords ∧ e.1 ≠ "and" ∧ e.1 ≠ "since") ∧
        asksValue (.bare e.1) ∧ Text.lower e.2.1.toList = e.2.1.toList ∧ isOrdinary e.2.1 := by
      decide
    obtain ⟨hkeyword, hasks, hlower, hordinary⟩ := hwords _ hw
    rw [normalFrom_clause hkeyword.1 ht hc, normalToken_keyword hb hkeyword ht, hasks]
    have hvalue : anyValue v.lowered name := by
      rw [anyValue, Text.sameWord, beq_iff_eq] at hv ⊢
      rw [Token.lowered, String.toList_ofList, hv, hlower, hlower]
    exact ⟨.value hw (Token.isKeyword_bare w) hc hvalue,
      Token.not_colon (anyValue_not_delimiter hordinary hv)⟩

/-- Of an `and`, written or left out, nothing stays, and no value comes after it. -/
theorem OptionalAnd.normalFrom {ws : List Token} (h : OptionalAnd ws)
    (hb : afterColon before = false) :
    Grammar.normalFrom before ws = [] ∧ afterColon (ws.reverse ++ before) = false := by
  rcases h with rfl | ⟨t, ht, rfl⟩
  · exact ⟨rfl, hb⟩
  · rw [Grammar.normalFrom, Grammar.normalFrom, normalToken_and hb ht]
    exact ⟨rfl, keyword_afterColon before ht rfl⟩

/-- **A derivation is one of the normal form too**, with the same tree, wherever the tokens stand
but after a colon. They do not end with a colon, so the next ones do not stand after one either. -/
theorem Derives.normalFrom {rule : Rule} {ts : List Token} {q : Query}
    (h : Derives (TermUnder .reject) False rule ts q) (hb : afterColon before = false) :
    Derives (TermUnder .reject) False rule (Grammar.normalFrom before ts) q ∧
      afterColon (ts.reverse ++ before) = false := by
  -- `hb` goes from left to right: each piece is put in normal form after the pieces before it.
  induction h generalizing before with
  | one _ ih => exact ⟨.one (ih hb).1, (ih hb).2⟩
  | operand _ ih => exact ⟨.operand (ih hb).1, (ih hb).2⟩
  | alternative _ ih => exact ⟨.alternative (ih hb).1, (ih hb).2⟩
  | more hs => exact hs.elim
  | @and ts ws us q r _ hw _ ihq ihr =>
    obtain ⟨hq, hb⟩ := ihq hb
    obtain ⟨hnone, hb⟩ := hw.normalFrom hb
    obtain ⟨hr, hb⟩ := ihr hb
    have hand := Derives.and hq (.inl rfl) hr
    rw [List.append_nil] at hand
    rw [List.append_assoc, normalFrom_append, normalFrom_append, hnone]
    exact ⟨hand, by simpa using hb⟩
  | @butNot ts ws us t q r _ hw ht _ ihq ihr =>
    obtain ⟨hq, hb⟩ := ihq hb
    obtain ⟨hnone, hb⟩ := hw.normalFrom hb
    have hword := normalToken_keyword hb (w := "not") (by decide) ht
    obtain ⟨hr, hb⟩ := ihr (keyword_afterColon _ ht rfl)
    have hnot := Derives.butNot hq (.inl rfl) (Token.isKeyword_bare "not") hr
    rw [List.append_nil] at hnot
    rw [List.append_assoc, normalFrom_append, normalFrom_append, hnone, Grammar.normalFrom, hword]
    exact ⟨hnot, by simpa using hb⟩
  | @or ts us t q r _ ht _ ihq ihr =>
    obtain ⟨hq, hb⟩ := ihq hb
    have hword := normalToken_keyword hb (w := "or") (by decide) ht
    obtain ⟨hr, hb⟩ := ihr (keyword_afterColon _ ht rfl)
    rw [normalFrom_append, Grammar.normalFrom, hword]
    exact ⟨.or hq (Token.isKeyword_bare "or") hr, by simpa using hb⟩
  | @group ts a b q ha _ hclose ih =>
    have hopen := normalToken_delimiter hb (by decide) ha
    obtain ⟨hq, hb⟩ := ih (keyword_afterColon before ha rfl)
    have hend := normalToken_delimiter hb (by decide) hclose
    rw [List.cons_append, Grammar.normalFrom, normalFrom_append, hopen, Grammar.normalFrom, hend]
    refine ⟨.group ha hq hclose, ?_⟩
    have hlast := keyword_afterColon (ts.reverse ++ a :: before) hclose rfl
    simpa using hlast
  | term h =>
    cases h with
    | unknown hu => cases hu
    | known h =>
      obtain ⟨hterm, hafter⟩ := h.normalFrom hb
      exact ⟨.term (.known hterm), hafter⟩

/-- **There is one tree at most for given tokens.** The parser finds it, if its limits are no
obstacle. -/
theorem Derives.unique {u : UnknownValue} {ts : List Token} {q r : Query}
    (hq : Derives (TermUnder u) False .query ts q) (hr : Derives (TermUnder u) False .query ts r) :
    q = r := by
  -- Positions are no part of a tree, so any will do.
  let s : Scan := ⟨ts.map (Lexeme.mk 0), .proper 0⟩
  let o : ParseOptions :=
    { maxDepth := mostOpen 0 ts, maxTerms := q.leafCount + r.leafCount, unknownValue := u }
  have htokens : s.lexemes.map Lexeme.token = ts := by
    simp [s, Function.comp_def]
  have hparse : ∀ q', Derives (TermUnder u) False .query ts q' → q'.leafCount ≤ o.maxTerms →
      s.parse o = .ok q' := by
    intro q' h hterms
    have hdepth : mostOpen 0 (s.lexemes.map Lexeme.token) ≤ o.maxDepth :=
      Nat.le_of_eq (congrArg (mostOpen 0) htokens)
    exact Scan.parse_eq_ok.2 ⟨⟨rfl, htokens ▸ h⟩, hdepth, hterms⟩
  have hfirst := hparse q hq (Nat.le_add_right _ _)
  rw [hparse r hr (Nat.le_add_left _ _)] at hfirst
  exact (Except.ok.inj hfirst).symm

end

end Grammar

open Grammar

/-! ## Texts with the same normal form -/

/-- **Spaces, the case of keywords and optional `AND`s do not matter.** Two texts whose tokens have
the same normal form are parsed to the same tree, if they are parsed at all. -/
theorem parse_eq_of_normalForm_eq {text₁ text₂ : String} {o : ParseOptions} {q₁ q₂ : Query}
    (ho : o.unknownValue = .reject) (h₁ : Query.parse text₁ o = .ok q₁)
    (h₂ : Query.parse text₂ o = .ok q₂)
    (hnormal : normalForm (tokensOf text₁) = normalForm (tokensOf text₂)) : q₁ = q₂ := by
  have hderives : ∀ {text q}, Query.parse text o = .ok q →
      Derives (TermUnder .reject) False .query (normalForm (tokensOf text)) q := by
    intro text q h
    have hder := (Scan.parse_eq_ok.1 h).1.2
    rw [ho] at hder
    exact (hder.normalFrom rfl).1
  have hsecond := hderives h₂
  rw [← hnormal] at hsecond
  exact (hderives h₁).unique hsecond

/-- Keywords in another case, a word that means the same, one `AND` more and one less. What stands
after a colon or between quotes is compared as it is. -/
theorem parse_eq_of_normalForm_eq_spelling :
    let text₁ := "From:OR and is:READ Not ( since:\"AND\" \"Or\")"
    let text₂ := "from : OR IS:read AND NOT(AFTER:\"AND\" and \"Or\")"
    let q := Query.and (.text .sender (.bare "OR")) (.butNot (.flag .unread false)
      (.and (.date (.quote "AND") .after) (.text .anywhere (.quote "Or"))))
    normalForm (tokensOf text₁) = normalForm (tokensOf text₂) ∧
    Query.parse text₁ {} = .ok q ∧ (∀ r, Query.parse text₂ {} = .ok r → q = r) ∧
    Query.parse text₂ {} = .ok q := by
  intro text₁ text₂ q
  have hnormal : normalForm (tokensOf text₁) = normalForm (tokensOf text₂) := by decide +kernel
  have hfirst : Query.parse text₁ {} = .ok q := by decide +kernel
  exact ⟨hnormal, hfirst, fun r hr => parse_eq_of_normalForm_eq rfl hfirst hr hnormal,
    by decide +kernel⟩

end MailSearch
