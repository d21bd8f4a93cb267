import MailSearch.Query.Parser

/-!
# The grammar of searches

The grammar as a relation between tokens and trees, told without the parser:

    query       := conjunction+
    conjunction := disjunction ( [ "AND" ] ( "NOT" conjunction | conjunction ) )?
    disjunction := simple ( "OR" disjunction )?
    simple      := "(" query ")" | term

`Derives` has one constructor for each way a rule can go. It is open in two places. The terms are a
parameter, for what counts as a value of `is:` or `has:` is a choice (`Term`), and so is whether a
query may be several conjunctions in a row. With that the grammar is ambiguous: `a NOT b c` is one
conjunction, or two. Leaving it out costs no text (`Derives.single`) and leaves one tree for each
text, the one in which every join takes all that is to its right.

What the tokens alone say about a derivation is here too: where it can begin (`Derives.head`), and
that its parentheses match (`Derives.mostOpen_append`).
-/

namespace MailSearch

/-- The number of leaves of a tree. -/
def Query.leafCount : Query → Nat
  | and l r | or l r | butNot l r => l.leafCount + r.leafCount
  | text .. | flag .. | attachment | date .. | fullText .. => 1

namespace Grammar

/-! ## Terms -/

/-- The words that ask for a text in a field. -/
def fields : List (String × Field) :=
  [("to", .recipient), ("from", .sender), ("subject", .subject), ("in", .category)]

/-- The words that ask for a date. -/
def dates : List (String × Direction) :=
  [("since", .after), ("after", .after), ("before", .before)]

/-- The words with a fixed list of values, and what each value asks for. -/
def values : List (String × String × Query) :=
  [("is", "read", .flag .unread false), ("is", "unread", .flag .unread true),
    ("is", "starred", .flag .starred true), ("is", "unstarred", .flag .starred false),
    ("has", "attachment", .attachment), ("has", "attachments", .attachment)]

/-- The words that cannot be searched for unless they are quoted. -/
def keywords : List String :=
  ["and", "or", "not", "to", "from", "subject", "is", "has", "since", "after", "before", "in"]

/-- A token that can be searched for as it stands. -/
def IsText (t : Token) : Prop :=
  t.isDelimiter = false ∧ ∀ w ∈ keywords, t.isKeyword w = false

/-- The terms, when `spells v w` says that the token `v` is the value `w` of a qualifier. -/
inductive Term (spells : Token → String → Bool) : List Token → Query → Prop where
  /-- A text to search for. -/
  | word {t : Token} (ht : IsText t) : Term spells [t] (.text .anywhere t)
  /-- A text in a field. -/
  | field {w : String} {f : Field} {t c v : Token} (hw : (w, f) ∈ fields) (ht : t.isKeyword w)
      (hc : c.isKeyword ":") (hv : v.isDelimiter = false) : Term spells [t, c, v] (.text f v)
  /-- A date. -/
  | date {w : String} {d : Direction} {t c v : Token} (hw : (w, d) ∈ dates) (ht : t.isKeyword w)
      (hc : c.isKeyword ":") (hv : v.isDelimiter = false) : Term spells [t, c, v] (.date v d)
  /-- One of the fixed values. -/
  | value {w name : String} {q : Query} {t c v : Token} (hw : (w, name, q) ∈ values)
      (ht : t.isKeyword w) (hc : c.isKeyword ":") (hv : spells v name) : Term spells [t, c, v] q

/-- Values are keywords: in any case, and never between quotes. -/
def unquotedValue (v : Token) (name : String) : Bool :=
  v.isKeyword name

/-- Values are texts: in any case, between quotes or not. -/
def anyValue (v : Token) (name : String) : Bool :=
  Text.sameWord v.text name

/-! ## Derivations -/

/-- The rules of the grammar. -/
inductive Rule where
  | query
  | conjunction
  | disjunction
  | simple
deriving DecidableEq, Repr

/-- The word `AND`, or nothing. -/
def OptionalAnd (ts : List Token) : Prop :=
  ts = [] ∨ ∃ t : Token, t.isKeyword "and" ∧ ts = [t]

/-- The tokens that a rule derives, and the tree of the derivation. A query is several conjunctions
only where `several` holds. -/
inductive Derives (term : List Token → Query → Prop) (several : Prop) :
    Rule → List Token → Query → Prop where
  /-- A query of one conjunction. -/
  | one {ts : List Token} {q : Query} (h : Derives term several .conjunction ts q) :
      Derives term several .query ts q
  /-- A conjunction with more of them after it. -/
  | more {ts us : List Token} {q r : Query} (hs : several)
      (hq : Derives term several .conjunction ts q) (hr : Derives term several .query us r) :
      Derives term several .query (ts ++ us) (.and q r)
  /-- A conjunction of one operand. -/
  | operand {ts : List Token} {q : Query} (h : Derives term several .disjunction ts q) :
      Derives term several .conjunction ts q
  /-- An operand, and what must hold as well. -/
  | and {ts ws us : List Token} {q r : Query} (hq : Derives term several .disjunction ts q)
      (hw : OptionalAnd ws) (hr : Derives term several .conjunction us r) :
      Derives term several .conjunction (ts ++ ws ++ us) (.and q r)
  /-- An operand, and what must not hold. -/
  | butNot {ts ws us : List Token} {t : Token} {q r : Query}
      (hq : Derives term several .disjunction ts q) (hw : OptionalAnd ws) (ht : t.isKeyword "not")
      (hr : Derives term several .conjunction us r) :
      Derives term several .conjunction (ts ++ ws ++ t :: us) (.butNot q r)
  /-- A disjunction of one operand. -/
  | alternative {ts : List Token} {q : Query} (h : Derives term several .simple ts q) :
      Derives term several .disjunction ts q
  /-- An operand, and what may hold instead. -/
  | or {ts us : List Token} {t : Token} {q r : Query} (hq : Derives term several .simple ts q)
      (ht : t.isKeyword "or") (hr : Derives term several .disjunction us r) :
      Derives term several .disjunction (ts ++ t :: us) (.or q r)
  /-- A query between parentheses. -/
  | group {ts : List Token} {a b : Token} {q : Query} (ha : a.isKeyword "(")
      (h : Derives term several .query ts q) (hb : b.isKeyword ")") :
      Derives term several .simple (a :: ts ++ [b]) q
  /-- A term. -/
  | term {ts : List Token} {q : Query} (h : term ts q) : Derives term several .simple ts q

/-! ## Keywords

An unquoted token that is one keyword is no other, which is what keeps the rules apart. -/

end Grammar

/-- Only the letters `A` to `Z` become another character in lower case. -/
theorem Text.toLower_eq_iff {c d : Char} (hd : d.toNat < 65) : c.toLower = d ↔ c = d := by
  unfold Char.toLower
  split
  next h =>
    have h1 : 65 ≤ c.toNat := UInt32.le_iff_toNat_le.1 h.1
    have h2 : c.toNat ≤ 90 := UInt32.le_iff_toNat_le.1 h.2
    constructor
    · intro hc
      have hv : (c.toNat + 32) % 2 ^ 32 = d.toNat := congrArg Char.toNat hc
      omega
    · rintro rfl
      omega
  next => rfl

/-- A text that is one word is no other word. -/
theorem Text.sameWord_congr {s w : String} (h : sameWord s w) (x : String) :
    sameWord s x = sameWord w x := by
  rw [sameWord, beq_iff_eq] at h
  rw [sameWord, sameWord, h]

/-- A character that is no letter is written in one way only. -/
theorem Text.sameWord_singleton {s : String} {d : Char} (hd : d.toNat < 65) :
    sameWord s (String.singleton d) = (s == String.singleton d) := by
  have hlow : d.toLower = d := (toLower_eq_iff hd).2 rfl
  rw [Bool.eq_iff_iff, sameWord, beq_iff_eq, beq_iff_eq, ← String.toList_inj]
  simp only [lower, String.toList_singleton, List.map_eq_singleton_iff, List.map_cons,
    List.map_nil, hlow, toLower_eq_iff hd]
  constructor
  · rintro ⟨c, hs, rfl⟩
    exact hs
  · intro hs
    exact ⟨d, hs, rfl⟩

namespace Token

/-- Which keywords a token is, once it is known to be one. -/
theorem isKeyword_congr {t : Token} {w : String} (h : t.isKeyword w) (x : String) :
    t.isKeyword x = Text.sameWord w x := by
  simp only [isKeyword, Bool.and_eq_true, Bool.not_eq_true'] at h ⊢
  rw [h.1, Text.sameWord_congr h.2]
  rfl

/-- The delimiters are the keywords `(`, `)` and `:`. -/
theorem isDelimiter_eq (t : Token) :
    t.isDelimiter = (t.isKeyword "(" || t.isKeyword ")" || t.isKeyword ":") := by
  have h1 : Text.sameWord t.text "(" = (t.text == "(") :=
    Text.sameWord_singleton (d := '(') (by decide)
  have h2 : Text.sameWord t.text ")" = (t.text == ")") :=
    Text.sameWord_singleton (d := ')') (by decide)
  have h3 : Text.sameWord t.text ":" = (t.text == ":") :=
    Text.sameWord_singleton (d := ':') (by decide)
  rw [isDelimiter, isKeyword, isKeyword, isKeyword, h1, h2, h3]
  cases t.quoted <;> simp

/-- A token that is no delimiter is no parenthesis. -/
theorem not_parenthesis {t : Token} (h : t.isDelimiter = false) :
    t.isKeyword "(" = false ∧ t.isKeyword ")" = false := by
  simp only [isDelimiter_eq, Bool.or_eq_false_iff] at h
  exact h.1

/-- It is no colon either. -/
theorem not_colon {t : Token} (h : t.isDelimiter = false) : t.isKeyword ":" = false := by
  simp only [isDelimiter_eq, Bool.or_eq_false_iff] at h
  exact h.2

/-- A word without quotes is the keyword that it spells. -/
theorem isKeyword_bare (w : String) : (bare w).isKeyword w := by
  simp [isKeyword, bare, Text.sameWord]

end Token

namespace Grammar

/-! ## What a derivation begins with -/

/-- What all notions of a term have in common: a term is one leaf, it begins with a token that is
neither delimiter nor operator, and it holds no parenthesis. -/
structure TermShape (term : List Token → Query → Prop) : Prop where
  leaf : ∀ {ts : List Token} {q : Query}, term ts q → q.leafCount = 1
  head : ∀ {ts : List Token} {q : Query}, term ts q →
    ∃ t us, ts = t :: us ∧ t.isDelimiter = false ∧ t.isOperator = false
  flat : ∀ {ts : List Token} {q : Query}, term ts q →
    ∀ t ∈ ts, t.isKeyword "(" = false ∧ t.isKeyword ")" = false

section
variable {term : List Token → Query → Prop} {several : Prop} {rule : Rule}
  {ts us : List Token} {q r : Query}

/-- Whatever is derived begins with a token that neither joins two operands nor closes a group. -/
theorem Derives.head (hterm : TermShape term) (h : Derives term several rule ts q) :
    ∃ t us, ts = t :: us ∧ t.isOperator = false ∧ t.isKeyword ")" = false := by
  induction h with
  | one _ ih | operand _ ih | alternative _ ih => exact ih
  | more _ _ _ ih _ | and _ _ _ ih _ | butNot _ _ _ _ ih _ | or _ _ _ ih _ =>
    obtain ⟨t, us, rfl, ht⟩ := ih
    exact ⟨t, _, rfl, ht⟩
  | @group ts a b q ha _ _ _ =>
    refine ⟨a, _, rfl, ?_, Token.isKeyword_congr ha _⟩
    rw [Token.isOperator, Token.isKeyword_congr ha, Token.isKeyword_congr ha,
      Token.isKeyword_congr ha]
    rfl
  | term h =>
    obtain ⟨t, us, rfl, hd, ho⟩ := hterm.head h
    exact ⟨t, us, rfl, ho, (Token.not_parenthesis hd).2⟩

/-! ## One conjunction is enough -/

/-- Two conjunctions in a row are one: the word `AND` may be left out. -/
theorem Derives.conjunction_append (hq : Derives term several .conjunction ts q)
    (hr : Derives term several .conjunction us r) :
    ∃ q', Derives term several .conjunction (ts ++ us) q' ∧
      q'.leafCount = q.leafCount + r.leafCount := by
  generalize hrule : Rule.conjunction = rule at hq
  induction hq with
  | one | more | alternative | or | group | term => cases hrule
  | @operand ts q h _ =>
    have := Derives.and h (.inl rfl) hr
    exact ⟨.and q r, by simpa using this, rfl⟩
  | @and ts ws us' q r' h hw _ _ ih =>
    obtain ⟨q', hq', hleaves⟩ := ih rfl
    have := Derives.and h hw hq'
    refine ⟨.and q q', by simpa using this, ?_⟩
    simp only [Query.leafCount, hleaves, Nat.add_assoc]
  | @butNot ts ws us' t q r' h hw ht _ _ ih =>
    obtain ⟨q', hq', hleaves⟩ := ih rfl
    have := Derives.butNot h hw ht hq'
    refine ⟨.butNot q q', by simpa using this, ?_⟩
    simp only [Query.leafCount, hleaves, Nat.add_assoc]

/-- What is derived with several conjunctions in a row is derived without. The tree may be another
one, but it has as many leaves. -/
theorem Derives.single (h : Derives term several rule ts q) :
    ∃ q', Derives term False rule ts q' ∧ q'.leafCount = q.leafCount := by
  induction h with
  | one _ ih => obtain ⟨q', h, hleaves⟩ := ih; exact ⟨q', .one h, hleaves⟩
  | more _ _ _ ihq ihr =>
    obtain ⟨_, hq, hleft⟩ := ihq
    obtain ⟨_, hr, hright⟩ := ihr
    cases hr with
    | one hr =>
      obtain ⟨q', h, hleaves⟩ := hq.conjunction_append hr
      exact ⟨q', .one h, by rw [hleaves, hleft, hright, Query.leafCount]⟩
    | more hs => exact hs.elim
  | operand _ ih => obtain ⟨q', h, hleaves⟩ := ih; exact ⟨q', .operand h, hleaves⟩
  | and _ hw _ ihq ihr =>
    obtain ⟨_, hq, hleft⟩ := ihq
    obtain ⟨_, hr, hright⟩ := ihr
    exact ⟨_, .and hq hw hr, by simp only [Query.leafCount, hleft, hright]⟩
  | butNot _ hw ht _ ihq ihr =>
    obtain ⟨_, hq, hleft⟩ := ihq
    obtain ⟨_, hr, hright⟩ := ihr
    exact ⟨_, .butNot hq hw ht hr, by simp only [Query.leafCount, hleft, hright]⟩
  | alternative _ ih => obtain ⟨q', h, hleaves⟩ := ih; exact ⟨q', .alternative h, hleaves⟩
  | or _ ht _ ihq ihr =>
    obtain ⟨_, hq, hleft⟩ := ihq
    obtain ⟨_, hr, hright⟩ := ihr
    exact ⟨_, .or hq ht hr, by simp only [Query.leafCount, hleft, hright]⟩
  | group ha _ hb ih => obtain ⟨q', h, hleaves⟩ := ih; exact ⟨q', .group ha h hb, hleaves⟩
  | term h => exact ⟨_, .term h, rfl⟩

/-- Allowing several conjunctions in a row loses no derivation. -/
theorem Derives.ofSingle (h : Derives term False rule ts q) : Derives term several rule ts q := by
  induction h with
  | one _ ih => exact .one ih
  | more hs => exact hs.elim
  | operand _ ih => exact .operand ih
  | and _ hw _ ihq ihr => exact .and ihq hw ihr
  | butNot _ hw ht _ ihq ihr => exact .butNot ihq hw ht ihr
  | alternative _ ih => exact .alternative ih
  | or _ ht _ ihq ihr => exact .or ihq ht ihr
  | group ha _ hb ih => exact .group ha ih hb
  | term h => exact .term h

/-- A derivation needs of the notion of a term only what it says of the terms in its tokens. -/
theorem Derives.imp {term' : List Token → Query → Prop} (h : Derives term several rule ts q)
    (hterm : ∀ us r, us <:+: ts → term us r → term' us r) : Derives term' several rule ts q := by
  induction h with
  | one _ ih => exact .one (ih hterm)
  | more hs _ _ ihq ihr =>
    exact .more hs (ihq fun us r hus => hterm us r (hus.trans (List.prefix_append _ _).isInfix))
      (ihr fun us r hus => hterm us r (hus.trans (List.suffix_append _ _).isInfix))
  | operand _ ih => exact .operand (ih hterm)
  | and _ hw _ ihq ihr =>
    refine .and (ihq fun us r hus => hterm us r (hus.trans ?_)) hw
      (ihr fun us r hus => hterm us r (hus.trans (List.suffix_append _ _).isInfix))
    exact ((List.prefix_append _ _).trans (List.prefix_append _ _)).isInfix
  | butNot _ hw ht _ ihq ihr =>
    refine .butNot (ihq fun us r hus => hterm us r (hus.trans ?_)) hw ht
      (ihr fun us r hus => hterm us r (hus.trans ?_))
    · exact ((List.prefix_append _ _).trans (List.prefix_append _ _)).isInfix
    · exact ((List.suffix_cons _ _).trans (List.suffix_append _ _)).isInfix
  | alternative _ ih => exact .alternative (ih hterm)
  | or _ ht _ ihq ihr =>
    refine .or (ihq fun us r hus => hterm us r (hus.trans (List.prefix_append _ _).isInfix)) ht
      (ihr fun us r hus => hterm us r (hus.trans ?_))
    exact ((List.suffix_cons _ _).trans (List.suffix_append _ _)).isInfix
  | @group ts a b q ha _ hb ih =>
    exact .group ha (ih fun us r hus => hterm us r (hus.trans ⟨[a], [b], rfl⟩)) hb
  | term h => exact .term (hterm _ _ (List.infix_refl _) h)

end

/-! ## Open parentheses -/

/-- The most parentheses that are open at a time, when `opened` are open before the first token. -/
def mostOpen (opened : Nat) : List Token → Nat
  | [] => opened
  | t :: ts =>
    if t.isKeyword "(" then mostOpen (opened + 1) ts
    else if t.isKeyword ")" then max opened (mostOpen (opened - 1) ts)
    else mostOpen opened ts

/-- Parentheses that are open at the start count. -/
theorem le_mostOpen (opened : Nat) (ts : List Token) : opened ≤ mostOpen opened ts := by
  induction ts generalizing opened with
  | nil => exact Nat.le_refl _
  | cons t ts ih =>
    rw [mostOpen]
    split
    · exact Nat.le_of_succ_le (ih _)
    · split
      · exact Nat.le_max_left _ _
      · exact ih _

/-- Tokens without parentheses open none. -/
theorem mostOpen_flat {ts : List Token}
    (h : ∀ t ∈ ts, t.isKeyword "(" = false ∧ t.isKeyword ")" = false) (opened : Nat)
    (rest : List Token) : mostOpen opened (ts ++ rest) = mostOpen opened rest := by
  induction ts with
  | nil => rfl
  | cons t ts ih =>
    obtain ⟨ho, hc⟩ := h t (.head _)
    rw [List.cons_append, mostOpen, ho, hc]
    exact ih fun u hu => h u (.tail _ hu)

/-- A joining word is no parenthesis. -/
theorem mostOpen_keyword {t : Token} {w : String} (ht : t.isKeyword w)
    (hw : Text.sameWord w "(" = false ∧ Text.sameWord w ")" = false) (opened : Nat)
    (rest : List Token) : mostOpen opened (t :: rest) = mostOpen opened rest := by
  rw [mostOpen, Token.isKeyword_congr ht, Token.isKeyword_congr ht, hw.1, hw.2]
  rfl

/-- An `and`, written or left out, opens nothing. -/
theorem OptionalAnd.mostOpen {ws : List Token} (h : OptionalAnd ws) (opened : Nat)
    (rest : List Token) : mostOpen opened (ws ++ rest) = mostOpen opened rest := by
  rcases h with rfl | ⟨t, ht, rfl⟩
  · rfl
  · exact mostOpen_keyword ht ⟨rfl, rfl⟩ opened rest

/-- The parentheses of a derivation match: after it as many are open as before. -/
theorem Derives.mostOpen_append {term : List Token → Query → Prop} {several : Prop} {rule : Rule}
    {ts : List Token} {q : Query} (hterm : TermShape term) (h : Derives term several rule ts q)
    (opened : Nat) (rest : List Token) :
    mostOpen opened (ts ++ rest) = max (opened + mostOpen 0 ts) (mostOpen opened rest) := by
  -- The nesting is left open in the induction, for only the step over a group fixes it.
  suffices H : ∃ k, ∀ opened rest,
      mostOpen opened (ts ++ rest) = max (opened + k) (mostOpen opened rest) by
    obtain ⟨k, hk⟩ := H
    have hts := hk 0 []
    rw [List.append_nil, mostOpen, Nat.max_zero, Nat.zero_add] at hts
    rw [hk, hts]
  clear opened rest
  induction h with
  | one _ ih | operand _ ih | alternative _ ih => exact ih
  | more _ _ _ ihq ihr =>
    obtain ⟨k, hk⟩ := ihq
    obtain ⟨m, hm⟩ := ihr
    refine ⟨max k m, fun opened rest => ?_⟩
    rw [List.append_assoc, hk, hm]
    omega
  | and _ hw _ ihq ihr =>
    obtain ⟨k, hk⟩ := ihq
    obtain ⟨m, hm⟩ := ihr
    refine ⟨max k m, fun opened rest => ?_⟩
    rw [List.append_assoc, List.append_assoc, hk, hw.mostOpen, hm]
    omega
  | butNot _ hw ht _ ihq ihr =>
    obtain ⟨k, hk⟩ := ihq
    obtain ⟨m, hm⟩ := ihr
    refine ⟨max k m, fun opened rest => ?_⟩
    rw [List.append_assoc, List.append_assoc, hk, hw.mostOpen, List.cons_append,
      mostOpen_keyword ht ⟨rfl, rfl⟩, hm]
    omega
  | or _ ht _ ihq ihr =>
    obtain ⟨k, hk⟩ := ihq
    obtain ⟨m, hm⟩ := ihr
    refine ⟨max k m, fun opened rest => ?_⟩
    rw [List.append_assoc, hk, List.cons_append, mostOpen_keyword ht ⟨rfl, rfl⟩, hm]
    omega
  | @group ts a b q ha _ hb ih =>
    obtain ⟨k, hk⟩ := ih
    refine ⟨k + 1, fun opened rest => ?_⟩
    have hclose : mostOpen (opened + 1) (b :: rest) = max (opened + 1) (mostOpen opened rest) := by
      rw [mostOpen, Token.isKeyword_congr hb, Token.isKeyword_congr hb]
      rfl
    rw [List.cons_append, List.cons_append, List.append_assoc, mostOpen, ha, if_pos rfl, hk]
    rw [List.singleton_append, hclose]
    omega
  | term h =>
    refine ⟨0, fun opened rest => ?_⟩
    rw [mostOpen_flat (hterm.flat h)]
    exact (Nat.max_eq_right (le_mostOpen _ _)).symm

/-- Joining two operands nests no deeper than they do. -/
theorem Derives.mostOpen_join {term : List Token → Query → Prop} {several : Prop} {rule : Rule}
    {ts ws us : List Token} {q : Query} (hterm : TermShape term)
    (h : Derives term several rule ts q) (hw : OptionalAnd ws) :
    mostOpen 0 (ts ++ ws ++ us) = max (mostOpen 0 ts) (mostOpen 0 us) := by
  rw [List.append_assoc, h.mostOpen_append hterm, hw.mostOpen, Nat.zero_add]

/-- A group nests one deeper than what it holds. -/
theorem Derives.mostOpen_group {term : List Token → Query → Prop} {several : Prop} {rule : Rule}
    {ts : List Token} {a b : Token} {q : Query} (hterm : TermShape term) (ha : a.isKeyword "(")
    (h : Derives term several rule ts q) (hb : b.isKeyword ")") :
    mostOpen 0 (a :: ts ++ [b]) = mostOpen 0 ts + 1 := by
  have hclose : mostOpen 1 [b] = 1 := by
    rw [mostOpen, Token.isKeyword_congr hb, Token.isKeyword_congr hb]
    rfl
  rw [List.cons_append, mostOpen, ha, if_pos rfl, h.mostOpen_append hterm, hclose]
  omega

end Grammar

end MailSearch
