import Mathlib.Control.Monad.Basic
import MailSearch.Proofs.UniqueSql
import MailSearch.Query.FullText

/-!
# Unresolved dates hide no message

A date phrase that is not understood could mean anything. `Generator.finds` is the truth of a tree
for a row when a `Choice` says of each unresolved date, at its own place in the tree, whether it
holds. `generate_holds_iff`: the SQL of a condensed tree is true of exactly the rows for which some
choice makes the tree true. So no row is lost to such a date, and no row is let in that the rest of
the tree excludes whatever the dates mean.

The generator writes one constant for such a date, which it takes from the polarity. On the kept
side a predicate stands for *some choice*, on the excluded side for *every choice*
(`Polarity.Allows`), and an exclusion turns one into the other (`Polarity.allows_not`). The sides of
a join are chosen for apart, which is why both readings go through `AND` and through `OR`
(`Polarity.allows_and`, `Polarity.allows_or`).

The truth of a SQL text is told by its texts, over the names of the entity (`Sql.Evaluates`). It is
the truth of a predicate that is written so (`Sql.evaluates_iff`), and since SQL determines its
predicate a text has one truth value where names can be told (`Sql.Evaluates.unique`).
-/

namespace MailSearch

/-! ## The truth of a predicate -/

/-- What is true of a row, for each kind of condition that is asked of it. -/
structure Row where
  equals : Column → Bool → Bool
  unlike : Column → String → Bool
  compare : Column → Direction → Int → Bool
  found : Column → String → String → Bool

/-- Whether a predicate is true of a row. -/
def Predicate.holds (row : Row) : Predicate → Bool
  | and l r => l.holds row && r.holds row
  | or l r => l.holds row || r.holds row
  | butNot l r => l.holds row && !r.holds row
  | equals c bit => row.equals c bit
  | unlike c pattern => row.unlike c pattern
  | compare c direction bound => row.compare c direction bound
  | found c table query => row.found c table query
  | constant truth => truth

/-- The truth of a SQL text for a row: the two constants are what they say, the joins are taken for
what they say, and all other conditions are asked of the row. They are about columns and tables with
these names. -/
inductive Sql.Evaluates (d : Dialect) (names : List String) (row : Row) : String → Bool → Prop where
  | one : Evaluates d names row "(1 = 1)" true
  | zero : Evaluates d names row "(1 = 0)" false
  | and {l r : String} {a b : Bool} (hl : Evaluates d names row l a)
      (hr : Evaluates d names row r b) :
      Evaluates d names row ("(" ++ l ++ " AND " ++ r ++ ")") (a && b)
  | or {l r : String} {a b : Bool} (hl : Evaluates d names row l a)
      (hr : Evaluates d names row r b) :
      Evaluates d names row ("(" ++ l ++ " OR " ++ r ++ ")") (a || b)
  | andNot {l r : String} {a b : Bool} (hl : Evaluates d names row l a)
      (hr : Evaluates d names row r b) :
      Evaluates d names row ("(" ++ l ++ " AND NOT " ++ r ++ ")") (a && !b)
  | equals {c : Column} (hc : c.names ⊆ names) (bit : Bool) :
      Evaluates d names row ("(" ++ c.render d ++ " = " ++ (if bit then "1" else "0") ++ ")")
        (row.equals c bit)
  | unlike {c : Column} (hc : c.names ⊆ names) (pattern : String) :
      Evaluates d names row ("(" ++ c.render d ++ " NOT LIKE " ++ stringLiteral pattern ++ ")")
        (row.unlike c pattern)
  | compare {c : Column} (hc : c.names ⊆ names) (direction : Direction) (bound : Int) :
      Evaluates d names row
        ("(" ++ c.render d ++ " " ++ direction.operator ++ " " ++ toString bound ++ ")")
        (row.compare c direction bound)
  | found {c : Column} {table : String} (hc : c.names ⊆ names) (htable : table ∈ names)
      (query : String) :
      Evaluates d names row
        ("(" ++ c.render d ++ " IN (SELECT " ++ d.quoteIdentifier "content_id" ++ " FROM " ++
          d.quoteIdentifier table ++ " WHERE " ++ d.quoteIdentifier table ++ " MATCH " ++
          stringLiteral query ++ "))")
        (row.found c table query)

namespace Sql

variable {d : Dialect} {names : List String} {row : Row} {sql : String} {a b : Bool}

/-- A predicate that is written out is as true as it was. -/
theorem evaluates_render {p : Predicate} (hp : p.names ⊆ names) :
    Evaluates d names row (p.render d) (p.holds row) := by
  induction p with
  | and l r ihl ihr =>
    exact .and (ihl (List.append_subset.1 hp).1) (ihr (List.append_subset.1 hp).2)
  | or l r ihl ihr =>
    exact .or (ihl (List.append_subset.1 hp).1) (ihr (List.append_subset.1 hp).2)
  | butNot l r ihl ihr =>
    exact .andNot (ihl (List.append_subset.1 hp).1) (ihr (List.append_subset.1 hp).2)
  | equals c bit => exact .equals hp bit
  | unlike c pattern => exact .unlike hp pattern
  | compare c direction bound => exact .compare hp direction bound
  | found c table query =>
    exact .found (List.cons_subset.1 hp).2 (List.cons_subset.1 hp).1 query
  | constant truth =>
    cases truth with
    | true => exact .one
    | false => exact .zero

/-- **The truth of a text is that of a predicate that is written so.** -/
theorem evaluates_iff : Evaluates d names row sql a ↔
    ∃ p : Predicate, p.names ⊆ names ∧ p.render d = sql ∧ p.holds row = a := by
  constructor
  · intro h
    induction h with
    | one => exact ⟨.constant true, List.nil_subset _, rfl, rfl⟩
    | zero => exact ⟨.constant false, List.nil_subset _, rfl, rfl⟩
    | and _ _ ihl ihr =>
      obtain ⟨l, hl, rfl, rfl⟩ := ihl
      obtain ⟨r, hr, rfl, rfl⟩ := ihr
      exact ⟨.and l r, List.append_subset.2 ⟨hl, hr⟩, rfl, rfl⟩
    | or _ _ ihl ihr =>
      obtain ⟨l, hl, rfl, rfl⟩ := ihl
      obtain ⟨r, hr, rfl, rfl⟩ := ihr
      exact ⟨.or l r, List.append_subset.2 ⟨hl, hr⟩, rfl, rfl⟩
    | andNot _ _ ihl ihr =>
      obtain ⟨l, hl, rfl, rfl⟩ := ihl
      obtain ⟨r, hr, rfl, rfl⟩ := ihr
      exact ⟨.butNot l r, List.append_subset.2 ⟨hl, hr⟩, rfl, rfl⟩
    | @equals c hc bit => exact ⟨.equals c bit, hc, rfl, rfl⟩
    | @unlike c hc pattern => exact ⟨.unlike c pattern, hc, rfl, rfl⟩
    | @compare c hc direction bound => exact ⟨.compare c direction bound, hc, rfl, rfl⟩
    | @found c table hc htable query =>
      exact ⟨.found c table query, List.cons_subset.2 ⟨htable, hc⟩, rfl, rfl⟩
  · rintro ⟨p, hp, rfl, rfl⟩
    exact evaluates_render hp

/-- **A text has one truth value**, where its names can be told. -/
theorem Evaluates.unique (hnames : ∀ name ∈ names, d.Delimits name)
    (h : Evaluates d names row sql a) (h' : Evaluates d names row sql b) : a = b := by
  obtain ⟨p, hp, rfl, rfl⟩ := evaluates_iff.1 h
  obtain ⟨q, hq, hsql, rfl⟩ := evaluates_iff.1 h'
  have hsame : q = p := Predicate.render_inj (fun name hname => hnames name (hq hname))
    (fun name hname => hnames name (hp hname)) hsql
  rw [hsame]

end Sql

/-! ## Choices -/

/-- The two sides of a join. -/
inductive Side where
  | left
  | right
deriving DecidableEq, Repr

/-- A truth value for every place in a tree. A place is the way to it from the root. -/
abbrev Choice := List Side → Bool

namespace Choice

/-- The choice for the places on one side of a join. -/
def on (choice : Choice) (side : Side) : Choice :=
  fun way => choice (side :: way)

/-- The choice for a join that is made for each side apart. -/
def join (left right : Choice) : Choice
  | .left :: way => left way
  | .right :: way => right way
  | [] => false

end Choice

namespace Polarity

/-- What a predicate stands for at a polarity: that something is so for some choice, or that it is
so for every choice. -/
def Allows (s : Polarity) (P : Choice → Prop) : Prop :=
  match s with
  | kept => ∃ choice, P choice
  | excluded => ∀ choice, P choice

variable {s : Polarity} {P Q : Choice → Prop}

/-- What no choice has a part in. -/
theorem allows_const {a : Prop} : s.Allows (fun _ => a) ↔ a := by
  cases s with
  | kept => exact ⟨fun ⟨_, h⟩ => h, fun h => ⟨fun _ => false, h⟩⟩
  | excluded => exact ⟨fun h => h fun _ => false, fun h _ => h⟩

/-- Choices on the two sides are made apart, so two demands on them are met together. -/
theorem allows_and :
    s.Allows (fun choice => P (choice.on .left) ∧ Q (choice.on .right)) ↔
      s.Allows P ∧ s.Allows Q := by
  cases s with
  | kept =>
    constructor
    · rintro ⟨choice, hl, hr⟩
      exact ⟨⟨_, hl⟩, ⟨_, hr⟩⟩
    · rintro ⟨⟨left, hl⟩, ⟨right, hr⟩⟩
      exact ⟨.join left right, hl, hr⟩
  | excluded =>
    constructor
    · intro h
      exact ⟨fun left => (h (.join left left)).1, fun right => (h (.join right right)).2⟩
    · intro h choice
      exact ⟨h.1 _, h.2 _⟩

/-- So is one of two demands, on either side. -/
theorem allows_or :
    s.Allows (fun choice => P (choice.on .left) ∨ Q (choice.on .right)) ↔
      s.Allows P ∨ s.Allows Q := by
  cases s with
  | kept =>
    constructor
    · rintro ⟨choice, hl | hr⟩
      · exact .inl ⟨_, hl⟩
      · exact .inr ⟨_, hr⟩
    · rintro (⟨left, hl⟩ | ⟨right, hr⟩)
      · exact ⟨.join left left, .inl hl⟩
      · exact ⟨.join right right, .inr hr⟩
  | excluded =>
    constructor
    · intro h
      -- A choice against the left side can be put together with any choice for the right one.
      by_cases hleft : ∀ left, P left
      · exact .inl hleft
      · obtain ⟨left, hl⟩ := Classical.not_forall.1 hleft
        exact .inr fun right => (h (.join left right)).resolve_left hl
    · rintro (h | h) choice
      · exact .inl (h _)
      · exact .inr (h _)

/-- An exclusion turns *some choice* into *every choice*, and back. -/
theorem allows_not : s.Allows (fun choice => ¬ P choice) ↔ ¬ s.flip.Allows P := by
  cases s with
  | kept => exact Classical.not_forall.symm
  | excluded => exact not_exists.symm

end Polarity

/-! ## The truth of a tree -/

namespace Generator

/-- Whether a tree is true of a row. Its leaves ask what their columns are asked, and a date that is
not resolved is what the choice says. -/
def finds (g : Generator) (row : Row) (choice : Choice) : Query → Bool
  | .and l r => g.finds row (choice.on .left) l && g.finds row (choice.on .right) r
  | .or l r => g.finds row (choice.on .left) l || g.finds row (choice.on .right) r
  | .butNot l r => g.finds row (choice.on .left) l && !g.finds row (choice.on .right) r
  | .text f w => row.found (g.column g.entity.idColumn) g.entity.searchTable (f.lower w.text)
  | .flag f status => row.equals (g.flagColumn f) status
  | .attachment => row.unlike (g.column g.entity.dataColumn) noAttachmentsPattern
  | .date phrase direction =>
    match g.resolver phrase.text g.now with
    | some moment =>
      row.compare (g.column g.entity.timestampColumn) direction moment.seconds
    | none => choice []
  | .fullText raw => row.found (g.column g.entity.idColumn) g.entity.searchTable raw

/-- **What is emitted at a polarity** is true of a row if the tree is, for some choice on the kept
side and for every choice on the excluded side. -/
theorem emit_holds {g : Generator} {s : Polarity} {q : Query} {p : Predicate}
    (h : g.emit s q = .ok p) (row : Row) :
    p.holds row ↔ s.Allows fun choice => g.finds row choice q := by
  induction q generalizing s p with
  | and l r ihl ihr =>
    obtain ⟨pl, pr, hl, hr, rfl⟩ := join_eq_ok.1 h
    simp only [Predicate.holds, finds, Bool.and_eq_true]
    rw [ihl hl, ihr hr]
    exact Polarity.allows_and.symm
  | or l r ihl ihr =>
    obtain ⟨pl, pr, hl, hr, rfl⟩ := join_eq_ok.1 h
    simp only [Predicate.holds, finds, Bool.or_eq_true]
    rw [ihl hl, ihr hr]
    exact Polarity.allows_or.symm
  | butNot l r ihl ihr =>
    obtain ⟨pl, pr, hl, hr, rfl⟩ := join_eq_ok.1 h
    simp only [Predicate.holds, finds, Bool.and_eq_true, Bool.not_eq_true', ← Bool.not_eq_true]
    rw [ihl hl, ihr hr, ← Polarity.allows_not]
    exact Polarity.allows_and.symm
  | text => cases h
  | flag | attachment | fullText =>
    cases h
    exact Polarity.allows_const.symm
  | date phrase direction =>
    simp only [emit] at h
    simp only [finds]
    cases hd : g.resolver phrase.text g.now with
    | some moment =>
      simp only [hd] at h
      cases h
      exact Polarity.allows_const.symm
    | none =>
      simp only [hd] at h
      cases h
      cases s with
      | kept => exact ⟨fun _ => ⟨fun _ => true, rfl⟩, fun _ => rfl⟩
      | excluded =>
        constructor
        · intro h
          cases h
        · intro h
          exact h fun _ => false

/-- **Unresolved dates hide no message**, and let no more in than they must. What a condensed tree
is written as is true of a row exactly if there is a choice for the unresolved dates, each at its
own place, that makes the tree true of the row. It has no other truth value, where the names of the
entity can be told. -/
theorem generate_holds_iff (g : Generator) {q : Query} (hq : q.isCondensed) :
    ∃ p : Predicate, (g.generate q).1 = .ok (p.render g.dialect) ∧
      ∀ row, Sql.Evaluates g.dialect (g.entity.searchTable :: g.entity.names) row
          (p.render g.dialect) (p.holds row) ∧
        ((∀ name ∈ g.entity.names, g.dialect.Delimits name) → ∀ truth,
          Sql.Evaluates g.dialect (g.entity.searchTable :: g.entity.names) row
            (p.render g.dialect) truth → truth = p.holds row) ∧
        (p.holds row = true ↔ ∃ choice, g.finds row choice q = true) := by
  obtain ⟨p, hp⟩ := emit_isCondensed (g := g) hq .kept
  refine ⟨p, by rw [generate_eq, hp]; rfl, fun row => ?_⟩
  have htruth : Sql.Evaluates g.dialect (g.entity.searchTable :: g.entity.names) row
      (p.render g.dialect) (p.holds row) :=
    Sql.evaluates_render fun name hname => emit_names hp name hname
  refine ⟨htruth, fun hnames truth h => h.unique ?_ htruth, emit_holds hp row⟩
  intro name hname
  rcases List.mem_cons.1 hname with rfl | hname
  · exact (hnames _ (.head _)).searchTable
  · exact hnames name hname

/-- Three dates that are not understood, one of them under an exclusion and one under two. The rows
that are unread are found, and no others. -/
theorem generate_holds_iff_nested :
    let g : Generator :=
      ⟨.named "Thread", .plain, fun _ _ => none, ⟨0, 0, by decide, by decide, by decide⟩, .kept⟩
    let soon : Query := .date (.bare "soon") .before
    let q : Query := .butNot (.and (.flag .unread true) soon)
      (.butNot (.or (.flag .unread false) soon) soon)
    q.isCondensed ∧
    (g.generate q).1 = .ok ("(((Thread.unread = 1) AND (1 = 1)) AND NOT " ++
      "(((Thread.unread = 0) OR (1 = 0)) AND NOT (1 = 1)))") ∧
    ∃ p : Predicate, (g.generate q).1 = .ok (p.render g.dialect) ∧ ∀ row truth,
      Sql.Evaluates g.dialect (g.entity.searchTable :: g.entity.names) row
        (p.render g.dialect) truth ↔ truth = row.equals ⟨"Thread", "unread"⟩ true := by
  intro g soon q
  obtain ⟨p, hsql, hp⟩ := generate_holds_iff g (q := q) rfl
  refine ⟨rfl, by decide +kernel, p, hsql, fun row truth => ?_⟩
  obtain ⟨htruth, hunique, hholds⟩ := hp row
  have hunread : p.holds row = row.equals ⟨"Thread", "unread"⟩ true := by
    rw [Bool.eq_iff_iff]
    refine hholds.trans ⟨?_, ?_⟩
    · rintro ⟨choice, h⟩
      simp only [q, finds, Bool.and_eq_true] at h
      exact h.1.1
    · intro h
      refine ⟨fun _ => true, ?_⟩
      simp only [q, soon, finds, Bool.and_eq_true]
      exact ⟨⟨h, rfl⟩, by simp [g, Choice.on]⟩
  have hnames : ∀ name ∈ g.entity.names, g.dialect.Delimits name := by
    have hall : ∀ name ∈ g.entity.names, name.toList.all Sql.isNameChar := by decide
    exact fun name hname _ => hall name hname
  rw [← hunread]
  constructor
  · exact hunique hnames truth
  · rintro rfl
    exact htruth

end Generator

end MailSearch
