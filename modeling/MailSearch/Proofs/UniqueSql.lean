import MailSearch.Proofs.Literals
import Std.Data.String.ToInt

/-!
# Generated SQL is read in one way

A full-text query may hold a complete predicate, and where names are quoted a name may hold
anything, quotes included. `generate_eq_iff`: two condensed trees are still written as the same SQL
only if they are the same tree, up to dates that are compared with the same second or are equally
unknown (`DatedQuery`). The plain dialect quotes no names, and there they must be made of letters,
digits and underscores (`Dialect.Delimits`).

The lexer takes care of quotes, so predicates are compared as lists of pieces. `Predicate.told`
takes two predicates and two continuations at once. It knows three shapes of predicates: a test of a
column, a constant, and two predicates with a connective between them. They differ in the piece
behind their first parenthesis or in the one behind the name that follows it, since a name ends at
the first piece that belongs to no name.
-/

namespace MailSearch

open Sql

/-! ## Where names and numbers end -/

namespace Sql

/-- The characters of names that need no quotes. -/
def isNameChar (c : Char) : Bool :=
  c.isAlphanum || c == '_'

/-- What a name is made of, quoted or not. -/
def Piece.inName : Piece → Bool
  | code c => isNameChar c
  | identifier _ => true
  | literal _ => false

/-- A list is cut in one way at the first of its elements that is not of a kind. -/
theorem append_cons_inj {α : Type} {P : α → Prop} {as bs x y : List α} {a b : α}
    (has : ∀ c ∈ as, P c) (hbs : ∀ c ∈ bs, P c) (ha : ¬ P a) (hb : ¬ P b)
    (h : as ++ a :: x = bs ++ b :: y) : as = bs ∧ a = b ∧ x = y := by
  induction as generalizing bs with
  | nil =>
    cases bs with
    | nil => exact ⟨rfl, List.cons.inj h⟩
    | cons c bs =>
      obtain ⟨rfl, -⟩ := List.cons.inj h
      exact absurd (hbs _ (.head _)) ha
  | cons c as ih =>
    cases bs with
    | nil =>
      obtain ⟨rfl, -⟩ := List.cons.inj h
      exact absurd (has _ (.head _)) hb
    | cons d bs =>
      obtain ⟨rfl, htail⟩ := List.cons.inj h
      obtain ⟨rfl, hrest⟩ :=
        ih (fun c hc => has c (.tail _ hc)) (fun c hc => hbs c (.tail _ hc)) htail
      exact ⟨rfl, hrest⟩

/-- A text of code can be read off its pieces. -/
theorem codePieces_inj {s t : String} (h : codePieces s = codePieces t) : s = t :=
  String.toList_inj.1 ((List.map_inj_right fun _ _ => Piece.code.inj).1 h)

/-- A number holds no parenthesis. -/
theorem close_notMem_toString (n : Int) : ')' ∉ (toString n).toList := by
  have hdigits (m : Nat) : ')' ∉ m.repr.toList := by
    intro hmem
    rw [Nat.toList_repr] at hmem
    cases Nat.isDigit_of_mem_toDigits (by decide) (by decide) hmem
  rw [Int.toString_eq_repr, Int.repr_eq_if]
  split
  · exact hdigits _
  · rw [String.toList_append, List.mem_append, not_or]
    exact ⟨by decide, hdigits _⟩

/-- A number ends before the parenthesis. -/
theorem number_append_inj {m n : Int} {x y : List Piece}
    (h : codePieces (toString m) ++ .code ')' :: x = codePieces (toString n) ++ .code ')' :: y) :
    m = n ∧ x = y := by
  have hno (k : Int) : ∀ piece ∈ codePieces (toString k), piece ≠ .code ')' := by
    intro piece hpiece
    obtain ⟨c, hc, rfl⟩ := List.mem_map.1 hpiece
    rintro ⟨⟩
    exact close_notMem_toString k hc
  obtain ⟨hdigits, -, hrest⟩ := append_cons_inj (hno m) (hno n) (fun h => h rfl) (fun h => h rfl) h
  have hnumber := codePieces_inj hdigits
  rw [Int.toString_eq_repr, Int.toString_eq_repr] at hnumber
  exact ⟨Int.repr_inj.1 hnumber, hrest⟩

end Sql

namespace Dialect

variable {d : Dialect} {m n : String} {x y : List Piece}

/-- A name whose end can be told in a dialect. Where names are quoted that is every name. -/
def Delimits (d : Dialect) (name : String) : Prop :=
  d = .plain → name.toList.all isNameChar

/-- A name whose end can be told is accepted. -/
theorem Delimits.accepts (h : d.Delimits n) : d.Accepts n := by
  intro hd hmem
  cases List.all_eq_true.1 (h hd) _ hmem

/-- Where the end of a table's name can be told, so can that of its table for searching. -/
theorem Delimits.searchTable {e : Entity} (h : d.Delimits e.name) : d.Delimits e.searchTable := by
  intro hd
  rw [Entity.searchTable, String.toList_append, List.all_append, h hd]
  rfl

/-- Every piece of such a name can stand in a name. -/
theorem Delimits.inName (h : d.Delimits n) : ∀ piece ∈ d.namePieces n, piece.inName := by
  intro piece hpiece
  cases d with
  | plain =>
    obtain ⟨c, hc, rfl⟩ := List.mem_map.1 hpiece
    exact List.all_eq_true.1 (h rfl) c hc
  | sqlite | ansi =>
    obtain rfl := List.mem_singleton.1 hpiece
    rfl

/-- A name can be read off its pieces. -/
theorem namePieces_inj (h : d.namePieces m = d.namePieces n) : m = n := by
  cases d with
  | plain => exact codePieces_inj h
  | sqlite | ansi => exact Piece.identifier.inj (List.cons.inj h).1

/-- A name ends before the first piece that belongs to no name. -/
theorem namePieces_append_inj (hm : d.Delimits m) (hn : d.Delimits n) {piece : Piece}
    (hpiece : ¬ piece.inName)
    (h : d.namePieces m ++ piece :: x = d.namePieces n ++ piece :: y) : m = n ∧ x = y := by
  obtain ⟨hname, -, hrest⟩ := append_cons_inj hm.inName hn.inName hpiece hpiece h
  exact ⟨namePieces_inj hname, hrest⟩

end Dialect

namespace Column

variable {d : Dialect} {c c' : Column} {x y : List Piece}

/-- A column is its table, a dot and its name. -/
theorem pieces_append (d : Dialect) (c : Column) (x : List Piece) :
    c.pieces d ++ x = d.namePieces c.table ++ .code '.' :: (d.namePieces c.name ++ x) := by
  simp [pieces, codePieces]

/-- A column ends before the blank. -/
theorem pieces_append_inj (hc : ∀ name ∈ c.names, d.Delimits name)
    (hc' : ∀ name ∈ c'.names, d.Delimits name)
    (h : c.pieces d ++ .code ' ' :: x = c'.pieces d ++ .code ' ' :: y) : c = c' ∧ x = y := by
  rw [pieces_append, pieces_append] at h
  obtain ⟨htable, h⟩ := Dialect.namePieces_append_inj (hc _ (.head _)) (hc' _ (.head _))
    (by decide) h
  obtain ⟨hname, hrest⟩ := Dialect.namePieces_append_inj (hc _ (.tail _ (.head _)))
    (hc' _ (.tail _ (.head _))) (by decide) h
  cases c
  cases c'
  exact ⟨(mk.injEq ..).mpr ⟨htable, hname⟩, hrest⟩

/-- A column is no number: there is a dot where the number ends. -/
theorem pieces_append_ne_one (hc : ∀ name ∈ c.names, d.Delimits name) :
    c.pieces d ++ x ≠ .code '1' :: .code ' ' :: y := by
  intro h
  rw [pieces_append] at h
  have hone : ∀ piece ∈ [Piece.code '1'], piece.inName := by decide
  obtain ⟨-, hdot, -⟩ :=
    append_cons_inj (hc _ (.head _)).inName hone (by decide) (by decide) h
  cases hdot

/-- A column does not begin with a parenthesis. -/
theorem pieces_append_ne_open (hc : ∀ name ∈ c.names, d.Delimits name) :
    c.pieces d ++ x ≠ .code '(' :: y := by
  intro h
  rw [pieces_append] at h
  have hnone : ∀ piece ∈ ([] : List Piece), piece.inName := nofun
  obtain ⟨-, hdot, -⟩ :=
    append_cons_inj (hc _ (.head _)).inName hnone (by decide) (by decide) h
  cases hdot

end Column

/-! ## Shapes of predicates -/

namespace Predicate

/-- What stands between two predicates. -/
inductive Connective where
  | and
  | or
  | butNot

namespace Connective

/-- Two predicates with the connective between them. -/
def join : Connective → Predicate → Predicate → Predicate
  | and => .and
  | or => .or
  | butNot => .butNot

/-- The connective in SQL. -/
def word : Connective → String
  | and => " AND "
  | or => " OR "
  | butNot => " AND NOT "

variable {k k' : Connective} {x y : List Piece}

/-- A connective is told by what stands before the parenthesis of the right side. -/
theorem word_append_inj
    (h : codePieces k.word ++ .code '(' :: x = codePieces k'.word ++ .code '(' :: y) :
    k = k' ∧ x = y := by
  cases k <;> cases k' <;> simp_all [word, codePieces]

/-- Two predicates are joined in parentheses, with a word between them. -/
theorem pieces_join (k : Connective) (d : Dialect) (l r : Predicate) (x : List Piece) :
    (k.join l r).pieces d ++ x =
      .code '(' :: (l.pieces d ++ (codePieces k.word ++ (r.pieces d ++ .code ')' :: x))) := by
  cases k <;> simp [join, word, pieces, codePieces]

/-- The names of a join are those of its two sides. -/
theorem names_join (k : Connective) (l r : Predicate) :
    (k.join l r).names = l.names ++ r.names := by
  cases k <;> rfl

end Connective

/-- What is asked of a column. -/
inductive Test where
  | equals (bit : Bool)
  | unlike (pattern : String)
  | compare (direction : Direction) (bound : Int)
  | found (searchTable : String) (query : String)

namespace Test

/-- The predicate that asks it. -/
def on (c : Column) : Test → Predicate
  | equals bit => .equals c bit
  | unlike pattern => .unlike c pattern
  | compare direction bound => .compare c direction bound
  | found table query => .found c table query

/-- The names in a test. -/
def names : Test → List String
  | found table _ => [table]
  | equals _ | unlike _ | compare .. => []

/-- What stands behind the column and a blank, in front of `x`. -/
def pieces (d : Dialect) (x : List Piece) : Test → List Piece
  | equals bit => .code '=' :: .code ' ' :: .code (if bit then '1' else '0') :: .code ')' :: x
  | unlike pattern => codePieces "NOT LIKE " ++ .literal pattern :: .code ')' :: x
  | compare direction bound =>
    codePieces direction.operator ++ .code ' ' :: (codePieces (toString bound) ++ .code ')' :: x)
  | found table query =>
    codePieces "IN (SELECT " ++ (d.namePieces contentIdColumn ++ (codePieces " FROM " ++
      (d.namePieces table ++ .code ' ' :: (codePieces "WHERE " ++ (d.namePieces table ++
        (codePieces " MATCH " ++ .literal query :: .code ')' :: .code ')' :: x))))))

variable {d : Dialect} {t t' : Test} {x y : List Piece}

/-- A test is written after its column, in parentheses. -/
theorem pieces_on (d : Dialect) (c : Column) (t : Test) (x : List Piece) :
    (t.on c).pieces d ++ x = .code '(' :: (c.pieces d ++ .code ' ' :: t.pieces d x) := by
  cases t with
  | equals bit => cases bit <;> simp [on, pieces, Predicate.pieces, codePieces]
  | unlike | compare | found => simp [on, pieces, Predicate.pieces, codePieces]

/-- The names of a test on a column are its own and those of the column. -/
theorem forall_mem_names_on {c : Column} {P : String → Prop} :
    (∀ name ∈ (t.on c).names, P name) ↔ (∀ name ∈ t.names, P name) ∧ ∀ name ∈ c.names, P name := by
  cases t <;> simp [on, names, Predicate.names]

/-- A test is told from what follows it. -/
theorem pieces_inj (ht : ∀ name ∈ t.names, d.Delimits name)
    (ht' : ∀ name ∈ t'.names, d.Delimits name) (h : t.pieces d x = t'.pieces d y) :
    t = t' ∧ x = y := by
  -- Tests of different kinds differ in their first character.
  cases t with
  | equals bit =>
    cases t' with
    | equals bit' => cases bit <;> cases bit' <;> simp_all [pieces]
    | compare direction => cases direction <;> simp [pieces, codePieces, Direction.operator] at h
    | unlike | found => simp [pieces, codePieces] at h
  | unlike pattern =>
    cases t' with
    | unlike pattern' => simp_all [pieces, codePieces]
    | compare direction => cases direction <;> simp [pieces, codePieces, Direction.operator] at h
    | equals | found => simp [pieces, codePieces] at h
  | compare direction bound =>
    cases t' with
    | compare direction' bound' =>
      obtain ⟨rfl, hbound⟩ : direction = direction' ∧
          codePieces (toString bound) ++ .code ')' :: x =
            codePieces (toString bound') ++ .code ')' :: y := by
        cases direction <;> cases direction' <;> simp_all [pieces, codePieces, Direction.operator]
      obtain ⟨rfl, rfl⟩ := number_append_inj hbound
      exact ⟨rfl, rfl⟩
    | equals | unlike | found =>
      cases direction <;> simp [pieces, codePieces, Direction.operator] at h
  | found table query =>
    cases t' with
    | found table' query' =>
      have h := List.append_cancel_left (List.append_cancel_left (List.append_cancel_left h))
      obtain ⟨rfl, htable⟩ := Dialect.namePieces_append_inj (ht _ (.head _)) (ht' _ (.head _))
        (by decide) h
      have hquery :=
        List.append_cancel_left (List.append_cancel_left (List.append_cancel_left htable))
      obtain ⟨hliteral, hrest⟩ := List.cons.inj hquery
      obtain rfl := Piece.literal.inj hliteral
      exact ⟨rfl, (List.cons.inj (List.cons.inj hrest).2).2⟩
    | compare direction => cases direction <;> simp [pieces, codePieces, Direction.operator] at h
    | equals | unlike => simp [pieces, codePieces] at h

end Test

/-- Every predicate is a test of a column, a constant, or two predicates with a connective between
them. -/
@[elab_as_elim]
theorem shapeInduction {motive : Predicate → Prop} (test : ∀ c (t : Test), motive (t.on c))
    (constant : ∀ truth, motive (.constant truth))
    (join : ∀ (k : Connective) l r, motive l → motive r → motive (k.join l r)) (p : Predicate) :
    motive p := by
  induction p with
  | and l r ihl ihr => exact join .and l r ihl ihr
  | or l r ihl ihr => exact join .or l r ihl ihr
  | butNot l r ihl ihr => exact join .butNot l r ihl ihr
  | equals c bit => exact test c (.equals bit)
  | unlike c pattern => exact test c (.unlike pattern)
  | compare c direction bound => exact test c (.compare direction bound)
  | found c table query => exact test c (.found table query)
  | constant truth => exact constant truth

/-! ## Predicates are told apart -/

variable {d : Dialect} {l r m s : Predicate}

/-- A constant is written as an equation of two digits. -/
theorem pieces_constant (truth : Bool) (x : List Piece) :
    (constant truth).pieces d ++ x = .code '(' :: .code '1' :: .code ' ' :: .code '=' ::
      .code ' ' :: .code (if truth then '1' else '0') :: .code ')' :: x := by
  cases truth <;> simp [pieces, codePieces]

/-- Every predicate begins with a parenthesis. -/
theorem pieces_head (d : Dialect) (p : Predicate) (x : List Piece) :
    ∃ ps, p.pieces d ++ x = .code '(' :: ps := by
  cases p using shapeInduction with
  | test c t => exact ⟨_, Test.pieces_on d c t x⟩
  | constant truth => exact ⟨_, pieces_constant truth x⟩
  | join k l r => exact ⟨_, k.pieces_join d l r x⟩

/-- The two predicates are told apart by their pieces, whatever follows these. -/
def Told (d : Dialect) (p q : Predicate) : Prop :=
  ∀ x y, p.pieces d ++ x = q.pieces d ++ y → p = q ∧ x = y

/-- To be told apart is symmetric. -/
theorem Told.symm (h : Told d l r) : Told d r l := by
  intro x y heq
  obtain ⟨rfl, rfl⟩ := h y x heq.symm
  exact ⟨rfl, rfl⟩

/-- Two joins: the left sides end at the same place, so the connectives are the same, and then the
right sides end at the same place. -/
theorem Told.join (hleft : Told d l m) (hright : Told d r s) (k k' : Connective) :
    Told d (k.join l r) (k'.join m s) := by
  intro x y h
  rw [k.pieces_join, k'.pieces_join] at h
  obtain ⟨rfl, hword⟩ := hleft _ _ (List.cons.inj h).2
  obtain ⟨ps, hps⟩ := pieces_head d r (.code ')' :: x)
  obtain ⟨qs, hqs⟩ := pieces_head d s (.code ')' :: y)
  rw [hps, hqs] at hword
  obtain ⟨rfl, rfl⟩ := Connective.word_append_inj hword
  obtain ⟨rfl, hclose⟩ := hright _ _ (hps.trans hqs.symm)
  exact ⟨rfl, (List.cons.inj hclose).2⟩

/-- Only a join has a second parenthesis behind the first one. -/
theorem join_head (k : Connective) (d : Dialect) (l r : Predicate) (x : List Piece) :
    ∃ ps, (k.join l r).pieces d ++ x = .code '(' :: .code '(' :: ps := by
  obtain ⟨ps, hps⟩ := pieces_head d l (codePieces k.word ++ (r.pieces d ++ .code ')' :: x))
  exact ⟨ps, by rw [k.pieces_join, hps]⟩

/-- After its parenthesis a test goes on with a name, and a join with another parenthesis. -/
theorem told_test_join {c : Column} (hc : ∀ name ∈ c.names, d.Delimits name) (t : Test)
    (k : Connective) : Told d (t.on c) (k.join l r) := by
  intro x y h
  obtain ⟨ps, hps⟩ := join_head k d l r y
  rw [Test.pieces_on, hps] at h
  exact absurd (List.cons.inj h).2 (Column.pieces_append_ne_open hc)

/-- After its parenthesis a constant goes on with a digit, and a join with another parenthesis. -/
theorem told_constant_join (truth : Bool) (k : Connective) :
    Told d (constant truth) (k.join l r) := by
  intro x y h
  obtain ⟨ps, hps⟩ := join_head k d l r y
  rw [pieces_constant, hps] at h
  cases (List.cons.inj (List.cons.inj h).2).1

/-- A column is not the digit with which a constant begins: there is a dot in it. -/
theorem told_test_constant {c : Column} (hc : ∀ name ∈ c.names, d.Delimits name) (t : Test)
    (truth : Bool) : Told d (t.on c) (constant truth) := by
  intro x y h
  rw [Test.pieces_on, pieces_constant] at h
  exact absurd (List.cons.inj h).2 (Column.pieces_append_ne_one hc)

/-- Two constants are of one length, and the last digit tells them apart. -/
theorem told_constant (truth truth' : Bool) : Told d (constant truth) (constant truth') := by
  intro x y h
  rw [pieces_constant, pieces_constant] at h
  cases truth <;> cases truth' <;> simp_all

/-- Two tests: the columns end at the same place. -/
theorem told_test {c c' : Column} {t t' : Test} (h : ∀ name ∈ (t.on c).names, d.Delimits name)
    (h' : ∀ name ∈ (t'.on c').names, d.Delimits name) : Told d (t.on c) (t'.on c') := by
  intro x y heq
  rw [Test.pieces_on, Test.pieces_on] at heq
  rw [Test.forall_mem_names_on] at h h'
  obtain ⟨rfl, htest⟩ := Column.pieces_append_inj h.2 h'.2 (List.cons.inj heq).2
  obtain ⟨rfl, rfl⟩ := Test.pieces_inj h.1 h'.1 htest
  exact ⟨rfl, rfl⟩

/-- **A predicate can be told from what follows it.** -/
theorem told {p q : Predicate} (hp : ∀ name ∈ p.names, d.Delimits name)
    (hq : ∀ name ∈ q.names, d.Delimits name) : Told d p q := by
  -- The induction goes down one predicate, and the other one is taken apart beside it.
  induction p using shapeInduction generalizing q with
  | test c t =>
    cases q using shapeInduction with
    | test c' t' => exact told_test hp hq
    | constant truth => exact told_test_constant (Test.forall_mem_names_on.1 hp).2 t truth
    | join k m s => exact told_test_join (Test.forall_mem_names_on.1 hp).2 t k
  | constant truth =>
    cases q using shapeInduction with
    | test c t => exact (told_test_constant (Test.forall_mem_names_on.1 hq).2 t truth).symm
    | constant truth' => exact told_constant truth truth'
    | join k m s => exact told_constant_join truth k
  | join k l r ihl ihr =>
    cases q using shapeInduction with
    | test c t => exact (told_test_join (Test.forall_mem_names_on.1 hq).2 t k).symm
    | constant truth => exact (told_constant_join truth k).symm
    | join k' m s =>
      rw [Connective.names_join, List.forall_mem_append] at hp hq
      exact (ihl hp.1 hq.1).join (ihr hp.2 hq.2) k k'

/-- **SQL determines its predicate**: the lexer gives the pieces, and these tell the predicate. -/
theorem render_inj {p q : Predicate} (hp : ∀ name ∈ p.names, d.Delimits name)
    (hq : ∀ name ∈ q.names, d.Delimits name) (h : p.render d = q.render d) : p = q := by
  have hlex := (reads_render fun name hname => (hp name hname).accepts).lex
  have hlex' := (reads_render fun name hname => (hq name hname).accepts).lex
  rw [h, hlex', Option.some.injEq] at hlex
  exact (told hp hq [] [] (congrArg (· ++ []) hlex.symm)).1

end Predicate

/-! ## Trees without phrases -/

/-- What a date is written as. -/
inductive DateAtom where
  /-- A comparison with a second. -/
  | bound (direction : Direction) (seconds : Int)
  | constant (truth : Bool)
deriving DecidableEq, Repr

/-- A query whose dates are replaced by what they are written as. -/
inductive DatedQuery where
  | and (left right : DatedQuery)
  | or (left right : DatedQuery)
  | butNot (kept excluded : DatedQuery)
  | text (field : Field) (word : Token)
  | flag (flag : Flag) (status : Bool)
  | attachment
  | date (atom : DateAtom)
  | fullText (raw : String)
deriving DecidableEq, Repr

namespace Generator

variable {g : Generator} {s : Polarity} {q : Query} {p : Predicate}

/-- What a date is written as at a polarity: a comparison if the phrase is understood, and otherwise
a constant, false under an odd number of exclusions. -/
def dateAtom (g : Generator) (s : Polarity) (phrase : Token) (direction : Direction) : DateAtom :=
  match g.resolver phrase.text g.now with
  | some moment => .bound direction moment.seconds
  | none => .constant (s == .kept)

/-- A tree with its dates replaced by what they are written as, each at its polarity. -/
def dated (g : Generator) (s : Polarity) : Query → DatedQuery
  | .and l r => .and (g.dated s l) (g.dated s r)
  | .or l r => .or (g.dated s l) (g.dated s r)
  | .butNot l r => .butNot (g.dated s l) (g.dated s.flip r)
  | .text f w => .text f w
  | .flag f status => .flag f status
  | .attachment => .attachment
  | .date phrase direction => .date (g.dateAtom s phrase direction)
  | .fullText raw => .fullText raw

/-- The predicate of a tree whose dates are replaced. -/
def emitDated (g : Generator) : DatedQuery → Except Error Predicate
  | .and l r => do return .and (← g.emitDated l) (← g.emitDated r)
  | .or l r => do return .or (← g.emitDated l) (← g.emitDated r)
  | .butNot l r => do return .butNot (← g.emitDated l) (← g.emitDated r)
  | .text f w => .error (.violation (.notCondensed (.text f w)))
  | .flag f status => .ok (.equals (g.flagColumn f) status)
  | .attachment => .ok (.unlike (g.column g.entity.dataColumn) noAttachmentsPattern)
  | .date (.bound direction seconds) =>
    .ok (.compare (g.column g.entity.timestampColumn) direction seconds)
  | .date (.constant truth) => .ok (.constant truth)
  | .fullText raw => .ok (.found (g.column g.entity.idColumn) g.entity.searchTable raw)

/-- The tree that a predicate belongs to. -/
def treeOf (g : Generator) : Predicate → DatedQuery
  | .and l r => .and (g.treeOf l) (g.treeOf r)
  | .or l r => .or (g.treeOf l) (g.treeOf r)
  | .butNot l r => .butNot (g.treeOf l) (g.treeOf r)
  | .equals c bit => .flag (if c = g.flagColumn .unread then .unread else .starred) bit
  | .unlike .. => .attachment
  | .compare _ direction bound => .date (.bound direction bound)
  | .found _ _ query => .fullText query
  | .constant truth => .date (.constant truth)

/-- Nothing of a phrase but its atom is written. -/
theorem emit_eq_emitDated (g : Generator) (s : Polarity) (q : Query) :
    g.emit s q = g.emitDated (g.dated s q) := by
  induction q generalizing s with
  | and l r ihl ihr | or l r ihl ihr | butNot l r ihl ihr => rw [emit, ihl, ihr, dated, emitDated]
  | text | flag | attachment | fullText => rfl
  | date phrase direction =>
    rw [emit, dated, dateAtom]
    cases g.resolver phrase.text g.now with
    | some moment => rfl
    | none => cases s <;> rfl

/-- The markers are told apart by their columns. -/
theorem treeOf_flag (hcolumns : g.entity.unreadColumn ≠ g.entity.starredColumn) (f : Flag)
    (status : Bool) : g.treeOf (.equals (g.flagColumn f) status) = .flag f status := by
  cases f with
  | unread => rw [treeOf, if_pos rfl]
  | starred =>
    have hne : g.flagColumn .starred ≠ g.flagColumn .unread :=
      fun h => hcolumns (congrArg Column.name h).symm
    rw [treeOf, if_neg hne]

/-- **A predicate determines its tree**, up to the phrases of dates. -/
theorem treeOf_emit (hcolumns : g.entity.unreadColumn ≠ g.entity.starredColumn)
    (h : g.emit s q = .ok p) : g.treeOf p = g.dated s q := by
  induction q generalizing s p with
  | and l r ihl ihr | or l r ihl ihr | butNot l r ihl ihr =>
    obtain ⟨pl, pr, hl, hr, rfl⟩ := join_eq_ok.1 h
    rw [treeOf, dated, ihl hl, ihr hr]
  | text => cases h
  | flag f status =>
    cases h
    exact treeOf_flag hcolumns f status
  | attachment | fullText =>
    cases h
    rfl
  | date phrase direction =>
    revert h
    rw [emit, dated, dateAtom]
    cases g.resolver phrase.text g.now with
    | some moment =>
      rintro ⟨⟩
      rfl
    | none =>
      rintro ⟨⟩
      cases s <;> rfl

/-- The names of a predicate can be told if those of the entity can. -/
theorem emit_delimits (hnames : ∀ name ∈ g.entity.names, g.dialect.Delimits name)
    (h : g.emit s q = .ok p) : ∀ name ∈ p.names, g.dialect.Delimits name := by
  intro name hname
  rcases List.mem_cons.1 (emit_names h name hname) with rfl | hname
  · exact (hnames _ (.head _)).searchTable
  · exact hnames name hname

/-- **SQL determines its tree.** Two condensed trees are written as the same SQL exactly if they are
the same tree once every date is replaced by the comparison or the constant that it is written as.
The markers must have different columns. The names may be any names where they are quoted, and are
made of letters, digits and underscores where they are not. -/
theorem generate_eq_iff (g : Generator) (q₁ q₂ : Query)
    (hcolumns : g.entity.unreadColumn ≠ g.entity.starredColumn)
    (hnames : g.dialect = .plain → ∀ name ∈ g.entity.names, name.toList.all isNameChar)
    (h₁ : q₁.isCondensed) (h₂ : q₂.isCondensed) :
    (g.generate q₁).1 = (g.generate q₂).1 ↔ g.dated .kept q₁ = g.dated .kept q₂ := by
  have hdelimits : ∀ name ∈ g.entity.names, g.dialect.Delimits name :=
    fun name hname hd => hnames hd name hname
  constructor
  · intro h
    obtain ⟨p₁, hp₁⟩ := emit_isCondensed h₁ .kept
    obtain ⟨p₂, hp₂⟩ := emit_isCondensed h₂ .kept
    rw [generate_eq, generate_eq, hp₁, hp₂] at h
    obtain rfl := Predicate.render_inj (emit_delimits hdelimits hp₁) (emit_delimits hdelimits hp₂)
      (Except.ok.inj h)
    rw [← treeOf_emit hcolumns hp₁, treeOf_emit hcolumns hp₂]
  · intro h
    rw [generate_eq, generate_eq, emit_eq_emitDated, emit_eq_emitDated, h]

/-- Two trees whose dates say the same in other words, and a tree that is a disjunction where a
full-text query of the others only looks like one. Once no name is quoted, and once a name holds
quotes and SQL. -/
theorem generate_eq_iff_lookalike :
    let now : Instant := ⟨1742041800, 0, by decide, by decide, by decide⟩
    let g : Generator := ⟨.named "Thread", .plain, .standard, now, .kept⟩
    let entity := { Entity.named "Thread" with unreadColumn := "u\" = 1) OR (\"T" }
    let g' : Generator := ⟨entity, .ansi, .standard, now, .kept⟩
    let q₁ := Query.butNot (.fullText "a')) OR (1 = 1")
      (.or (.date (.quote "24 hours ago") .before) (.date (.bare "someday") .after))
    let q₂ := Query.butNot (.fullText "a')) OR (1 = 1")
      (.or (.date (.quote "a day ago") .before) (.date (.bare "whenever") .before))
    let q₃ := Query.butNot (.or (.fullText "a") (.date (.bare "someday") .after))
      (.or (.date (.quote "24 hours ago") .before) (.date (.bare "someday") .after))
    (q₁.isCondensed ∧ q₂.isCondensed ∧ q₃.isCondensed) ∧
    g.entity.unreadColumn ≠ g.entity.starredColumn ∧
    (∀ name ∈ g.entity.names, name.toList.all isNameChar) ∧
    (g.generate q₁).1 = (g.generate q₂).1 ∧ (g.generate q₁).1 ≠ (g.generate q₃).1 ∧
    g'.entity.unreadColumn ≠ g'.entity.starredColumn ∧
    (g'.generate q₁).1 = (g'.generate q₂).1 ∧ (g'.generate q₁).1 ≠ (g'.generate q₃).1 := by
  intro now g entity g' q₁ q₂ q₃
  have hcolumns : g.entity.unreadColumn ≠ g.entity.starredColumn := by decide
  have hnames : ∀ name ∈ g.entity.names, name.toList.all isNameChar := by decide
  have hsame := generate_eq_iff g q₁ q₂ hcolumns (fun _ => hnames) rfl rfl
  have hother := generate_eq_iff g q₁ q₃ hcolumns (fun _ => hnames) rfl rfl
  have hcolumns' : g'.entity.unreadColumn ≠ g'.entity.starredColumn := by decide
  have hsame' := generate_eq_iff g' q₁ q₂ hcolumns' nofun rfl rfl
  have hother' := generate_eq_iff g' q₁ q₃ hcolumns' nofun rfl rfl
  exact ⟨⟨rfl, rfl, rfl⟩, hcolumns, hnames, hsame.2 (by decide +kernel),
    mt hother.1 (by decide +kernel), hcolumns', hsame'.2 (by decide +kernel),
    mt hother'.1 (by decide +kernel)⟩

end Generator

end MailSearch
