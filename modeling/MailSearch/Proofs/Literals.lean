import MailSearch.Proofs.Emission
import MailSearch.Proofs.SqlLexing

/-!
# Search text stays within its literal

`generate_literals`: the SQL of a condensed tree, read back, ends outside of quotes and has exactly
the literals that belong to the leaves of the tree, in their order. What stands outside of the
literals does not depend on what the full-text queries hold.

The predicate of a tree (`Generator.emit`) is compared with the tree twice: for its literals
(`Generator.emit_literals`) and with the full-text queries blanked out (`Generator.emit_blank`).
-/

namespace MailSearch

open Sql

/-! ## Literals and what is outside of them -/

namespace Sql

/-- The text of a literal. -/
def Piece.literal? : Piece → Option String
  | literal value => some value
  | code _ | identifier _ => none

/-- The literals of a SQL text, in order. -/
def literals (ps : List Piece) : List String :=
  ps.filterMap Piece.literal?

/-- A piece, without what it holds if it is a literal. -/
def Piece.blank : Piece → Piece
  | literal _ => literal ""
  | code c => code c
  | identifier name => identifier name

/-- The literals of two texts in a row are found one text after the other. -/
@[simp]
theorem literals_append (ps qs : List Piece) : literals (ps ++ qs) = literals ps ++ literals qs :=
  List.filterMap_append

@[simp]
theorem literals_literal (value : String) (ps : List Piece) :
    literals (.literal value :: ps) = value :: literals ps := rfl

/-- The words of the language hold no literal. -/
@[simp]
theorem literals_codePieces (code : String) : literals (codePieces code) = [] := by
  simp [literals, codePieces, Piece.literal?]

/-- A name between its delimiters holds no literal. -/
@[simp]
theorem literals_namePieces (d : Dialect) (name : String) : literals (d.namePieces name) = [] := by
  cases d <;> simp [literals, Dialect.namePieces, Piece.literal?]

/-- The name of a column holds no literal. -/
@[simp]
theorem literals_column (d : Dialect) (c : Column) : literals (c.pieces d) = [] := by
  simp [Column.pieces]

end Sql

/-- The literals that the leaves of a tree call for, from left to right. -/
def Query.literals : Query → List String
  | and l r | or l r | butNot l r => l.literals ++ r.literals
  | attachment => [noAttachmentsPattern]
  | fullText raw => [raw]
  | text .. | flag .. | date .. => []

/-- The tree, without what its full-text queries hold. -/
def Query.blank : Query → Query
  | and l r => and l.blank r.blank
  | or l r => or l.blank r.blank
  | butNot l r => butNot l.blank r.blank
  | fullText _ => fullText ""
  | text f w => text f w
  | flag f s => flag f s
  | attachment => attachment
  | date p d => date p d

/-- The predicate, without what its full-text queries hold. -/
def Predicate.blank : Predicate → Predicate
  | and l r => and l.blank r.blank
  | or l r => or l.blank r.blank
  | butNot l r => butNot l.blank r.blank
  | found c table _ => found c table ""
  | equals c bit => equals c bit
  | unlike c pattern => unlike c pattern
  | compare c direction bound => compare c direction bound
  | constant truth => constant truth

/-- The names that an entity is configured with. -/
def Entity.names (e : Entity) : List String :=
  [e.name, e.idColumn, e.unreadColumn, e.starredColumn, e.dataColumn, e.timestampColumn]

namespace Generator

variable {g : Generator} {s : Polarity} {q : Query} {p : Predicate}

/-- The literals of the predicate are those of the tree. -/
theorem emit_literals (d : Dialect) (h : g.emit s q = .ok p) :
    literals (p.pieces d) = q.literals := by
  induction q generalizing s p with
  | and l r ihl ihr | or l r ihl ihr | butNot l r ihl ihr =>
    obtain ⟨pl, pr, hl, hr, rfl⟩ := join_eq_ok.1 h
    simp [Predicate.pieces, Query.literals, ihl hl, ihr hr]
  | text => cases h
  | flag | attachment | fullText =>
    cases h
    simp [Predicate.pieces, Query.literals]
  | date phrase direction =>
    obtain ⟨bound, rfl⟩ | rfl := emit_date h
    · simp [Predicate.pieces, Query.literals]
    · cases s <;> simp [Polarity.permissive, Predicate.pieces, Query.literals]

/-- The names of the predicate are those of the entity and its search table. -/
theorem emit_names (h : g.emit s q = .ok p) :
    ∀ name ∈ p.names, name ∈ g.entity.searchTable :: g.entity.names := by
  induction q generalizing s p with
  | and l r ihl ihr | or l r ihl ihr | butNot l r ihl ihr =>
    obtain ⟨pl, pr, hl, hr, rfl⟩ := join_eq_ok.1 h
    intro name hname
    rcases List.mem_append.1 hname with hname | hname
    · exact ihl hl name hname
    · exact ihr hr name hname
  | text => cases h
  | flag f status =>
    cases h
    cases f <;> simp [Predicate.names, Column.names, flagColumn, column, Entity.names]
  | attachment | fullText =>
    cases h
    simp [Predicate.names, Column.names, column, Entity.names]
  | date phrase direction =>
    obtain ⟨bound, rfl⟩ | rfl := emit_date h
    · simp [Predicate.names, Column.names, column, Entity.names]
    · cases s <;> simp [Polarity.permissive, Predicate.names]

/-- Blanking out the full-text queries of a tree blanks out those of its predicate. -/
theorem emit_blank (g : Generator) (s : Polarity) (q : Query) :
    g.emit s q.blank = (g.emit s q).map Predicate.blank := by
  induction q generalizing s with
  | and l r ihl ihr =>
    rw [Query.blank, emit, ihl, ihr]
    exact join_map .and (fun _ _ => rfl) _ _
  | or l r ihl ihr =>
    rw [Query.blank, emit, ihl, ihr]
    exact join_map .or (fun _ _ => rfl) _ _
  | butNot l r ihl ihr =>
    rw [Query.blank, emit, ihl, ihr]
    exact join_map .butNot (fun _ _ => rfl) _ _
  | text | flag | attachment | fullText => rfl
  | date phrase direction =>
    rw [Query.blank, emit]
    cases g.resolver phrase.text g.now with
    | none => cases s <;> rfl
    | some moment => rfl

end Generator

/-- What stands outside of the literals does not depend on the full-text queries. -/
theorem Predicate.pieces_blank (d : Dialect) (p : Predicate) :
    (p.blank.pieces d).map Piece.blank = (p.pieces d).map Piece.blank := by
  induction p with
  | and l r ihl ihr | or l r ihl ihr | butNot l r ihl ihr =>
    simp only [blank, pieces, List.map_append, ihl, ihr]
  | found c table query => simp only [blank, pieces, List.map_append, List.map_cons, Piece.blank]
  | equals | unlike | compare | constant => rfl

/-- The search table is named after the entity. -/
theorem Dialect.Accepts.searchTable {d : Dialect} {e : Entity} (h : d.Accepts e.name) :
    d.Accepts e.searchTable := by
  intro hd hmem
  rw [Entity.searchTable, String.toList_append] at hmem
  rcases List.mem_append.1 hmem with hmem | hmem
  · exact h hd hmem
  · revert hmem
    decide

namespace Generator

/-- What a tree is written as is read back as the pieces of its predicate. -/
theorem lex_generate {g : Generator} {q : Query} {p : Predicate}
    (hnames : ∀ name ∈ g.entity.names, g.dialect.Accepts name) (h : g.emit .kept q = .ok p) :
    (g.generate q).1 = .ok (p.render g.dialect) ∧
      lex g.dialect (p.render g.dialect) = some (p.pieces g.dialect) := by
  refine ⟨by rw [generate_eq, h]; rfl, (Predicate.reads_render fun name hname => ?_).lex⟩
  rcases List.mem_cons.1 (emit_names h name hname) with rfl | hname
  · exact Dialect.Accepts.searchTable (hnames _ (.head _))
  · exact hnames name hname

/-- **Search text cannot leave its literal.** The SQL of a condensed tree is read back to its end;
its literals are those of the tree; and with other full-text queries in their place, everything
outside of the literals stays as it is. -/
theorem generate_literals (g : Generator) {q : Query} (hq : q.isCondensed)
    (hnames : ∀ name ∈ g.entity.names, g.dialect.Accepts name) :
    ∃ sql ps, (g.generate q).1 = .ok sql ∧ lex g.dialect sql = some ps ∧
      literals ps = q.literals ∧
      ∀ q' : Query, q'.blank = q.blank → ∃ sql' ps', (g.generate q').1 = .ok sql' ∧
        lex g.dialect sql' = some ps' ∧ ps'.map Piece.blank = ps.map Piece.blank := by
  obtain ⟨p, hp⟩ := emit_isCondensed hq .kept
  obtain ⟨hsql, hlex⟩ := lex_generate hnames hp
  refine ⟨_, _, hsql, hlex, emit_literals _ hp, fun q' hblank => ?_⟩
  have hmap : (g.emit .kept q').map Predicate.blank = .ok p.blank := by
    rw [← emit_blank, hblank, emit_blank, hp]
    rfl
  cases hp' : g.emit .kept q' with
  | error => rw [hp'] at hmap; cases hmap
  | ok p' =>
    obtain ⟨hsql', hlex'⟩ := lex_generate hnames hp'
    rw [hp'] at hmap
    refine ⟨_, _, hsql', hlex', ?_⟩
    rw [← Predicate.pieces_blank, Except.ok.inj hmap, Predicate.pieces_blank]

/-- Texts that try to close their literal, in the dialect that quotes no names. -/
theorem generate_literals_apostrophes :
    let g : Generator :=
      ⟨.named "Thread", .plain, fun _ _ => none, ⟨0, 0, by decide, by decide, by decide⟩, .kept⟩
    let q : Query := .or (.fullText "x') OR 1=1 --") (.butNot .attachment (.fullText "'"))
    let q' : Query := .or (.fullText "''") (.butNot .attachment (.fullText ""))
    q.isCondensed ∧ (∀ name ∈ g.entity.names, g.dialect.Accepts name) ∧
    ∃ sql ps sql' ps', (g.generate q).1 = .ok sql ∧ lex g.dialect sql = some ps ∧
      literals ps = ["x') OR 1=1 --", noAttachmentsPattern, "'"] ∧
      (g.generate q').1 = .ok sql' ∧ lex g.dialect sql' = some ps' ∧
      ps'.map Piece.blank = ps.map Piece.blank := by
  intro g q q'
  have hnames : ∀ name ∈ g.entity.names, g.dialect.Accepts name := by decide
  obtain ⟨sql, ps, hsql, hlex, hliterals, hother⟩ := generate_literals g (q := q) rfl hnames
  obtain ⟨sql', ps', hsql', hlex', hblank⟩ := hother q' rfl
  exact ⟨rfl, hnames, sql, ps, sql', ps', hsql, hlex, hliterals, hsql', hlex', hblank⟩

end Generator

end MailSearch
