import MailSearch.Sql.Predicate

/-!
# Reading SQL back

A lexer for the SQL that predicates are written in, character by character: string literals between
apostrophes, and in the dialects that quote them identifiers between backquotes or double quotes. In
both a quote is written twice to stand for itself. `Sql.lex` fails on a text that ends within
quotes.

`Predicate.reads_render`: a written predicate is read back as its pieces (`Predicate.pieces`),
whatever its names and literals hold. The plain dialect writes names as they are, and there they
must not hold an apostrophe (`Dialect.Accepts`).
-/

namespace MailSearch

/-- The characters that open a quoted text in a dialect. -/
def Dialect.isQuote (d : Dialect) (c : Char) : Bool :=
  c == '\x27' || (match d with
    | plain => false
    | sqlite => c == '\x60'
    | ansi => c == '"')

namespace Sql

/-! ## The lexer -/

/-- What a SQL text is made of. -/
inductive Piece where
  /-- A character outside of quotes. -/
  | code (c : Char)
  /-- A quoted identifier, decoded. -/
  | identifier (name : String)
  /-- A string literal, decoded. -/
  | literal (value : String)
deriving DecidableEq, Repr

/-- The piece between two quotes `q`. -/
def Piece.quoted (q : Char) (content : List Char) : Piece :=
  if q = '\x27' then .literal (String.ofList content) else .identifier (String.ofList content)

/-- Where the lexer is. -/
inductive Place where
  | outside
  /-- After an opening quote and some text. -/
  | within (q : Char) (content : List Char)
  /-- After a quote that ends the text, unless the next character is the same quote. -/
  | closed (q : Char) (content : List Char)
deriving DecidableEq, Repr

/-- The pieces read so far, and the place. -/
structure State where
  pieces : List Piece
  place : Place
deriving DecidableEq, Repr

/-- Reads a character outside of quotes. -/
def enter (d : Dialect) (pieces : List Piece) (c : Char) : State :=
  if d.isQuote c then ⟨pieces, .within c []⟩ else ⟨pieces ++ [.code c], .outside⟩

/-- Reads a character. -/
def step (d : Dialect) (s : State) (c : Char) : State :=
  match s.place with
  | .outside => enter d s.pieces c
  | .within q cs => ⟨s.pieces, if c = q then .closed q cs else .within q (cs ++ [c])⟩
  | .closed q cs =>
    if c = q then ⟨s.pieces, .within q (cs ++ [c])⟩ else enter d (s.pieces ++ [.quoted q cs]) c

/-- Reads a text from a place. -/
def run (d : Dialect) (s : State) (cs : List Char) : State :=
  cs.foldl (step d) s

/-- The pieces of a text, if it does not end within quotes. -/
def State.finish (s : State) : Option (List Piece) :=
  match s.place with
  | .outside => some s.pieces
  | .within .. => none
  | .closed q cs => some (s.pieces ++ [.quoted q cs])

/-- The pieces of a SQL text. -/
def lex (d : Dialect) (sql : String) : Option (List Piece) :=
  (run d ⟨[], .outside⟩ sql.toList).finish

/-! ## Pieces of text, one after the other -/

/-- The text `cs` is read from outside of quotes to outside of quotes, as the pieces `ps`. -/
def Reads (d : Dialect) (cs : List Char) (ps : List Piece) : Prop :=
  ∀ done, run d ⟨done, .outside⟩ cs = ⟨done ++ ps, .outside⟩

variable {d : Dialect} {cs ds : List Char} {ps qs : List Piece}

/-- Two texts in a row are read one after the other. -/
theorem run_append (s : State) (cs ds : List Char) : run d s (cs ++ ds) = run d (run d s cs) ds :=
  List.foldl_append

theorem run_cons (s : State) (c : Char) (cs : List Char) :
    run d s (c :: cs) = run d (step d s c) cs := rfl

/-- One text after the other. -/
theorem Reads.append (h : Reads d cs ps) (h' : Reads d ds qs) : Reads d (cs ++ ds) (ps ++ qs) := by
  intro done
  rw [run_append, h, h', List.append_assoc]

/-- A text that is read to its end. -/
theorem Reads.lex {sql : String} (h : Reads d sql.toList ps) : lex d sql = some ps := by
  rw [Sql.lex, h]
  rfl

/-- A text without quotes. -/
def IsCode (d : Dialect) (cs : List Char) : Prop :=
  ∀ c ∈ cs, d.isQuote c = false

/-- A text without quotes is read as code, character by character. -/
theorem Reads.code (h : IsCode d cs) : Reads d cs (cs.map .code) := by
  intro done
  induction cs generalizing done with
  | nil => rw [List.map_nil, List.append_nil]; rfl
  | cons c cs ih =>
    have hstep : step d ⟨done, .outside⟩ c = ⟨done ++ [.code c], .outside⟩ := by
      simp [step, enter, h c (.head _)]
    rw [run_cons, hstep, ih fun c hc => h c (.tail _ hc), List.append_assoc]
    rfl

/-! ## Quoted texts -/

/-- Within quotes, a doubled quote is read as one and does not end the text. -/
theorem run_doubled (q : Char) (done : List Piece) (content cs : List Char) :
    run d ⟨done, .within q content⟩ (Text.doubled q cs) = ⟨done, .within q (content ++ cs)⟩ := by
  induction cs generalizing content with
  | nil => rw [List.append_nil]; rfl
  | cons c cs ih =>
    -- One character of the content is written as one or two, and read back by as many steps.
    have hchar : run d ⟨done, .within q content⟩ (if c == q then [q, q] else [c]) =
        ⟨done, .within q (content ++ [c])⟩ := by
      by_cases hc : c = q
      · simp [hc, run, step]
      · simp [hc, run, step]
    rw [Text.doubled, List.flatMap_cons, run_append, hchar]
    exact (ih _).trans (by rw [List.append_assoc]; rfl)

/-- An enclosed text is read up to its last quote. -/
theorem run_enclosed {q : Char} (hq : d.isQuote q) (done : List Piece) (s : String) :
    run d ⟨done, .outside⟩ (Text.enclosed q s).toList = ⟨done, .closed q s.toList⟩ := by
  have hopen : step d ⟨done, .outside⟩ q = ⟨done, .within q []⟩ := by simp [step, enter, hq]
  have hclose : step d ⟨done, .within q s.toList⟩ q = ⟨done, .closed q s.toList⟩ := by simp [step]
  rw [Text.enclosed, String.toList_ofList, List.cons_append, run_cons, hopen, run_append,
    run_doubled, List.nil_append, run_cons, hclose]
  rfl

/-- An enclosed text, whatever it holds, and code after it. -/
theorem Reads.enclosed {q : Char} (hq : d.isQuote q) (s : String) (hne : cs ≠ [])
    (hcs : IsCode d cs) :
    Reads d ((Text.enclosed q s).toList ++ cs) (.quoted q s.toList :: cs.map .code) := by
  intro done
  cases cs with
  | nil => exact absurd rfl hne
  | cons c cs =>
    have hc : c ≠ q := by
      rintro rfl
      rw [hcs c (.head _)] at hq
      cases hq
    -- The character after the quote is read as it would be outside.
    have hstep : step d ⟨done, .closed q s.toList⟩ c =
        step d ⟨done ++ [.quoted q s.toList], .outside⟩ c := by simp [step, hc]
    rw [run_append, run_enclosed hq, run_cons, hstep, ← run_cons, Reads.code hcs, List.append_assoc]
    rfl

end Sql

/-! ## Names, literals and the code between them -/

/-- A text that is not empty and holds none of the quotes of any dialect. -/
def Sql.Unquoted (code : String) : Prop :=
  code.toList ≠ [] ∧ ∀ c ∈ code.toList, c ≠ '\x27' ∧ c ≠ '\x60' ∧ c ≠ '"'

instance (code : String) : Decidable (Sql.Unquoted code) :=
  decidable_of_iff (code.toList ≠ [] ∧
    code.toList.all fun c => c != '\x27' && c != '\x60' && c != '"')
    (by simp [Sql.Unquoted, and_assoc])

/-- A name that is read back in a dialect. Where names are quoted that is every name. -/
def Dialect.Accepts (d : Dialect) (name : String) : Prop :=
  d = .plain → '\x27' ∉ name.toList

instance (d : Dialect) (name : String) : Decidable (d.Accepts name) :=
  inferInstanceAs (Decidable (_ → _))

open Sql

/-- The pieces of a name. -/
def Dialect.namePieces (d : Dialect) (name : String) : List Piece :=
  match d with
  | plain => name.toList.map .code
  | sqlite | ansi => [.identifier name]

/-- The pieces of a text without quotes. -/
def Sql.codePieces (code : String) : List Piece :=
  code.toList.map .code

namespace Sql

variable {d : Dialect} {code : String}

/-- What has no quote of any dialect has none of this one. -/
theorem Unquoted.isCode (h : Unquoted code) : IsCode d code.toList := by
  intro c hc
  obtain ⟨hapostrophe, hbackquote, hdouble⟩ := h.2 c hc
  cases d <;> simp [Dialect.isQuote, hapostrophe, hbackquote, hdouble]

/-- The fixed words of a predicate are read as code. -/
theorem Reads.unquoted (h : Unquoted code) : Reads d code.toList (codePieces code) :=
  Reads.code h.isCode

/-- A name, and code after it. -/
theorem Reads.name {name : String} (hname : d.Accepts name) (hcode : Unquoted code) :
    Reads d (d.quoteIdentifier name ++ code).toList (d.namePieces name ++ codePieces code) := by
  rw [String.toList_append]
  cases d with
  | plain =>
    have hquote : IsCode .plain name.toList := by
      intro c hc
      have : c ≠ '\x27' := by
        rintro rfl
        exact hname rfl hc
      simp [Dialect.isQuote, this]
    exact (Reads.code hquote).append (Reads.unquoted hcode)
  | sqlite =>
    have hread := Reads.enclosed (d := .sqlite) (q := '\x60') rfl name hcode.1 hcode.isCode
    rwa [Piece.quoted, if_neg (by decide), String.ofList_toList] at hread
  | ansi =>
    have hread := Reads.enclosed (d := .ansi) (q := '"') rfl name hcode.1 hcode.isCode
    rwa [Piece.quoted, if_neg (by decide), String.ofList_toList] at hread

/-- A literal, and code after it. -/
theorem Reads.literal (value : String) (hcode : Unquoted code) :
    Reads d (stringLiteral value ++ code).toList (.literal value :: codePieces code) := by
  rw [String.toList_append]
  have hread := Reads.enclosed (d := d) (q := '\x27') rfl value hcode.1 hcode.isCode
  rwa [Piece.quoted, if_pos rfl, String.ofList_toList] at hread

/-- A digit is no quote. -/
theorem unquoted_repr (n : Nat) : Unquoted n.repr := by
  refine ⟨by simp, fun c hc => ?_⟩
  have hdigit : c.isDigit := by
    rw [Nat.toList_repr] at hc
    exact Nat.isDigit_of_mem_toDigits (by decide) (by decide) hc
  refine ⟨?_, ?_, ?_⟩ <;>
  · rintro rfl
    cases hdigit

/-- A number is written with digits and perhaps a sign. -/
theorem unquoted_toString (n : Int) : Unquoted (toString n) := by
  rw [Int.toString_eq_repr, Int.repr_eq_if]
  split
  · exact unquoted_repr _
  · refine ⟨by simp, fun c hc => ?_⟩
    rw [String.toList_append] at hc
    rcases List.mem_append.1 hc with hc | hc
    · exact (show Unquoted "-" by decide).2 c hc
    · exact (unquoted_repr _).2 c hc

end Sql

/-! ## Predicates -/

/-- The names in a column. -/
def Column.names (c : Column) : List String :=
  [c.table, c.name]

/-- The pieces of a column. -/
def Column.pieces (d : Dialect) (c : Column) : List Piece :=
  d.namePieces c.table ++ codePieces "." ++ d.namePieces c.name

namespace Predicate

/-- The names of tables and columns in a predicate. -/
def names : Predicate → List String
  | and l r | or l r | butNot l r => l.names ++ r.names
  | equals c _ | unlike c _ | compare c _ _ => c.names
  | found c table _ => table :: c.names
  | constant _ => []

/-- The pieces of a predicate. -/
def pieces (d : Dialect) : Predicate → List Piece
  | and l r => codePieces "(" ++ l.pieces d ++ codePieces " AND " ++ r.pieces d ++ codePieces ")"
  | or l r => codePieces "(" ++ l.pieces d ++ codePieces " OR " ++ r.pieces d ++ codePieces ")"
  | butNot l r =>
    codePieces "(" ++ l.pieces d ++ codePieces " AND NOT " ++ r.pieces d ++ codePieces ")"
  | equals c bit =>
    codePieces "(" ++ c.pieces d ++ codePieces " = " ++ codePieces (if bit then "1" else "0") ++
      codePieces ")"
  | unlike c pattern =>
    codePieces "(" ++ c.pieces d ++ codePieces " NOT LIKE " ++ .literal pattern :: codePieces ")"
  | compare c direction bound =>
    codePieces "(" ++ c.pieces d ++ codePieces " " ++ codePieces direction.operator ++
      codePieces " " ++ codePieces (toString bound) ++ codePieces ")"
  | found c table query =>
    codePieces "(" ++ c.pieces d ++ codePieces " IN (SELECT " ++ d.namePieces contentIdColumn ++
      codePieces " FROM " ++ d.namePieces table ++ codePieces " WHERE " ++ d.namePieces table ++
      codePieces " MATCH " ++ .literal query :: codePieces "))"
  | constant truth => codePieces (if truth then "(1 = 1)" else "(1 = 0)")

end Predicate

/-- A column, and code after it. -/
theorem Sql.Reads.column {d : Dialect} {c : Column} {code : String}
    (hc : ∀ name ∈ c.names, d.Accepts name) (hcode : Unquoted code) :
    Reads d (c.render d ++ code).toList (c.pieces d ++ codePieces code) := by
  have htable := Reads.name (hc c.table (.head _)) (show Unquoted "." by decide)
  have hname := Reads.name (hc c.name (.tail _ (.head _))) hcode
  have hread := htable.append hname
  rw [← String.toList_append, ← List.append_assoc] at hread
  rwa [Column.render, Column.pieces, String.append_assoc]

section
variable {d : Dialect} {ps qs : List Piece} {s t : String}

/-- Two texts between parentheses, with code between them. -/
theorem Sql.Reads.join (hs : Reads d s.toList ps) (ht : Reads d t.toList qs) {code : String}
    (hcode : Unquoted code) :
    Reads d ("(" ++ s ++ code ++ t ++ ")").toList
      (codePieces "(" ++ ps ++ codePieces code ++ qs ++ codePieces ")") := by
  have hopen : Reads d "(".toList (codePieces "(") := Reads.unquoted (by decide)
  have hclose : Reads d ")".toList (codePieces ")") := Reads.unquoted (by decide)
  have hread := (((hopen.append hs).append (Reads.unquoted hcode)).append ht).append hclose
  simp only [← String.toList_append] at hread
  exact hread

end

/-- **A written predicate is read back.** Its literals are those it was written with, and no text in
it is taken for anything else. -/
theorem Predicate.reads_render {d : Dialect} {p : Predicate}
    (hp : ∀ name ∈ p.names, d.Accepts name) : Reads d (p.render d).toList (p.pieces d) := by
  have hopen : Reads d "(".toList (codePieces "(") := Reads.unquoted (by decide)
  have hclose : Reads d ")".toList (codePieces ")") := Reads.unquoted (by decide)
  induction p with
  | and l r ihl ihr | or l r ihl ihr | butNot l r ihl ihr =>
    exact Reads.join (ihl fun name h => hp name (List.mem_append_left _ h))
      (ihr fun name h => hp name (List.mem_append_right _ h)) (by decide)
  | equals c bit =>
    have hcolumn := Reads.column hp (show Unquoted " = " by decide)
    have hbit : Unquoted (if bit then "1" else "0") := by cases bit <;> decide
    have hread := ((hopen.append hcolumn).append (Reads.unquoted hbit)).append hclose
    simpa only [render, pieces, String.toList_append, List.append_assoc] using hread
  | unlike c pattern =>
    have hcolumn := Reads.column hp (show Unquoted " NOT LIKE " by decide)
    have hliteral := Reads.literal (d := d) pattern (show Unquoted ")" by decide)
    have hread := (hopen.append hcolumn).append hliteral
    simpa only [render, pieces, String.toList_append, List.append_assoc] using hread
  | compare c direction bound =>
    have hcolumn := Reads.column hp (show Unquoted " " by decide)
    have hoperator : Unquoted direction.operator := by cases direction <;> decide
    have hread := ((((hopen.append hcolumn).append (Reads.unquoted hoperator)).append
      (Reads.unquoted (show Unquoted " " by decide))).append
      (Reads.unquoted (unquoted_toString bound))).append hclose
    simpa only [render, pieces, String.toList_append, List.append_assoc] using hread
  | found c table query =>
    have htable := hp table (.head _)
    have hcolumn := Reads.column (fun name h => hp name (.tail _ h))
      (show Unquoted " IN (SELECT " by decide)
    have hid : d.Accepts contentIdColumn := fun _ => by decide
    have hselect := Reads.name hid (show Unquoted " FROM " by decide)
    have hfrom := Reads.name htable (show Unquoted " WHERE " by decide)
    have hwhere := Reads.name htable (show Unquoted " MATCH " by decide)
    have hmatch := Reads.literal (d := d) query (show Unquoted "))" by decide)
    have hread :=
      ((((hopen.append hcolumn).append hselect).append hfrom).append hwhere).append hmatch
    simpa only [render, pieces, String.toList_append, List.append_assoc] using hread
  | constant truth =>
    cases truth with
    | true => exact Reads.unquoted (show Unquoted "(1 = 1)" by decide)
    | false => exact Reads.unquoted (show Unquoted "(1 = 0)" by decide)

end MailSearch
