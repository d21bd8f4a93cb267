import MailSearch.Query.Clause

/-!
# The parser

The grammar, over the lexemes of a text:

    query       := conjunction+
    conjunction := disjunction ( [ "AND" ] [ "NOT" ] conjunction )?
    disjunction := simple ( "OR" disjunction )?
    simple      := "(" query ")" | term

An `OR` joins only simple queries, so `a OR b c` is `(a OR b) AND c`. All chains lean to the right:
`a b c` is `a AND (b AND c)`, and a `NOT` excludes everything to its right.

There is a function for each rule. Each takes lexemes from the front and returns fewer of them
(`Parsed.shorter`), which is why the recursion ends. The number of open parentheses goes down with
the recursion as an argument; the number of terms read so far comes back with the result. The end of
the text is looked at only when the lexemes run out, so whichever fault comes first in the text is
the one reported.
-/

namespace MailSearch

/-- What a rule read from the front of `ts`. -/
structure Parsed (ts : List Lexeme) where
  /-- The tree. -/
  query : Query
  /-- How many terms have been read so far in the whole text. -/
  terms : Nat
  /-- The lexemes that were not read. -/
  rest : List Lexeme
  /-- At least one lexeme was read. -/
  shorter : rest.length < ts.length

/-- How a conjunction goes on. -/
inductive Join where
  | and
  | butNot
deriving DecidableEq, Repr

/-- The tree of two operands. -/
def Join.combine : Join → Query → Query → Query
  | and => .and
  | butNot => .butNot

/-- The join in front of the next operand, and the lexemes of that operand. The word `AND` may be
left out. -/
def joint (ts : List Lexeme) : Join × List Lexeme :=
  let operand :=
    match ts with
    | l :: rest => if l.token.isKeyword "and" then rest else ts
    | [] => []
  match operand with
  | l :: rest => if l.token.isKeyword "not" then (.butNot, rest) else (.and, operand)
  | [] => (.and, [])

/-- What is left after a joint is no longer than what was there. -/
theorem joint_length_le (ts : List Lexeme) : (joint ts).2.length ≤ ts.length := by
  unfold joint
  grind

namespace Parser

mutual

/-- Reads conjunctions up to the end or a closing parenthesis; `none` if there is none to read. -/
def query (o : ParseOptions) (e : Ending) (depth terms : Nat) (ts : List Lexeme) :
    Except Error (Option (Parsed ts)) :=
  match ts with
  | [] => do
    e.check
    return none
  | l :: tail =>
    if l.token.isKeyword ")" then return none
    else do
      let first ← conjunction o e depth terms (l :: tail)
      match ← query o e depth first.terms first.rest with
      | none => return some first
      | some next =>
        return some ⟨.and first.query next.query, next.terms, next.rest,
          Nat.lt_trans next.shorter first.shorter⟩
termination_by 5 * ts.length + 3
decreasing_by
  · omega
  · have := first.shorter
    omega

/-- Reads disjunctions joined by `AND`, `NOT` or nothing. -/
def conjunction (o : ParseOptions) (e : Ending) (depth terms : Nat) (ts : List Lexeme) :
    Except Error (Parsed ts) := do
  let first ← disjunction o e depth terms ts
  match first.rest with
  | [] => return first
  | l :: _ =>
    if l.token.isKeyword "or" || l.token.isKeyword ")" then return first
    else
      let next ← conjunction o e depth first.terms (joint first.rest).2
      return ⟨(joint first.rest).1.combine first.query next.query, next.terms, next.rest,
        Nat.lt_of_lt_of_le next.shorter
          (Nat.le_trans (joint_length_le _) (Nat.le_of_lt first.shorter))⟩
termination_by 5 * ts.length + 2
decreasing_by
  · omega
  · have := first.shorter
    have := joint_length_le first.rest
    omega

/-- Reads simple queries joined by `OR`. -/
def disjunction (o : ParseOptions) (e : Ending) (depth terms : Nat) (ts : List Lexeme) :
    Except Error (Parsed ts) := do
  let first ← simple o e depth terms ts
  match _h : first.rest with
  | [] => do
    e.check
    return first
  | l :: tail =>
    if l.token.isKeyword "or" then
      let next ← disjunction o e depth first.terms tail
      return ⟨.or first.query next.query, next.terms, next.rest, by
        have := next.shorter
        have := first.shorter
        simp only [_h, List.length_cons] at this
        omega⟩
    else return first
termination_by 5 * ts.length + 1
decreasing_by
  · omega
  · have := first.shorter
    simp only [_h, List.length_cons] at this
    omega

/-- Reads a group or a term. -/
def simple (o : ParseOptions) (e : Ending) (depth terms : Nat) (ts : List Lexeme) :
    Except Error (Parsed ts) :=
  match ts with
  | [] => .error (e.error .missingTerm)
  | l :: tail =>
    if l.token.isKeyword "(" then do
      let inner ← group o e depth terms l.position tail
      return ⟨inner.query, inner.terms, inner.rest, Nat.lt_succ_of_lt inner.shorter⟩
    else if l.token.isDelimiter then .error (.parse l.position (.unexpected l.token))
    else if l.token.isOperator then .error (.parse l.position (.unexpectedOperator l.token))
    else if o.maxTerms < terms + 1 then .error (.parse l.position (.tooManyTerms o.maxTerms))
    else
      match h : clause o e l.token tail with
      | .error fault => .error fault
      | .ok (q, rest) => .ok ⟨q, terms + 1, rest, Nat.lt_succ_of_le (clause_length_le h)⟩
termination_by 5 * ts.length
decreasing_by simp only [List.length_cons]; omega

/-- Reads a query and the parenthesis that closes it, after one was opened at `position`. -/
def group (o : ParseOptions) (e : Ending) (depth terms position : Nat) (ts : List Lexeme) :
    Except Error (Parsed ts) :=
  if o.maxDepth ≤ depth then .error (.parse position (.tooDeep o.maxDepth))
  else do
    match ← query o e (depth + 1) terms ts with
    | none => .error (.parse position .emptyGroup)
    | some inner =>
      match h : inner.rest with
      | [] => .error (.parse position .unclosedGroup)
      | l :: tail =>
        if l.token.isKeyword ")" then
          return ⟨inner.query, inner.terms, tail, by
            have := inner.shorter
            simp only [h, List.length_cons] at this
            omega⟩
        else .error (.parse l.position (.expectedClose l.token))
termination_by 5 * ts.length + 4
decreasing_by omega

end

end Parser

/-- Parses a whole scanned text. -/
def Scan.parse (s : Scan) (o : ParseOptions) : Except Error Query := do
  match ← Parser.query o s.ending 0 0 s.lexemes with
  | none =>
    match s.lexemes with
    | [] => .error .empty
    | l :: _ => .error (.parse l.position (.unexpected l.token))
  | some p =>
    match p.rest with
    | [] => return p.query
    | l :: _ => .error (.parse l.position (.unexpected l.token))

/-- Parses a search text. -/
def Query.parse (text : String) (o : ParseOptions) : Except Error Query :=
  (Cursor.start text).scan.parse o

end MailSearch
