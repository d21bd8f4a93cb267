import MailSearch.Query.Options
import MailSearch.Token.Lexer

/-!
# Search terms

A search term is a word, a quoted text, or a qualifier with a colon and a value. Which words are
qualifiers and which values `is:` and `has:` know stands in three tables. The value of a qualifier
may be any token but a delimiter: `from:or` asks for the sender *or*. Values of `is:` and `has:` are
compared in any case, with or without quotes.

`clause` reads one term whose first lexeme is already taken. It is the only place where the option
for unknown values is looked at.
-/

namespace MailSearch

/-- What a qualifier asks about. -/
inductive Qualifier where
  /-- A field of the index. -/
  | field (field : Field)
  /-- When the message was received. -/
  | date (direction : Direction)
  /-- A marker of the message. -/
  | state
  /-- Something the message has. -/
  | possession
deriving DecidableEq, Repr

namespace Qualifier

/-- The words that are qualifiers. -/
def table : List (String × Qualifier) :=
  [("to", .field .recipient), ("from", .field .sender), ("subject", .field .subject),
    ("is", .state), ("has", .possession), ("since", .date .after), ("after", .date .after),
    ("before", .date .before), ("in", .field .category)]

/-- The values of `is:`. -/
def states : List (String × Query) :=
  [("read", .flag .unread false), ("unread", .flag .unread true), ("starred", .flag .starred true),
    ("unstarred", .flag .starred false)]

/-- The values of `has:`. -/
def possessions : List (String × Query) :=
  [("attachment", .attachment), ("attachments", .attachment)]

/-- The qualifier that a token is, in any case but not between quotes. -/
def ofToken? (t : Token) : Option Qualifier :=
  (table.find? fun entry => t.isKeyword entry.1).map Prod.snd

/-- The query of a value in a table, in any case. -/
def choose (values : List (String × Query)) (value : Token) : Option Query :=
  (values.find? fun entry => Text.sameWord value.text entry.1).map Prod.snd

/-- The term that a qualifier with an unknown value stands for. -/
def unknown (o : ParseOptions) (name : Token) (value : Lexeme) (known : List String) :
    Except Error Query :=
  match o.unknownValue with
  | .reject => .error (.parse value.position (.unknownValue name value.token known))
  | .literal => .ok (.text .anywhere (.bare (name.display ++ ":" ++ value.token.text)))

/-- The term of a qualifier, written as `name`, and its value. -/
def term (o : ParseOptions) (name : Token) (value : Lexeme) : Qualifier → Except Error Query
  | field f => .ok (.text f value.token)
  | date d => .ok (.date value.token d)
  | state =>
    match choose states value.token with
    | some q => .ok q
    | none => unknown o name value ["read", "unread", "starred", "unstarred"]
  | possession =>
    match choose possessions value.token with
    | some q => .ok q
    | none => unknown o name value ["attachment"]

end Qualifier

namespace Ending

/-- What is wrong if a text ends where something must follow: an open quote is at fault before
anything else. -/
def error (e : Ending) (fault : Fault) : Error :=
  match e with
  | proper offset => .parse offset fault
  | openQuote position fragment => .lex position fragment

/-- A text may end here, unless it ends in an open quote. -/
def check (e : Ending) : Except Error Unit :=
  match e with
  | proper _ => .ok ()
  | openQuote position fragment => .error (.lex position fragment)

end Ending

/-- The lexemes after the colon that must follow a qualifier. -/
def expectColon (e : Ending) (name : Token) : List Lexeme → Except Error (List Lexeme)
  | [] => .error (e.error (.missingColon name none))
  | l :: rest =>
    if l.token.isKeyword ":" then .ok rest
    else .error (.parse l.position (.missingColon name (some l.token)))

/-- The value that must follow a qualifier and its colon, and the lexemes after it. -/
def expectValue (e : Ending) (name : Token) : List Lexeme → Except Error (Lexeme × List Lexeme)
  | [] => .error (e.error (.missingValue name none))
  | l :: rest =>
    if l.token.isDelimiter then .error (.parse l.position (.missingValue name (some l.token)))
    else .ok (l, rest)

/-- Reads the term that begins with the token `first`, and gives the lexemes after it. -/
def clause (o : ParseOptions) (e : Ending) (first : Token) (rest : List Lexeme) :
    Except Error (Query × List Lexeme) :=
  match Qualifier.ofToken? first with
  | none => .ok (.text .anywhere first, rest)
  | some q => do
    let afterColon ← expectColon e first rest
    let (value, afterValue) ← expectValue e first afterColon
    let term ← q.term o first value
    return (term, afterValue)

/-- What is left after a colon is no longer than what was there. -/
theorem expectColon_length_le {e : Ending} {name : Token} {ts rest : List Lexeme}
    (h : expectColon e name ts = .ok rest) : rest.length ≤ ts.length := by
  unfold expectColon at h
  split at h
  · simp at h
  · split at h
    · cases h; simp
    · simp at h

/-- What is left after a value is no longer than what was there. -/
theorem expectValue_length_le {e : Ending} {name : Token} {ts rest : List Lexeme} {v : Lexeme}
    (h : expectValue e name ts = .ok (v, rest)) : rest.length ≤ ts.length := by
  unfold expectValue at h
  split at h
  · simp at h
  · split at h
    · simp at h
    · cases h; simp

/-- A term takes its lexemes from the front. -/
theorem clause_length_le {o : ParseOptions} {e : Ending} {first : Token} {ts rest : List Lexeme}
    {q : Query} (h : clause o e first ts = .ok (q, rest)) : rest.length ≤ ts.length := by
  unfold clause at h
  split at h
  · cases h; exact Nat.le_refl _
  · simp only [bind, Except.bind] at h
    split at h
    · simp at h
    · next afterColon hc =>
      split at h
      · simp at h
      · next vr hv =>
        split at h
        · simp at h
        · cases h
          exact Nat.le_trans (expectValue_length_le hv) (expectColon_length_le hc)

end MailSearch
