/-!
# Options of the parser

Two limits, on open parentheses and on search terms, and what to do with a value that a qualifier
does not know.
-/

namespace MailSearch

/-- What becomes of `is:` or `has:` with a value that is not known. -/
inductive UnknownValue where
  /-- It is an error. -/
  | reject
  /-- The clause is searched for as a word. -/
  | literal
deriving DecidableEq, Repr

/-- The word for it in settings. -/
def UnknownValue.word : UnknownValue → String
  | reject => "reject"
  | literal => "literal"

/-- How a search is parsed. -/
structure ParseOptions where
  /-- The most parentheses that may be open at a time. -/
  maxDepth : Nat := 64
  /-- The most search terms; it also bounds the height of the tree. -/
  maxTerms : Nat := 512
  /-- What becomes of a value that is not known. -/
  unknownValue : UnknownValue := .reject
deriving DecidableEq, Repr

end MailSearch
