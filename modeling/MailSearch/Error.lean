import MailSearch.Query

/-!
# What can go wrong

An error is a cause with the data that explains it, and `Error.message` is the one place that puts
causes into words. A search text can be at fault in three ways: a quote is never closed (`lex`), the
tokens do not fit the grammar (`parse`), or there is nothing to search for (`empty`). The passes
over a tree fail only on a tree that no search produces (`violation`). The rest concerns settings.
-/

namespace MailSearch

/-- Why a sequence of tokens is not a search. -/
inductive Fault where
  /-- A token where none, or another one, must stand. -/
  | unexpected (got : Token)
  /-- An operator where a search term must stand. -/
  | unexpectedOperator (got : Token)
  /-- The text ends where a search term must stand. -/
  | missingTerm
  /-- More search terms than allowed. -/
  | tooManyTerms (limit : Nat)
  /-- More open parentheses than allowed. -/
  | tooDeep (limit : Nat)
  /-- Nothing between two parentheses. -/
  | emptyGroup
  /-- The text ends before a parenthesis is closed. -/
  | unclosedGroup
  /-- Another token where a parenthesis must be closed. -/
  | expectedClose (got : Token)
  /-- No colon after a qualifier; `none` at the end of the text. -/
  | missingColon (qualifier : Token) (got : Option Token)
  /-- No value after a qualifier and its colon; `none` at the end of the text. -/
  | missingValue (qualifier : Token) (got : Option Token)
  /-- A qualifier does not have this value. -/
  | unknownValue (qualifier value : Token) (known : List String)
deriving DecidableEq, Repr

/-- Why a pass over a tree cannot go on. -/
inductive Violation where
  /-- The full-text index has no exclusion. -/
  | exclusionInFullText (node : Query)
  /-- The full-text index cannot answer this leaf. -/
  | notTextual (node : Query)
  /-- A text leaf that was not condensed before SQL was written. -/
  | notCondensed (node : Query)
deriving DecidableEq, Repr

/-- Why settings cannot be used. -/
inductive ConfigFault where
  /-- The text is not a TOML document, or the document does not describe settings. -/
  | unreadable
  /-- The default entity has no name. -/
  | emptyEntity
  /-- No nesting is allowed at all. -/
  | zeroDepth
  /-- No search term is allowed at all. -/
  | zeroClauses
  /-- There is no dialect of this name. -/
  | unknownDialect (name : String)
deriving DecidableEq, Repr

/-- Why a file cannot be read. -/
inductive FileFault where
  /-- There is no such file. -/
  | missing
  /-- Reading it is not allowed. -/
  | denied
  /-- Something on the way to it is a file. -/
  | notDirectory
  /-- It is a directory. -/
  | isDirectory
  /-- A name on the way to it, or the whole path, is too long. -/
  | nameTooLong
  /-- It does not hold text. -/
  | notText
  /-- Any other reason. -/
  | other (reason : String)
deriving DecidableEq, Repr

/-- Everything that can go wrong. -/
inductive Error where
  /-- A quote that is never closed, with the text from the quote on. -/
  | lex (position : Nat) (fragment : String)
  /-- The tokens do not fit the grammar. -/
  | parse (position : Nat) (fault : Fault)
  /-- There is no search term. -/
  | empty
  /-- A pass met a tree it cannot handle. -/
  | violation (violation : Violation)
  /-- Settings cannot be used; `file` is the file they came from. -/
  | config (file : Option String) (fault : ConfigFault)
  /-- A file cannot be read. -/
  | io (fault : FileFault)
deriving DecidableEq, Repr

/-- The fault in words. -/
def Fault.message : Fault → String
  | unexpected got => "unexpected '" ++ got.display ++ "'"
  | unexpectedOperator got =>
    "unexpected operator '" ++ got.display ++ "', expected a search term"
  | missingTerm => "expected a search term but reached end of input"
  | tooManyTerms limit => "query too long, more than " ++ toString limit ++ " search terms"
  | tooDeep limit => "parentheses nested deeper than " ++ toString limit ++ " levels"
  | emptyGroup => "empty parentheses"
  | unclosedGroup => "expected ')' to close '(' but reached end of input"
  | expectedClose got => "expected ')', got '" ++ got.display ++ "'"
  | missingColon q (some got) =>
    "expected ':' after '" ++ q.display ++ "', got '" ++ got.display ++ "'"
  | missingColon q none => "expected ':' after '" ++ q.display ++ "' but reached end of input"
  | missingValue q (some got) =>
    "expected text after '" ++ q.display ++ ":', got '" ++ got.display ++ "'"
  | missingValue q none => "expected text after '" ++ q.display ++ ":' but reached end of input"
  | unknownValue q value known =>
    "unknown value '" ++ value.display ++ "' for '" ++ q.display ++ ":', expected one of: "
      ++ String.intercalate ", " known

/-- The violation in words. -/
def Violation.message : Violation → String
  | exclusionInFullText node =>
    "negation cannot be lowered to a full-text query: " ++ node.display
  | notTextual node => "expected " ++ node.display ++ " to be match compatible"
  | notCondensed node =>
    node.display ++ " should have been condensed into a full-text match"

/-- The fault in words. What exactly is wrong with a document is not spelt out: `<toml>` stands for
it. -/
def ConfigFault.message : ConfigFault → String
  | unreadable => "<toml>"
  | emptyEntity => "default_entity must not be empty"
  | zeroDepth => "max_depth must be at least 1"
  | zeroClauses => "max_clauses must be at least 1"
  | unknownDialect name =>
    "unknown dialect '" ++ name ++ "', expected one of: plain, sqlite, ansi"

/-- The fault in words, with the number that the operating system has for it. -/
def FileFault.message : FileFault → String
  | missing => "No such file or directory (os error 2)"
  | denied => "Permission denied (os error 13)"
  | notDirectory => "Not a directory (os error 20)"
  | isDirectory => "Is a directory (os error 21)"
  | nameTooLong => "File name too long (os error 36)"
  | notText => "stream did not contain valid UTF-8"
  | other reason => reason

namespace Error

/-- The error in words. -/
def message : Error → String
  | lex position fragment =>
    "Lex error at position " ++ toString position ++ ": unterminated string '" ++ fragment ++ "'"
  | parse position fault => "Parse error at position " ++ toString position ++ ": " ++ fault.message
  | empty => "Cannot parse empty query"
  | violation v => "Compile invariant violated: " ++ v.message
  | config none fault => "Configuration error: " ++ fault.message
  | config (some file) fault => "Configuration error: " ++ file ++ ": " ++ fault.message
  | io fault => "IO error: " ++ fault.message

/-- The error and what caused it, from the outside in. Only a file error has a cause of its own. -/
def chain : Error → List String
  | io fault => [(io fault).message, fault.message]
  | e => [e.message]

/-- The search text itself is at fault. -/
def isSyntax : Error → Bool
  | lex .. | parse .. | empty => true
  | violation .. | config .. | io .. => false

end Error

end MailSearch
