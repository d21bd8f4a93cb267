import MailSearch.Text.Blank

/-!
# Tokens

A search text is made of barewords, texts between double quotes, and the three delimiters `(`, `)`
and `:`. A token keeps its text and whether it stood between quotes, for a quoted word is never a
keyword: `"or"` searches for the word *or*. Keywords are recognised in any case.
-/

namespace MailSearch

/-- The smallest unit of a search text. A delimiter is an unquoted token of one character. -/
structure Token where
  /-- The text without the quotes. -/
  text : String
  /-- Whether the text stood between double quotes. -/
  quoted : Bool
deriving DecidableEq, Repr

namespace Token

/-- A token that stands without quotes. -/
def bare (text : String) : Token :=
  ⟨text, false⟩

/-- A token that stood between quotes. -/
def quote (text : String) : Token :=
  ⟨text, true⟩

/-- The token as it is written in a search. -/
def display (t : Token) : String :=
  if t.quoted then "\"" ++ t.text ++ "\"" else t.text

/-- An unquoted token that spells `word`, in any case. -/
def isKeyword (t : Token) (word : String) : Bool :=
  !t.quoted && Text.sameWord t.text word

/-- The words that have a meaning of their own in a search. -/
def reservedWords : List String :=
  ["and", "or", "not", "is", "in", "has", "to", "from", "subject", "before", "since", "after",
    "read", "unread", "starred", "attachment"]

/-- An unquoted reserved word, in any case. -/
def isReserved (t : Token) : Bool :=
  reservedWords.any t.isKeyword

/-- One of the unquoted tokens `(`, `)` and `:`. -/
def isDelimiter (t : Token) : Bool :=
  !t.quoted && (t.text == "(" || t.text == ")" || t.text == ":")

/-- An unquoted `AND`, `OR` or `NOT`, in any case. -/
def isOperator (t : Token) : Bool :=
  t.isKeyword "and" || t.isKeyword "or" || t.isKeyword "not"

end Token

/-- A token and the byte offset at which it starts in the text. -/
structure Lexeme where
  /-- The number of bytes before the token. -/
  position : Nat
  /-- The token itself. -/
  token : Token
deriving DecidableEq, Repr

end MailSearch
