import MailSearch.Compiler
import MailSearch.Text.Printable

/-!
# A compiler, described on one line

What a compiler is set up to do, for a person to read: its entity, its dialect and its options, with
the name of every part. The resolver is a function and has no description; two dots stand for it.
Texts are quoted so that every character shows.
-/

namespace MailSearch

namespace Text

/-- A character of a quoted text. One that does not show by itself is written as its number. -/
def shown (c : Char) : List Char :=
  match c with
  | '\x00' => ['\\', '0']
  | '\t' => ['\\', 't']
  | '\n' => ['\\', 'n']
  | '\x0d' => ['\\', 'r']
  | '"' => ['\\', '"']
  | '\\' => ['\\', '\\']
  | c =>
    if isPrintable c then [c]
    else ['\\', 'u', '\x7b'] ++ Nat.toDigits 16 c.toNat ++ ['\x7d']

/-- A quoted text. -/
def described (s : String) : String :=
  "\"" ++ String.ofList (s.toList.flatMap shown) ++ "\""

/-- Named parts between braces. -/
def record (name : String) (fields : List (String × String)) : String :=
  name ++ " \x7b " ++ String.intercalate ", " (fields.map fun f => f.1 ++ ": " ++ f.2) ++ " \x7d"

end Text

/-- The entity with its columns. -/
def Entity.description (e : Entity) : String :=
  Text.record "EntityConfig"
    [("name", Text.described e.name), ("id_column", Text.described e.idColumn),
      ("unread_column", Text.described e.unreadColumn),
      ("starred_column", Text.described e.starredColumn),
      ("data_column", Text.described e.dataColumn),
      ("timestamp_column", Text.described e.timestampColumn)]

/-- The dialect, capitalised. -/
def Dialect.description : Dialect → String
  | plain => "Plain"
  | sqlite => "Sqlite"
  | ansi => "Ansi"

/-- The choice, capitalised. -/
def UnknownValue.description : UnknownValue → String
  | reject => "Reject"
  | literal => "Literal"

/-- The options with their names. -/
def ParseOptions.description (o : ParseOptions) : String :=
  Text.record "ParseOptions"
    [("max_depth", toString o.maxDepth), ("max_clauses", toString o.maxTerms),
      ("unknown_qualifier", o.unknownValue.description)]

/-- The compiler on one line. -/
def Compiler.description (c : Compiler) : String :=
  "SearchCompiler \x7b entity: " ++ c.entity.description ++ ", dialect: " ++ c.dialect.description
    ++ ", options: " ++ c.options.description ++ ", .. \x7d"

end MailSearch
