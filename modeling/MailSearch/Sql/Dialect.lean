import MailSearch.Error
import MailSearch.Text.Quoted

/-!
# Dialects of SQL

The dialects differ in how an identifier is quoted: not at all, between backquotes, or between
double quotes. A string literal stands between apostrophes in all of them.
-/

namespace MailSearch

/-- How identifiers are quoted. -/
inductive Dialect where
  | plain
  | sqlite
  | ansi
deriving DecidableEq, Repr

namespace Dialect

/-- The name of a dialect. -/
def name : Dialect → String
  | plain => "plain"
  | sqlite => "sqlite"
  | ansi => "ansi"

/-- The dialect of exactly this name. -/
def ofName? (name : String) : Option Dialect :=
  [plain, sqlite, ansi].find? fun d => d.name == name

/-- The dialect of a name in any case. -/
def parse (name : String) : Except Error Dialect :=
  let lowered := String.ofList (Text.lower name.toList)
  match ofName? lowered with
  | some d => .ok d
  | none => .error (.config none (.unknownDialect lowered))

/-- An identifier. The plain dialect writes it as it is. -/
def quoteIdentifier (d : Dialect) (name : String) : String :=
  match d with
  | plain => name
  | sqlite => Text.enclosed '\x60' name
  | ansi => Text.enclosed '"' name

end Dialect

/-- A string literal, the same in every dialect. -/
def stringLiteral (value : String) : String :=
  Text.enclosed '\x27' value

end MailSearch
