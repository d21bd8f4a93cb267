import MailSearch.Compiler.Report

/-!
# What the command line prints

The texts and tables, each as one string. Columns of a table are padded by characters.
-/

namespace MailSearch.CommandLine

/-- Lines, each with a line feed. -/
def unlines (lines : List String) : String :=
  String.join (lines.map (· ++ "\n"))

/-- A text with blanks behind it, up to a width. -/
def padRight (width : Nat) (s : String) : String :=
  s ++ String.ofList (List.replicate (width - s.length) ' ')

/-- A text with blanks before it, up to a width. -/
def padLeft (width : Nat) (s : String) : String :=
  String.ofList (List.replicate (width - s.length) ' ') ++ s

/-- A line across a table. -/
def rule (width : Nat) : String :=
  String.ofList (List.replicate width '─')

/-- The name and version of the program. -/
def versionText : String :=
  "mailq 0.3.0\n"

/-- What is printed if nothing is asked for. -/
def bannerText : String :=
  unlines ["mailq - mail search query compiler", "", "Usage: mailq <QUERY> [OPTIONS]", "",
    "Try: mailq --help"]

/-- The search clauses, what each matches, and the SQL that it becomes. -/
def clauseTable : List (String × String × String) :=
  [("word", "Any indexed field", "prefix match"),
    ("\"two words\"", "Phrase in any field", "prefix match"),
    ("from:ben", "Sender", "from_ column"),
    ("to:eve", "Recipient", "to_ column"),
    ("subject:lunch", "Subject line", "subject column"),
    ("in:inbox", "Category or label", "categories column"),
    ("is:unread / is:read", "Unread flag", "= 1 / = 0"),
    ("is:starred / is:unstarred", "Starred flag", "= 1 / = 0"),
    ("has:attachment", "Has attachments", "data NOT LIKE"),
    ("before:<date>", "Received before", "timestamp <"),
    ("after:<date> / since:", "Received after", "timestamp >"),
    ("a b / a AND b", "Both", "AND"),
    ("a OR b", "Either", "OR"),
    ("a NOT b", "a without b", "AND NOT"),
    ("( ... )", "Grouping", "( ... )")]

/-- The reference of the search syntax. -/
def syntaxText : String :=
  let row (clause meaning sql : String) : String :=
    padRight 28 clause ++ " " ++ padRight 22 meaning ++ " " ++ sql
  unlines <|
    ["Search Syntax Reference", "", row "Clause" "Matches" "SQL", rule 70]
      ++ clauseTable.map (fun (clause, meaning, sql) => row clause meaning sql)
      ++ ["", "Dates: today, yesterday, monday, march, 3 days ago, last week, 2024-01-31"]

/-- The kind of a token. -/
def tokenKind (t : Token) : String :=
  if t.quoted then "quoted"
  else if t.isDelimiter then "delim"
  else if t.isReserved then "keyword"
  else "word"

/-- The lexemes of a search as a table. -/
def tokensText (lexemes : List Lexeme) : String :=
  let row (position kind token : String) : String :=
    padLeft 5 position ++ "  " ++ padRight 8 kind ++ " " ++ token
  unlines <|
    [row "Pos" "Kind" "Token", rule 40]
      ++ lexemes.map fun l => row (toString l.position) (tokenKind l.token) l.token.display

/-- All stages of a search. -/
def explanationText (e : Explanation) : String :=
  unlines ["Query Explanation", "", "Query: " ++ e.query,
    "Entity: " ++ e.entity ++ " (" ++ e.dialect.name ++ ")", "", "Parsed:",
    "  " ++ e.parsed.display, "", "Condensed:", "  " ++ e.condensed.display, "", "Generated SQL:",
    "  " ++ e.sql]

/-- A value as JSON, with a line feed. -/
def jsonText (j : Json) : String :=
  j.pretty ++ "\n"

end MailSearch.CommandLine
