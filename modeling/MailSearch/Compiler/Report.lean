import MailSearch.Compiler
import MailSearch.Text.Json

/-!
# Trees and explanations as JSON

A node of a tree is an object with one field, named after the kind of the node; a node without
contents is its name.
-/

namespace MailSearch

/-- A token as JSON. -/
def Token.toJson (t : Token) : Json :=
  .object [("text", .string t.text), ("quoted", .bool t.quoted)]

/-- A lexeme as JSON. -/
def Lexeme.toJson (l : Lexeme) : Json :=
  .object [("position", .number l.position), ("token", l.token.toJson)]

/-- The name of the node that asks for a field. -/
def Field.nodeName : Field → String
  | sender => "From"
  | recipient => "To"
  | subject => "Subject"
  | category => "In"
  | anywhere => "Generic"
  | verbatim => "Text"

/-- The name of the node that asks for a marker. -/
def Flag.nodeName : Flag → String
  | unread => "Unread"
  | starred => "Starred"

/-- A tree as JSON. -/
def Query.toJson : Query → Json
  | and l r => .object [("And", .array [l.toJson, r.toJson])]
  | or l r => .object [("Or", .array [l.toJson, r.toJson])]
  | butNot l r => .object [("Not", .array [l.toJson, r.toJson])]
  | text f w => .object [(f.nodeName, w.toJson)]
  | flag f status => .object [(f.nodeName, .bool status)]
  | attachment => .string "HasAttachment"
  | date p d => .object [("Date", .array [p.toJson, .string d.word])]
  | fullText raw => .object [("Match", .string raw)]

/-- All stages of a search as JSON. -/
def Explanation.toJson (e : Explanation) : Json :=
  .object [("query", .string e.query), ("entity", .string e.entity),
    ("dialect", .string e.dialect.name), ("ast", e.parsed.toJson),
    ("condensed", e.condensed.toJson), ("sql", .string e.sql)]

/-- The outcome of a search as JSON. -/
def Explanation.summary (e : Explanation) : Json :=
  .object [("entity", .string e.entity), ("query", .string e.query), ("sql", .string e.sql)]

end MailSearch
