import MailSearch.Sql.Dialect

/-!
# SQL predicates

The fragment of SQL that searches are compiled to: comparisons of columns, lookups in the full-text
index and constants, joined by `AND`, `OR` and `AND NOT`. A predicate is a tree;
`Predicate.render` writes it in a dialect, with parentheses around every part.
-/

namespace MailSearch

/-- A column of a table. -/
structure Column where
  table : String
  name : String
deriving DecidableEq, Repr

/-- A column with its table in front. -/
def Column.render (d : Dialect) (c : Column) : String :=
  d.quoteIdentifier c.table ++ "." ++ d.quoteIdentifier c.name

/-- A boolean expression over the columns of a row. -/
inductive Predicate where
  | and (left right : Predicate)
  | or (left right : Predicate)
  /-- `kept`, but not `excluded`. -/
  | butNot (kept excluded : Predicate)
  /-- The column holds this bit. -/
  | equals (column : Column) (bit : Bool)
  /-- The text of the column does not fit the pattern. -/
  | unlike (column : Column) (pattern : String)
  /-- The column is before or after a number of seconds. -/
  | compare (column : Column) (direction : Direction) (bound : Int)
  /-- The row's column is among the rows that a full-text query finds in a search table. -/
  | found (column : Column) (searchTable : String) (query : String)
  /-- True or false for every row. -/
  | constant (truth : Bool)
deriving DecidableEq, Repr

/-- The operator that keeps one side of an instant. -/
def Direction.operator : Direction → String
  | before => "<"
  | after => ">"

/-- The column of a search table that names the row found. -/
def contentIdColumn : String := "content_id"

namespace Predicate

/-- The predicate in a dialect. -/
def render (d : Dialect) : Predicate → String
  | and l r => "(" ++ l.render d ++ " AND " ++ r.render d ++ ")"
  | or l r => "(" ++ l.render d ++ " OR " ++ r.render d ++ ")"
  | butNot l r => "(" ++ l.render d ++ " AND NOT " ++ r.render d ++ ")"
  | equals c bit => "(" ++ c.render d ++ " = " ++ (if bit then "1" else "0") ++ ")"
  | unlike c pattern => "(" ++ c.render d ++ " NOT LIKE " ++ stringLiteral pattern ++ ")"
  | compare c direction bound =>
    "(" ++ c.render d ++ " " ++ direction.operator ++ " " ++ toString bound ++ ")"
  | found c table query =>
    "(" ++ c.render d ++ " IN (SELECT " ++ d.quoteIdentifier contentIdColumn ++ " FROM "
      ++ d.quoteIdentifier table ++ " WHERE " ++ d.quoteIdentifier table ++ " MATCH "
      ++ stringLiteral query ++ "))"
  | constant true => "(1 = 1)"
  | constant false => "(1 = 0)"

end Predicate

end MailSearch
