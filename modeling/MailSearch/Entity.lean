/-!
# Entities

An entity is what a search is about: a table with an identifier column, two marker columns, a column
of serialised data and a timestamp column. Its full-text index is a table named after it.
-/

namespace MailSearch

/-- A searchable table. -/
structure Entity where
  name : String
  idColumn : String
  unreadColumn : String
  starredColumn : String
  dataColumn : String
  timestampColumn : String
deriving DecidableEq, Repr

/-- The entity of a name, with the usual columns. -/
def Entity.named (name : String) : Entity where
  name := name
  idColumn := "id"
  unreadColumn := "unread"
  starredColumn := "starred"
  dataColumn := "data"
  timestampColumn := if name == "Message" then "date" else "lastMessageReceivedTimestamp"

/-- The table of the full-text index. -/
def Entity.searchTable (e : Entity) : String :=
  e.name ++ "Search"

/-- Columns that replace the usual ones. -/
structure ColumnOverrides where
  idColumn : Option String := none
  unreadColumn : Option String := none
  starredColumn : Option String := none
  dataColumn : Option String := none
  timestampColumn : Option String := none
deriving DecidableEq, Repr

/-- The entity with some of its columns replaced. -/
def Entity.override (e : Entity) (o : ColumnOverrides) : Entity where
  name := e.name
  idColumn := o.idColumn.getD e.idColumn
  unreadColumn := o.unreadColumn.getD e.unreadColumn
  starredColumn := o.starredColumn.getD e.starredColumn
  dataColumn := o.dataColumn.getD e.dataColumn
  timestampColumn := o.timestampColumn.getD e.timestampColumn

end MailSearch
