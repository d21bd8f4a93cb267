/-!
# TOML documents

The values of a TOML document, and the rules by which its lines build up tables. A table remembers
how it came to be, because that decides whether it may still grow: a table can be named by a header
once, but headers may add tables below it; a dotted key may add to a table that dotted keys made,
but not to one that a header made; an inline table is closed as soon as it is written.

Every operation fails (`none`) where the document would say the same thing twice or contradict
itself.
-/

namespace MailSearch.Toml

/-- How a table came to be. -/
inductive Origin where
  /-- A header names it. -/
  | header
  /-- It stands in front of a longer header. -/
  | implied
  /-- Dotted keys made it. -/
  | dotted
  /-- It stands between braces. -/
  | inline
deriving DecidableEq, Repr

/-- A value of a document. Of those that settings have no use for, only the kind is kept. -/
inductive Node where
  | string (value : String)
  | integer (value : Int)
  | float
  | boolean (value : Bool)
  | moment
  | array (items : List Node)
  | table (origin : Origin) (entries : List (String × Node))
  /-- The tables of an array of tables, the first one first. -/
  | tables (rows : List (List (String × Node)))
deriving Repr

/-- The contents of a table, in the order of the document. -/
abbrev Entries := List (String × Node)

namespace Entries

/-- The value of a key. -/
def get? (es : Entries) (key : String) : Option Node :=
  List.lookup key es

/-- The table with a key set, at its old place if it has one. -/
def set (es : Entries) (key : String) (value : Node) : Entries :=
  if (es.get? key).isSome then es.map fun e => if e.1 == key then (key, value) else e
  else es ++ [(key, value)]

/-- Adds a key that is not there yet. -/
def add? (es : Entries) (key : String) (value : Node) : Option Entries :=
  if (es.get? key).isSome then none else some (es.set key value)

/-- Changes the last table of an array of tables. -/
def changeLast? (rows : List Entries) (change : Entries → Option Entries) :
    Option (List Entries) := do
  let last ← rows.getLast?
  let last ← change last
  return rows.dropLast ++ [last]

/-- Adds a value under a dotted key, whose last part is `key`. Tables on the way are made as needed.
The table that receives the value has to be made by dotted keys, unless the key has no dots. -/
def addDotted? (es : Entries) (path : List String) (key : String) (value : Node) :
    Option Entries :=
  match path with
  | [] => es.add? key value
  | part :: path => do
    let node ←
      match es.get? part with
      | none => (addDotted? [] path key value).map (.table .dotted)
      | some (.table .dotted sub) => (addDotted? sub path key value).map (.table .dotted)
      | some (.table .implied sub) =>
        if path.isEmpty then none else (addDotted? sub path key value).map (.table .implied)
      | some (.tables rows) =>
        if path.isEmpty then none
        else (changeLast? rows (addDotted? · path key value)).map .tables
      | some _ => none
    return es.set part node

/-- Changes the table that a header names. Tables on the way are made as needed; an array of tables
on the way means its last table. -/
def change? (es : Entries) (path : List String) (change : Entries → Option Entries) :
    Option Entries :=
  match path with
  | [] => change es
  | part :: path => do
    let node ←
      match es.get? part with
      | none => (change? [] path change).map (.table .implied)
      | some (.table .inline _) => none
      | some (.table origin sub) => (change? sub path change).map (.table origin)
      | some (.tables rows) => (changeLast? rows (change? · path change)).map .tables
      | some _ => none
    return es.set part node

/-- What the header of a table does: it names a new table, or one that longer headers implied. -/
def openTable? (es : Entries) (key : String) : Option Entries :=
  match es.get? key with
  | none => some (es.set key (.table .header []))
  | some (.table .implied sub) => some (es.set key (.table .header sub))
  | some _ => none

/-- What the header of an array of tables does: it adds an empty table to the array. -/
def openRow? (es : Entries) (key : String) : Option Entries :=
  match es.get? key with
  | none => some (es.set key (.tables [[]]))
  | some (.tables rows) => some (es.set key (.tables (rows ++ [[]])))
  | some _ => none

end Entries

end MailSearch.Toml
