import MailSearch.Entity
import MailSearch.Query.Options
import MailSearch.Sql.Dialect
import MailSearch.Toml.Document

/-!
# Settings

Settings are read from a TOML document:

    default_entity = "Thread"
    dialect = "sqlite"
    max_depth = 32
    max_clauses = 256
    unknown_qualifier = "literal"

    [entities.Message]
    timestamp_column = "date"

Every key may be left out, and an unknown key is ignored, but an entity has no keys beside its
columns. A document of the right shape can still be refused: the default entity needs a name, and
both limits have to be at least 1.
-/

namespace MailSearch

/-- The settings of the compiler. -/
structure Config where
  defaultEntity : String := "Thread"
  dialect : Dialect := .plain
  maxDepth : Nat := 64
  maxClauses : Nat := 512
  unknownValue : UnknownValue := .reject
  /-- The entities whose columns are not the usual ones. -/
  entities : List (String × ColumnOverrides) := []
deriving DecidableEq, Repr

namespace Toml.Node

/-- The text of a string. -/
def text? : Node → Option String
  | string s => some s
  | _ => none

/-- An integer that is not negative. -/
def count? : Node → Option Nat
  | integer (.ofNat n) => some n
  | _ => none

/-- The name of a choice: a string, or a table whose only key names it and holds nothing. -/
def choice? : Node → Option String
  | string s => some s
  | table _ [(name, array [])] | table _ [(name, table _ [])] | table _ [(name, tables [])] =>
    some name
  | _ => none

end Toml.Node

namespace ColumnOverrides

/-- The keys of an entity, in the order in which a list gives their values. -/
def keys : List String :=
  ["id_column", "unread_column", "starred_column", "data_column", "timestamp_column"]

/-- Columns by key. A key that is there has to hold a text. -/
def ofLookup? (column? : String → Option Toml.Node) : Option ColumnOverrides := do
  let read? (key : String) : Option (Option String) :=
    match column? key with
    | none => some none
    | some node => node.text?.map some
  return {
    idColumn := ← read? "id_column"
    unreadColumn := ← read? "unread_column"
    starredColumn := ← read? "starred_column"
    dataColumn := ← read? "data_column"
    timestampColumn := ← read? "timestamp_column" }

/-- The columns of an entity: a table with known keys only, or a list of the first few columns. -/
def ofNode? : Toml.Node → Option ColumnOverrides
  | .table _ entries =>
    if entries.all fun e => keys.contains e.1 then ofLookup? (List.lookup · entries) else none
  | .array items => ofLookup? (List.lookup · (keys.zip items))
  | _ => none

end ColumnOverrides

namespace Config

/-- The choice that a name stands for. -/
def unknownValue? (name : String) : Option UnknownValue :=
  [UnknownValue.reject, .literal].find? fun u => u.word == name

/-- The entities of a document. -/
def entities? : Toml.Node → Option (List (String × ColumnOverrides))
  | .table _ entries =>
    entries.mapM fun (name, node) => (ColumnOverrides.ofNode? node).map (name, ·)
  | _ => none

/-- The settings that a document describes. -/
def ofEntries? (root : Toml.Entries) : Option Config := do
  let read? {α : Type} (key : String) (usual : α) (decode? : Toml.Node → Option α) : Option α :=
    match List.lookup key root with
    | none => some usual
    | some node => decode? node
  let usual : Config := {}
  return {
    defaultEntity := ← read? "default_entity" usual.defaultEntity (·.text?)
    dialect := ← read? "dialect" usual.dialect (·.choice?.bind Dialect.ofName?)
    maxDepth := ← read? "max_depth" usual.maxDepth (·.count?)
    maxClauses := ← read? "max_clauses" usual.maxClauses (·.count?)
    unknownValue := ← read? "unknown_qualifier" usual.unknownValue (·.choice?.bind unknownValue?)
    entities := ← read? "entities" usual.entities entities? }

/-- Reads settings and checks them. -/
def check (content : String) : Except ConfigFault Config :=
  match (Toml.document? content).bind ofEntries? with
  | none => .error .unreadable
  | some config =>
    if (Text.trim config.defaultEntity.toList).isEmpty then .error .emptyEntity
    else if config.maxDepth = 0 then .error .zeroDepth
    else if config.maxClauses = 0 then .error .zeroClauses
    else .ok config

/-- Settings from a text. -/
def ofToml (content : String) : Except Error Config :=
  (check content).mapError (.config none)

/-- Settings from a file. `content` is what the file holds, or the reason why it cannot be read. -/
def ofFile (file : String) (content : Except FileFault String) : Except Error Config :=
  match content with
  | .error fault => .error (.io fault)
  | .ok content => (check content).mapError (.config (some file))

/-- An entity with the columns that the settings give it. -/
def entity (c : Config) (name : String) : Entity :=
  match List.lookup name c.entities with
  | some overrides => (Entity.named name).override overrides
  | none => Entity.named name

/-- The options of the parser. -/
def parseOptions (c : Config) : ParseOptions :=
  ⟨c.maxDepth, c.maxClauses, c.unknownValue⟩

end Config

end MailSearch
