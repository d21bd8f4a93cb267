import MailSearch.Config
import MailSearch.Query.FullText
import MailSearch.Query.Parser
import MailSearch.Sql.Generator

/-!
# The compiler

A compiler takes a search text to SQL for one entity: it parses the text, condenses the tree and
writes the predicate. It holds no state between searches. `Compiler.explain` keeps the trees of all
stages; `Compiler.compile` keeps only the SQL.
-/

namespace MailSearch

/-- Compiles searches for one entity. -/
structure Compiler where
  entity : Entity
  dialect : Dialect := .plain
  options : ParseOptions := {}
  resolver : DateResolver := .standard

/-- Every stage of a compiled search. -/
structure Explanation where
  query : String
  /-- The name of the entity. -/
  entity : String
  dialect : Dialect
  parsed : Query
  condensed : Query
  sql : String
deriving DecidableEq, Repr

namespace Compiler

/-- The compiler that settings describe, for an entity of theirs or for their default entity. -/
def ofConfig (c : Config) (entity : Option String) : Compiler where
  entity := c.entity (entity.getD c.defaultEntity)
  dialect := c.dialect
  options := c.parseOptions

/-- The tree of a search. -/
def parse (c : Compiler) (text : String) : Except Error Query :=
  Query.parse text c.options

/-- The condensed tree of a search. -/
def condense (c : Compiler) (text : String) : Except Error Query := do
  let parsed ← c.parse text
  parsed.condense

/-- The generator for searches at an instant. -/
def generator (c : Compiler) (now : Instant) : Generator where
  entity := c.entity
  dialect := c.dialect
  resolver := c.resolver
  now := now

/-- All stages of a search, with relative dates counted from `now`. -/
def explain (c : Compiler) (text : String) (now : Instant) : Except Error Explanation := do
  let parsed ← c.parse text
  let condensed ← parsed.condense
  let sql ← ((c.generator now).generate condensed).1
  return ⟨text, c.entity.name, c.dialect, parsed, condensed, sql⟩

/-- The SQL of a search. -/
def compile (c : Compiler) (text : String) (now : Instant) : Except Error String :=
  (c.explain text now).map Explanation.sql

end Compiler

end MailSearch
