import MailSearch.Calendar.Phrase
import MailSearch.Entity
import MailSearch.Sql.Predicate

/-!
# From condensed queries to SQL

A generator writes the predicate of a condensed tree for one entity. A date phrase that cannot be
resolved must not hide any message, so it counts as true; but under an exclusion it has to count as
false, and under an exclusion within an exclusion as true again. The generator therefore carries a
polarity, which `Emission.excluding` flips for the excluded side and flips back afterwards, whether
the side succeeds or fails.

A text leaf is a violation: condensing leaves none.
-/

namespace MailSearch

/-- Whether a part of a tree stands under an even or an odd number of exclusions. -/
inductive Polarity where
  | kept
  | excluded
deriving DecidableEq, Repr

/-- One exclusion more. -/
def Polarity.flip : Polarity → Polarity
  | kept => excluded
  | excluded => kept

/-- The constant that hides no message. -/
def Polarity.permissive : Polarity → Predicate
  | kept => .constant true
  | excluded => .constant false

/-- Work that may fail and knows the polarity of the part it is at. -/
abbrev Emission := ExceptT Error (StateM Polarity)

/-- Works on the excluded side of an exclusion. -/
def Emission.excluding {α : Type} (work : Emission α) : Emission α := do
  modify Polarity.flip
  try
    work
  finally
    modify Polarity.flip

/-- The text that stands in the data of a message without attachments. -/
def noAttachmentsPattern : String :=
  "%\"attachmentCount\":0%"

/-- Writes SQL for one entity. -/
structure Generator where
  entity : Entity
  dialect : Dialect
  resolver : DateResolver
  /-- The instant that relative dates refer to. -/
  now : Instant
  /-- The polarity of the part being written. -/
  polarity : Polarity := .kept

namespace Generator

/-- A column of the entity. -/
def column (g : Generator) (name : String) : Column :=
  ⟨g.entity.name, name⟩

/-- The column of a marker. -/
def flagColumn (g : Generator) : Flag → Column
  | .unread => g.column g.entity.unreadColumn
  | .starred => g.column g.entity.starredColumn

/-- The predicate of a tree. -/
def visit (g : Generator) : Query → Emission Predicate
  | .and l r => do
    let left ← g.visit l
    let right ← g.visit r
    return .and left right
  | .or l r => do
    let left ← g.visit l
    let right ← g.visit r
    return .or left right
  | .butNot l r => do
    let kept ← g.visit l
    let excluded ← Emission.excluding (g.visit r)
    return .butNot kept excluded
  | .text f w => throw (.violation (.notCondensed (.text f w)))
  | .flag f status => return .equals (g.flagColumn f) status
  | .attachment => return .unlike (g.column g.entity.dataColumn) noAttachmentsPattern
  | .date phrase direction =>
    match g.resolver phrase.text g.now with
    | some moment =>
      return .compare (g.column g.entity.timestampColumn) direction moment.seconds
    | none => return (← get).permissive
  | .fullText raw => return .found (g.column g.entity.idColumn) g.entity.searchTable raw

/-- The SQL of a tree, and the generator for the next one. -/
def generate (g : Generator) (q : Query) : Except Error String × Generator :=
  let (outcome, polarity) := (g.visit q).run.run .kept
  (outcome.map (Predicate.render g.dialect), { g with polarity })

/-- The SQL of several trees in turn. -/
def generateAll (g : Generator) : List Query → List (Except Error String)
  | [] => []
  | q :: qs =>
    let (sql, g) := g.generate q
    sql :: g.generateAll qs

end Generator

end MailSearch
