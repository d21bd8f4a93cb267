import MailSearch.Error

/-!
# Full-text queries

The full-text index has a query language of its own: words and phrases with a trailing `*` that
also match as the beginning of a word, fields, `AND` and `OR`. `Query.lower` writes a textual query
in that language. It fails on what the index cannot answer, exclusions included.

`Query.condense` writes every largest part of a tree that the index can answer by itself as one
`fullText` leaf, so that each of these parts costs one lookup. It leaves the rest of the tree as it
is, and a condensed tree has no text leaves.
-/

namespace MailSearch

/-- A text in a field, in the language of the index. A text is a phrase whose last word may go on;
the star of a category stands inside the quotes. -/
def Field.lower (f : Field) (text : String) : String :=
  match f with
  | sender => "(from_ : \"" ++ text ++ "\"*)"
  | recipient => "(to_ : \"" ++ text ++ "\"*)"
  | subject => "(subject : \"" ++ text ++ "\"*)"
  | category => "(categories : \"" ++ text ++ "*\")"
  | anywhere => "(\"" ++ text ++ "\"*)"
  | verbatim => text

namespace Query

/-- The query in the language of the index. -/
def lower : Query → Except Error String
  | and l r => do
    let left ← l.lower
    let right ← r.lower
    return "(" ++ left ++ " AND " ++ right ++ ")"
  | or l r => do
    let left ← l.lower
    let right ← r.lower
    return "(" ++ left ++ " OR " ++ right ++ ")"
  | butNot l r => .error (.violation (.exclusionInFullText (butNot l r)))
  | text f w => .ok (f.lower w.text)
  | q => .error (.violation (.notTextual q))

/-- The index can answer the query by itself. -/
def isFoldable (q : Query) : Bool :=
  q.isTextual && !q.hasExclusion

/-- The query as a single leaf. -/
def fold (q : Query) : Except Error Query :=
  q.lower.map fullText

/-- Folds every largest part of the tree that the index can answer. -/
def condense : Query → Except Error Query
  | and l r =>
    if (and l r).isFoldable then (and l r).fold
    else do
      let left ← l.condense
      let right ← r.condense
      return and left right
  | or l r =>
    if (or l r).isFoldable then (or l r).fold
    else do
      let left ← l.condense
      let right ← r.condense
      return or left right
  | butNot l r => do
    let kept ← l.condense
    let excluded ← r.condense
    return butNot kept excluded
  | text f w => (text f w).fold
  | q => .ok q

end Query

end MailSearch
