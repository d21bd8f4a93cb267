import MailSearch.Token

/-!
# Queries

A query is a tree of conjunctions, disjunctions and exclusions over five kinds of leaves. A text
leaf asks for a word in one field of the full-text index. Flags, attachments and dates are asked of
columns. A `fullText` leaf holds a query of the index that is already written out; condensing
(`MailSearch.Query.condense`) is what makes those.

`display` writes a tree back as a search, fully parenthesised. Two properties of a subtree decide
what can be done with it: `isTextual` (the index alone can answer it) and `hasExclusion`.
-/

namespace MailSearch

/-- The side of an instant that a date filter keeps. -/
inductive Direction where
  | before
  | after
deriving DecidableEq, Repr

/-- The word of a direction in a search. -/
def Direction.word : Direction → String
  | before => "before"
  | after => "after"

/-- The fields of the full-text index. `anywhere` is a plain search word; `verbatim` is text that is
handed to the index as it is. -/
inductive Field where
  | sender
  | recipient
  | subject
  | category
  | anywhere
  | verbatim
deriving DecidableEq, Repr

/-- What stands before the text of a field in a search. -/
def Field.qualifier : Field → String
  | sender => "from:"
  | recipient => "to:"
  | subject => "subject:"
  | category => "in:"
  | anywhere => ""
  | verbatim => ""

/-- The two markers a message carries. -/
inductive Flag where
  | unread
  | starred
deriving DecidableEq, Repr

/-- The search clause that asks for a marker, or for its absence. -/
def Flag.clause : Flag → Bool → String
  | unread, true => "is:unread"
  | unread, false => "is:read"
  | starred, true => "is:starred"
  | starred, false => "is:unstarred"

/-- A search, as a tree. -/
inductive Query where
  /-- Both sides hold. -/
  | and (left right : Query)
  /-- At least one side holds. -/
  | or (left right : Query)
  /-- What `kept` finds, without what `excluded` finds. -/
  | butNot (kept excluded : Query)
  /-- A word or phrase in a field of the index. -/
  | text (field : Field) (word : Token)
  /-- A marker that is set or is not. -/
  | flag (flag : Flag) (status : Bool)
  /-- The message has an attachment. -/
  | attachment
  /-- Received before or after the instant that a phrase names. -/
  | date (phrase : Token) (direction : Direction)
  /-- A query of the full-text index, written out. -/
  | fullText (raw : String)
deriving DecidableEq, Repr

namespace Query

/-- The tree as a search, with parentheses around every `AND`, `OR` and `NOT`. A `fullText` leaf has
no search syntax and is shown between angle brackets. -/
def display : Query → String
  | and l r => "(" ++ l.display ++ " AND " ++ r.display ++ ")"
  | or l r => "(" ++ l.display ++ " OR " ++ r.display ++ ")"
  | butNot l r => "(" ++ l.display ++ " NOT " ++ r.display ++ ")"
  | text f w => f.qualifier ++ w.display
  | flag f s => f.clause s
  | attachment => "has:attachment"
  | date p d => d.word ++ ":" ++ p.display
  | fullText raw => "<match " ++ raw ++ ">"

/-- Every leaf is a text leaf, so the index alone can answer the query. A `fullText` leaf does not
count: it is written out already. -/
def isTextual : Query → Bool
  | and l r | or l r | butNot l r => l.isTextual && r.isTextual
  | text .. => true
  | flag .. | attachment | date .. | fullText .. => false

/-- There is an exclusion somewhere in the tree. -/
def hasExclusion : Query → Bool
  | and l r | or l r => l.hasExclusion || r.hasExclusion
  | butNot .. => true
  | text .. | flag .. | attachment | date .. | fullText .. => false

/-- The tree is a single `fullText` leaf. -/
def isFullText : Query → Bool
  | fullText .. => true
  | _ => false

end Query

end MailSearch
