import MailSearch.Error
import MailSearch.Text.Bytes

/-!
# From text to lexemes

A `Cursor` is a place in a search text: how many bytes lie before it and which characters follow.
`Cursor.read` reads one lexeme there. Blanks (space, tab, line feed) separate tokens and mean
nothing. A double quote opens a text that runs to the next double quote; a bareword runs to the next
blank or delimiter, so `from:` is always the word `from` and a colon, and a quote inside a word is
part of the word. The only way to fail is a quote that is never closed.

`Cursor.scan` reads all lexemes and says how the text ends: properly, at its length, or in an open
quote. A parser that looks at the lexemes one after the other reaches a broken end only after all
lexemes before it, which is why the end is kept apart from the lexemes. `tokenize` is for those who
need all lexemes or none.
-/

namespace MailSearch

/-- The characters that separate tokens: space, tab and line feed, and no other. -/
def isSpacing (c : Char) : Bool :=
  c == ' ' || c == '\t' || c == '\n'

/-- The characters that are tokens by themselves. -/
def isDelimiterChar (c : Char) : Bool :=
  c == '(' || c == ')' || c == ':'

/-- The characters a bareword is made of. -/
def isWordChar (c : Char) : Bool :=
  !isSpacing c && !isDelimiterChar c

/-- A place in a text. -/
structure Cursor where
  /-- The number of bytes before the place. -/
  offset : Nat
  /-- The characters after the place. -/
  rest : List Char
deriving DecidableEq, Repr

/-- What there is to read at a place. -/
inductive Reading where
  /-- A lexeme, and the place after it. -/
  | found (lexeme : Lexeme) (after : Cursor)
  /-- Nothing more. -/
  | finished (here : Cursor)
  /-- A quote that is never closed. -/
  | openQuote (here : Cursor)
deriving DecidableEq, Repr

namespace Cursor

/-- The beginning of a text. -/
def start (text : String) : Cursor :=
  ⟨0, text.toList⟩

/-- The text after the place. -/
def remaining (c : Cursor) : String :=
  String.ofList c.rest

/-- The place after the blanks that follow. -/
def skipSpacing (c : Cursor) : Cursor :=
  ⟨c.offset + Text.byteLength (c.rest.takeWhile isSpacing), c.rest.dropWhile isSpacing⟩

/-- Reads the lexeme that starts here, with no blank before it. -/
def lexeme (c : Cursor) : Reading :=
  match c.rest with
  | [] => .finished c
  | '"' :: cs =>
    let inside := cs.takeWhile (· != '"')
    match cs.dropWhile (· != '"') with
    | [] => .openQuote c
    | _ :: rest =>
      .found ⟨c.offset, .quote (String.ofList inside)⟩ ⟨c.offset + Text.byteLength inside + 2, rest⟩
  | ch :: cs =>
    if isDelimiterChar ch then
      .found ⟨c.offset, .bare (String.ofList [ch])⟩ ⟨c.offset + 1, cs⟩
    else
      let word := ch :: cs.takeWhile isWordChar
      .found ⟨c.offset, .bare (String.ofList word)⟩
        ⟨c.offset + Text.byteLength word, cs.dropWhile isWordChar⟩

/-- Reads the lexeme that follows the blanks here. -/
def read (c : Cursor) : Reading :=
  c.skipSpacing.lexeme

/-- The next lexeme, `none` once only blanks are left, and the place afterwards. The place lies
behind the blanks also where there is nothing to read or the reading fails. -/
def next (c : Cursor) : Except Error (Option Lexeme) × Cursor :=
  match c.read with
  | .found l after => (.ok (some l), after)
  | .finished here => (.ok none, here)
  | .openQuote here => (.error (.lex here.offset here.remaining), here)

/-- What `next` would read, without moving. -/
def peek (c : Cursor) : Except Error (Option Lexeme) :=
  c.next.1

/-- A lexeme takes at least one character. -/
theorem lexeme_length_lt {c c' : Cursor} {l : Lexeme} (h : c.lexeme = .found l c') :
    c'.rest.length < c.rest.length := by
  unfold lexeme at h
  split at h
  · simp at h
  · next cs heq =>
    split at h
    · simp at h
    · next rest hrest =>
      have hle := (List.dropWhile_sublist (l := cs) (· != '"')).length_le
      rw [hrest] at hle
      obtain ⟨-, rfl⟩ := Reading.found.inj h
      simp only [heq, List.length_cons] at hle ⊢
      omega
  · next ch cs _ heq =>
    have hle := (List.dropWhile_sublist (l := cs) isWordChar).length_le
    split at h <;>
    · obtain ⟨-, rfl⟩ := Reading.found.inj h
      simp only [heq, List.length_cons]
      omega

/-- Reading a lexeme moves forward. -/
theorem read_length_lt {c c' : Cursor} {l : Lexeme} (h : c.read = .found l c') :
    c'.rest.length < c.rest.length :=
  Nat.lt_of_lt_of_le (lexeme_length_lt h) (List.dropWhile_sublist isSpacing).length_le

end Cursor

/-- How a text ends after its last lexeme. -/
inductive Ending where
  /-- Properly, at this offset. -/
  | proper (offset : Nat)
  /-- In a quote that is never closed, with the text from the quote on. -/
  | openQuote (position : Nat) (fragment : String)
deriving DecidableEq, Repr

/-- The lexemes of a text and how it ends. -/
structure Scan where
  /-- The lexemes, up to the end or to an open quote. -/
  lexemes : List Lexeme
  /-- What comes after them. -/
  ending : Ending
deriving DecidableEq, Repr

/-- Reads all lexemes from here on. -/
def Cursor.scan (c : Cursor) : Scan :=
  match _h : c.read with
  | .found l after =>
    let tail := after.scan
    ⟨l :: tail.lexemes, tail.ending⟩
  | .finished here => ⟨[], .proper here.offset⟩
  | .openQuote here => ⟨[], .openQuote here.offset here.remaining⟩
termination_by c.rest.length
decreasing_by exact Cursor.read_length_lt _h

/-- The lexemes of a text, or the error at its open quote. -/
def tokenize (text : String) : Except Error (List Lexeme) :=
  let scan := (Cursor.start text).scan
  match scan.ending with
  | .proper _ => .ok scan.lexemes
  | .openQuote position fragment => .error (.lex position fragment)

/-- The first token of a text and the text after it. -/
def nextToken (text : String) : Except Error (Option Token × String) :=
  match (Cursor.start text).next with
  | (.ok found, c) => .ok (found.map Lexeme.token, c.remaining)
  | (.error e, _) => .error e

end MailSearch
