/-!
# Blank characters, words and lines

The characters of the Unicode property `White_Space`, and what date phrases and interactive lines do
with them: `trim` drops them at both ends of a text, and `words` drops them everywhere, which leaves
the maximal blank-free runs in order. Both work on lists of characters, so that a fact about them is
a fact about lists.
-/

namespace MailSearch.Text

/-- The property `White_Space`: the no-break space is in it, the zero-width space `U+200B` not. -/
def isBlank (c : Char) : Bool :=
  let n := c.toNat
  (0x09 ≤ n && n ≤ 0x0D) || n == 0x20 || n == 0x85 || n == 0xA0 || n == 0x1680
    || (0x2000 ≤ n && n ≤ 0x200A) || n == 0x2028 || n == 0x2029 || n == 0x202F || n == 0x205F
    || n == 0x3000

/-- The text without the blanks at its two ends. -/
def trim (cs : List Char) : List Char :=
  ((cs.dropWhile isBlank).reverse.dropWhile isBlank).reverse

/-- Cuts a list at every element that `p` holds of. There is one more piece than there are cuts. -/
def cutAt {α : Type} (p : α → Bool) : List α → List (List α)
  | [] => [[]]
  | a :: as =>
    if p a then [] :: cutAt p as
    else
      match cutAt p as with
      | [] => [[a]]
      | piece :: pieces => (a :: piece) :: pieces

/-- The maximal runs of characters that are not blank. -/
def words (cs : List Char) : List String :=
  ((cutAt isBlank cs).filter (!·.isEmpty)).map String.ofList

/-- The lines of a text. The last line needs no line feed, and an empty last line is none. -/
def lines (cs : List Char) : List (List Char) :=
  let pieces := cutAt (· == '\n') cs
  if pieces.getLast? == some [] then pieces.dropLast else pieces

/-- Letters `A` to `Z` in lower case, every other character unchanged. -/
def lower (cs : List Char) : List Char :=
  cs.map Char.toLower

/-- Two texts are the same word if they differ at most in the case of the letters `A` to `Z`. -/
def sameWord (s t : String) : Bool :=
  lower s.toList == lower t.toList

end MailSearch.Text
