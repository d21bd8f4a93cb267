import MailSearch.Text.Bytes
import MailSearch.Text.Cluster

/-!
# Backspaces

A line that does not come from a keyboard may hold backspaces. Each takes back the last cluster that
is still there, and at the beginning of a line it does nothing. The size of a cluster is kept in one
byte, so of a cluster of 256 bytes or more a backspace takes back only the remainder.
-/

namespace MailSearch.Text

/-- A line while it is written. -/
structure Draft where
  /-- The text so far, last character first. -/
  text : List Char := []
  /-- How many bytes each backspace will take back, the next one first. -/
  sizes : List Nat := []
deriving DecidableEq, Repr

/-- Takes back a number of bytes. A character that does not fit into it stays. -/
def takeBack (size : Nat) : List Char → List Char
  | [] => []
  | c :: cs => if c.utf8Size ≤ size then takeBack (size - c.utf8Size) cs else c :: cs

/-- Writes a cluster, or takes one back. -/
def Draft.write (d : Draft) (cluster : List Char) : Draft :=
  if cluster == ['\x08'] then
    match d.sizes with
    | [] => d
    | size :: sizes => ⟨takeBack size d.text, sizes⟩
  else ⟨cluster.reverse ++ d.text, byteLength cluster % 256 :: d.sizes⟩

/-- What a line says after its backspaces. -/
def applyBackspaces (line : List Char) : List Char :=
  ((clusters line).foldl Draft.write {}).text.reverse

end MailSearch.Text
