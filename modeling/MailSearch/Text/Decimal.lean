/-!
# Decimal numbers in a text

Numbers in date phrases and in settings are ASCII digits and nothing else: no digit of another
script, no separator. A sign is read apart from the digits, because each place that reads a number
has its own rule for it.
-/

namespace MailSearch.Text

/-- The value of a run of decimal digits; `0` for the empty run. -/
def decimalValue (cs : List Char) : Nat :=
  cs.foldl (fun n c => 10 * n + (c.toNat - '0'.toNat)) 0

/-- The number that one or more ASCII digits spell. -/
def natural? (cs : List Char) : Option Nat :=
  if !cs.isEmpty && cs.all Char.isDigit then some (decimalValue cs) else none

/-- A count: an optional plus sign and digits, below `2 ^ 32`. -/
def count? (s : String) : Option Nat :=
  let value :=
    match s.toList with
    | '+' :: cs => natural? cs
    | cs => natural? cs
  value.filter (· < 4294967296)

/-- A signed number: an optional sign and digits, between `-2 ^ 31` and `2 ^ 31 - 1`. -/
def integer? (s : String) : Option Int :=
  let value : Option Int :=
    match s.toList with
    | '+' :: cs => (natural? cs).map Int.ofNat
    | '-' :: cs => (natural? cs).map fun n => -(n : Int)
    | cs => (natural? cs).map Int.ofNat
  value.filter fun n => -2147483648 ≤ n && n < 2147483648

end MailSearch.Text
