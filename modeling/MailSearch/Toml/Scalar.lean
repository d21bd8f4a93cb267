import MailSearch.Calendar.Timestamp
import MailSearch.Toml.Node

/-!
# Strings, numbers and times in TOML

Readers for the values that hold no other values. A reader takes a value from the front of a text
and returns the rest. It takes as much as belongs to the value; whether the value may end there is
for the caller to see, so `007` is the integer `0` and a rest that no line allows.
-/

namespace MailSearch.Toml

open Text (natural? digits? skip?)

/-- A character that may stand for itself in strings and comments: no control character but tab. -/
def isPlain (c : Char) : Bool :=
  let n := c.toNat
  n == 0x09 || (0x20 ≤ n && n ≤ 0x7E) || 0x80 ≤ n

/-! ## Strings -/

/-- The value of a hexadecimal digit. -/
def hexDigit? (c : Char) : Option Nat :=
  if c.isDigit then some (c.toNat - '0'.toNat)
  else if 'a' ≤ c && c ≤ 'f' then some (c.toNat - 'a'.toNat + 10)
  else if 'A' ≤ c && c ≤ 'F' then some (c.toNat - 'A'.toNat + 10)
  else none

/-- The character that hexadecimal digits number, if it is a character. -/
def hexChar? (ds : List Char) : Option Char := do
  let n := (← ds.mapM hexDigit?).foldl (16 * · + ·) 0
  if n < 0xD800 || (0xE000 ≤ n && n < 0x110000) then some (Char.ofNat n) else none

/-- The character that a letter stands for after a backslash. -/
def escape? : Char → Option Char
  | 'b' => some '\x08'
  | 't' => some '\t'
  | 'n' => some '\n'
  | 'f' => some '\x0c'
  | 'r' => some '\x0d'
  | '"' => some '"'
  | '\\' => some '\\'
  | _ => none

/-- Puts a character in front of what was read. -/
def push (c : Char) (r : Option (List Char × List Char)) : Option (List Char × List Char) :=
  r.map fun (text, rest) => (c :: text, rest)

/-- The rest of a basic string, after the opening quote. -/
def basicString? : List Char → Option (List Char × List Char)
  | [] => none
  | '"' :: cs => some ([], cs)
  | '\\' :: 'u' :: a :: b :: c :: d :: cs => do
    push (← hexChar? [a, b, c, d]) (basicString? cs)
  | '\\' :: 'U' :: a :: b :: c :: d :: e :: f :: g :: h :: cs => do
    push (← hexChar? [a, b, c, d, e, f, g, h]) (basicString? cs)
  | '\\' :: c :: cs => do push (← escape? c) (basicString? cs)
  | c :: cs => if isPlain c then push c (basicString? cs) else none

/-- The rest of a literal string, after the opening quote. -/
def literalString? : List Char → Option (List Char × List Char)
  | [] => none
  | '\x27' :: cs => some ([], cs)
  | c :: cs => if isPlain c then push c (literalString? cs) else none

/-- Where a string of several lines is being read. -/
inductive Folding where
  /-- In the text. -/
  | plain
  /-- After a backslash that ends its line, where the line has still to end. -/
  | pending
  /-- In the blanks after a backslash that ended its line. -/
  | skipping
deriving DecidableEq

/-- The rest of a basic string of several lines, after the opening quotes. A backslash at the end of
a line drops the line end and all blanks after it. Up to two quotes may stand before the closing
ones. -/
def longBasicString? (fold : Folding) : List Char → Option (List Char × List Char)
  | [] => none
  | '\x0d' :: '\n' :: cs =>
    if fold = .plain then push '\n' (longBasicString? .plain cs) else longBasicString? .skipping cs
  | '\n' :: cs =>
    if fold = .plain then push '\n' (longBasicString? .plain cs) else longBasicString? .skipping cs
  | ' ' :: cs =>
    if fold = .plain then push ' ' (longBasicString? .plain cs) else longBasicString? fold cs
  | '\t' :: cs =>
    if fold = .plain then push '\t' (longBasicString? .plain cs) else longBasicString? fold cs
  | '"' :: '"' :: '"' :: '"' :: '"' :: cs => if fold = .pending then none else some (['"', '"'], cs)
  | '"' :: '"' :: '"' :: '"' :: cs => if fold = .pending then none else some (['"'], cs)
  | '"' :: '"' :: '"' :: cs => if fold = .pending then none else some ([], cs)
  | '\\' :: 'u' :: a :: b :: c :: d :: cs => do
    if fold = .pending then none else push (← hexChar? [a, b, c, d]) (longBasicString? .plain cs)
  | '\\' :: 'U' :: a :: b :: c :: d :: e :: f :: g :: h :: cs => do
    if fold = .pending then none
    else push (← hexChar? [a, b, c, d, e, f, g, h]) (longBasicString? .plain cs)
  | '\\' :: c :: cs => do
    if fold = .pending then none
    else if c == ' ' || c == '\t' || c == '\x0d' || c == '\n' then
      longBasicString? .pending (c :: cs)
    else push (← escape? c) (longBasicString? .plain cs)
  | c :: cs =>
    if fold ≠ .pending && isPlain c then push c (longBasicString? .plain cs) else none

/-- The rest of a literal string of several lines, after the opening quotes. -/
def longLiteralString? : List Char → Option (List Char × List Char)
  | [] => none
  | '\x0d' :: '\n' :: cs | '\n' :: cs => push '\n' (longLiteralString? cs)
  | '\x27' :: '\x27' :: '\x27' :: '\x27' :: '\x27' :: cs => some (['\x27', '\x27'], cs)
  | '\x27' :: '\x27' :: '\x27' :: '\x27' :: cs => some (['\x27'], cs)
  | '\x27' :: '\x27' :: '\x27' :: cs => some ([], cs)
  | c :: cs => if isPlain c then push c (longLiteralString? cs) else none

/-- The text after a line end that directly follows opening quotes; it does not count. -/
def dropLineEnd : List Char → List Char
  | '\x0d' :: '\n' :: cs | '\n' :: cs => cs
  | cs => cs

/-- A string of any kind. -/
def string? (cs : List Char) : Option (String × List Char) :=
  let chars :=
    match cs with
    | '"' :: '"' :: '"' :: cs => longBasicString? .plain (dropLineEnd cs)
    | '"' :: cs => basicString? cs
    | '\x27' :: '\x27' :: '\x27' :: cs => longLiteralString? (dropLineEnd cs)
    | '\x27' :: cs => literalString? cs
    | _ => none
  chars.map fun (text, rest) => (String.ofList text, rest)

/-! ## Numbers -/

/-- The digits at the front, and the rest. One underscore may stand between two digits. -/
def digitRun (isDigit : Char → Bool) : List Char → List Char × List Char
  | [] => ([], [])
  | '_' :: c :: cs =>
    if isDigit c then
      let (ds, rest) := digitRun isDigit cs
      (c :: ds, rest)
    else ([], '_' :: c :: cs)
  | c :: cs =>
    if isDigit c then
      let (ds, rest) := digitRun isDigit cs
      (c :: ds, rest)
    else ([], c :: cs)

/-- At least one digit at the front, and no underscore before it. -/
def digitRun? (isDigit : Char → Bool) (cs : List Char) : Option (List Char × List Char) :=
  match cs with
  | c :: _ => if isDigit c then some (digitRun isDigit cs) else none
  | [] => none

/-- The digits of a decimal integer, which has no needless zero in front. -/
def wholeDigits? (cs : List Char) : Option (List Char × List Char) :=
  match cs with
  | '0' :: rest => some (['0'], rest)
  | _ => digitRun? Char.isDigit cs

/-- An integer of 64 bits. -/
def fitting? (n : Int) : Option Node :=
  if -9223372036854775808 ≤ n && n < 9223372036854775808 then some (.integer n) else none

/-- An integer after the mark of its base. -/
def based? (base : Nat) (cs : List Char) : Option (Node × List Char) := do
  let isDigit (c : Char) : Bool := ((hexDigit? c).filter (· < base)).isSome
  let (ds, rest) ← digitRun? isDigit cs
  let n := (ds.filterMap hexDigit?).foldl (base * · + ·) 0
  return (← fitting? n, rest)

/-- The number is so large that no binary number of double precision comes near it: its `digits`,
times ten to the power `exponent`, are not below `2 ^ 1024 - 2 ^ 970`. -/
def exceedsDouble (digits : List Char) (exponent : Int) : Bool :=
  let significant := digits.dropWhile (· == '0')
  let places := significant.length + exponent
  if significant.isEmpty || places < 309 then false
  else if 309 < places then true
  else
    let bound := Nat.pow 2 1024 - Nat.pow 2 970
    let value := Text.decimalValue significant
    if 0 ≤ exponent then bound ≤ value * Nat.pow 10 exponent.toNat
    else bound * Nat.pow 10 (-exponent).toNat ≤ value

/-- The exponent of a float, after its letter. -/
def exponent? (cs : List Char) : Option (Int × List Char) :=
  match cs with
  | '+' :: cs => (digitRun? Char.isDigit cs).map fun (ds, rest) => (Text.decimalValue ds, rest)
  | '-' :: cs => (digitRun? Char.isDigit cs).map fun (ds, rest) => (-Text.decimalValue ds, rest)
  | cs => (digitRun? Char.isDigit cs).map fun (ds, rest) => (Text.decimalValue ds, rest)

/-- A decimal number without its sign. -/
def decimal? (negative : Bool) (cs : List Char) : Option (Node × List Char) := do
  let (whole, rest) ← wholeDigits? cs
  let float (fraction : List Char) (e : Int) (rest : List Char) : Option (Node × List Char) :=
    if !negative && exceedsDouble (whole ++ fraction) (e - fraction.length) then none
    else some (.float, rest)
  match rest with
  | 'e' :: rest | 'E' :: rest =>
    let (e, rest) ← exponent? rest
    float [] e rest
  | '.' :: rest =>
    let (fraction, rest) ← digitRun? Char.isDigit rest
    match rest with
    | 'e' :: rest | 'E' :: rest =>
      let (e, rest) ← exponent? rest
      float fraction e rest
    | _ => float fraction 0 rest
  | _ =>
    let n : Int := Text.decimalValue whole
    return (← fitting? (if negative then -n else n), rest)

/-- A number, infinity and not-a-number included. -/
def number? (cs : List Char) : Option (Node × List Char) :=
  let unsigned? (negative : Bool) (cs : List Char) : Option (Node × List Char) :=
    match cs with
    | 'i' :: 'n' :: 'f' :: rest | 'n' :: 'a' :: 'n' :: rest => some (.float, rest)
    | _ => decimal? negative cs
  match cs with
  | '0' :: 'x' :: cs => based? 16 cs
  | '0' :: 'o' :: cs => based? 8 cs
  | '0' :: 'b' :: cs => based? 2 cs
  | '+' :: cs => unsigned? false cs
  | '-' :: cs => unsigned? true cs
  | cs => unsigned? false cs

/-! ## Dates and times -/

/-- A number of two digits that is not above a bound. -/
def twoDigits? (bound : Nat) (cs : List Char) : Option (Nat × List Char) :=
  (digits? 2 cs).filter (·.1 ≤ bound)

/-- The text after a date that exists. -/
def afterDate? (cs : List Char) : Option (List Char) := do
  let (year, cs) ← digits? 4 cs
  let cs ← skip? '-' cs
  let (month, cs) ← digits? 2 cs
  let cs ← skip? '-' cs
  let (day, cs) ← digits? 2 cs
  (Date.ofYmd? year month day).map fun _ => cs

/-- The text after a time of day. -/
def afterTime? (cs : List Char) : Option (List Char) := do
  let (_, cs) ← twoDigits? 23 cs
  let cs ← skip? ':' cs
  let (_, cs) ← twoDigits? 59 cs
  let cs ← skip? ':' cs
  let (_, cs) ← twoDigits? 60 cs
  match cs with
  | '.' :: c :: rest => if c.isDigit then some (rest.dropWhile Char.isDigit) else some cs
  | _ => some cs

/-- The text after an offset from UTC, if there is one. -/
def afterOffset (cs : List Char) : List Char :=
  let after? (cs : List Char) : Option (List Char) := do
    let (_, cs) ← twoDigits? 23 cs
    let cs ← skip? ':' cs
    let (_, cs) ← twoDigits? 59 cs
    return cs
  match cs with
  | 'Z' :: rest | 'z' :: rest => rest
  | '+' :: rest | '-' :: rest => (after? rest).getD cs
  | _ => cs

/-- The text after a date, a time of day, or both. -/
def afterMoment? (cs : List Char) : Option (List Char) :=
  match afterDate? cs with
  | none => afterTime? cs
  | some rest =>
    let time? :=
      match rest with
      | 'T' :: cs | 't' :: cs | ' ' :: cs => afterTime? cs
      | _ => none
    some ((time?.map afterOffset).getD rest)

/-! ## Scalars -/

/-- A value that holds no other values. -/
def scalar? (cs : List Char) : Option (Node × List Char) :=
  match cs with
  | '"' :: _ | '\x27' :: _ => (string? cs).map fun (s, rest) => (.string s, rest)
  | 't' :: 'r' :: 'u' :: 'e' :: rest => some (.boolean true, rest)
  | 'f' :: 'a' :: 'l' :: 's' :: 'e' :: rest => some (.boolean false, rest)
  | _ =>
    match afterMoment? cs with
    | some rest => some (.moment, rest)
    | none => number? cs

end MailSearch.Toml
