/-!
# JSON output

JSON values, and how they are laid out: two blanks for each level, one item a line, a blank after
the colon, nothing inside an empty list or object. The order of the fields is that of the value.
Strings escape quotes, backslashes and control characters, and nothing else.
-/

namespace MailSearch

/-- A JSON value. -/
inductive Json where
  | bool (value : Bool)
  | number (value : Nat)
  | string (value : String)
  | array (items : List Json)
  | object (fields : List (String × Json))
deriving Repr

namespace Json

/-- A character of a string literal. -/
def escaped (c : Char) : List Char :=
  let hex (n : Nat) : Char := (Nat.toDigits 16 n).getLastD '0'
  match c with
  | '"' => ['\\', '"']
  | '\\' => ['\\', '\\']
  | '\n' => ['\\', 'n']
  | '\t' => ['\\', 't']
  | '\x0d' => ['\\', 'r']
  | '\x08' => ['\\', 'b']
  | '\x0c' => ['\\', 'f']
  | c =>
    if c.toNat < 0x20 then ['\\', 'u', '0', '0', hex (c.toNat / 16), hex (c.toNat % 16)] else [c]

/-- A string literal. -/
def quoted (s : String) : String :=
  "\"" ++ String.ofList (s.toList.flatMap escaped) ++ "\""

/-- The start of a line at a level. -/
def newline (level : Nat) : String :=
  "\n" ++ String.ofList (List.replicate (2 * level) ' ')

mutual

/-- The text of a value that starts at a level. -/
def layout (level : Nat) : Json → String
  | bool b => if b then "true" else "false"
  | number n => toString n
  | string s => quoted s
  | array [] => "[]"
  | array items => "[" ++ layoutItems (level + 1) "" items ++ newline level ++ "]"
  | object [] => "\x7b\x7d"
  | object fields => "\x7b" ++ layoutFields (level + 1) "" fields ++ newline level ++ "\x7d"

/-- The items of a list, each on a line of its own, after a separator. -/
def layoutItems (level : Nat) (separator : String) : List Json → String
  | [] => ""
  | j :: js => separator ++ newline level ++ layout level j ++ layoutItems level "," js

/-- The fields of an object, each on a line of its own, after a separator. -/
def layoutFields (level : Nat) (separator : String) : List (String × Json) → String
  | [] => ""
  | (name, j) :: fields =>
    separator ++ newline level ++ quoted name ++ ": " ++ layout level j
      ++ layoutFields level "," fields

end

/-- The text of a value. -/
def pretty (j : Json) : String :=
  j.layout 0

end Json

end MailSearch
