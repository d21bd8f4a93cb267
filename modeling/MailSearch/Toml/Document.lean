import MailSearch.Toml.Scalar

/-!
# Reading a TOML document

A document is a sequence of lines: blank ones, comments, headers, and keys with values. Only values
can run over several lines. Arrays and inline tables nest, up to a limit; so do dotted keys.

The readers of nested values take fuel, one unit for each call. A call reads at least one character
or is followed by one that does, so twice the length of the text is enough, and `document?` provides
that.
-/

namespace MailSearch.Toml

/-- One more than the number of levels to which arrays and inline tables nest, and one more than the
number of parts of a dotted key. -/
def levelLimit : Nat := 80

/-- The text after blanks. -/
def skipBlanks (cs : List Char) : List Char :=
  cs.dropWhile fun c => c == ' ' || c == '\t'

/-- The text after the line end that has to come, or nothing at the end of the document. -/
def lineEnd? : List Char → Option (List Char)
  | [] => some []
  | '\x0d' :: '\n' :: cs | '\n' :: cs => some cs
  | _ => none

/-- The text after the rest of a line that holds nothing but blanks and perhaps a comment. -/
def endLine? (cs : List Char) : Option (List Char) :=
  match skipBlanks cs with
  | '#' :: cs => lineEnd? (cs.dropWhile isPlain)
  | cs => lineEnd? cs

/-- The text after blanks, line ends and comments, which may stand between items of an array. -/
def skipLayout? (inComment : Bool) : List Char → Option (List Char)
  | [] => if inComment then none else some []
  | '\x0d' :: '\n' :: cs | '\n' :: cs => skipLayout? false cs
  | c :: cs =>
    if inComment then if isPlain c then skipLayout? true cs else none
    else if c == ' ' || c == '\t' then skipLayout? false cs
    else if c == '#' then skipLayout? true cs
    else some (c :: cs)

/-- A character of a key that stands without quotes. -/
def isBareKeyChar (c : Char) : Bool :=
  c.isAlphanum || c == '-' || c == '_'

/-- One part of a key. -/
def keyPart? (cs : List Char) : Option (String × List Char) :=
  match cs with
  | '"' :: cs => (basicString? cs).map fun (s, rest) => (String.ofList s, rest)
  | '\x27' :: cs => (literalString? cs).map fun (s, rest) => (String.ofList s, rest)
  | cs =>
    let name := cs.takeWhile isBareKeyChar
    if name.isEmpty then none else some (String.ofList name, cs.dropWhile isBareKeyChar)

/-- A key: the parts before its last dot, the last part, and the rest of the text. Blanks may stand
around parts. A key has fewer parts than `parts`. -/
def key? (parts : Nat) (cs : List Char) : Option (List String × String × List Char) :=
  match parts with
  | 0 => none
  | 1 => none
  | parts + 1 => do
    let (part, rest) ← keyPart? (skipBlanks cs)
    match skipBlanks rest with
    | '.' :: rest =>
      let (path, last, rest) ← key? parts rest
      return (part :: path, last, rest)
    | rest => return ([], part, rest)

mutual

/-- A value below `depth` arrays and inline tables. -/
def value? (fuel depth : Nat) (cs : List Char) : Option (Node × List Char) :=
  match fuel with
  | 0 => none
  | fuel + 1 =>
    match cs with
    | '[' :: cs =>
      if depth + 1 < levelLimit then do
        let (items, rest) ← items? fuel (depth + 1) cs
        return (.array items, rest)
      else none
    | '\x7b' :: cs =>
      if depth + 1 < levelLimit then do
        let rest := skipBlanks cs
        match rest with
        | '\x7d' :: rest => return (.table .inline [], rest)
        | _ =>
          let (entries, rest) ← pairs? fuel (depth + 1) [] rest
          return (.table .inline entries, rest)
      else none
    | _ => scalar? cs

/-- The items of an array up to its end, after the opening bracket or a comma. -/
def items? (fuel depth : Nat) (cs : List Char) : Option (List Node × List Char) :=
  match fuel with
  | 0 => none
  | fuel + 1 => do
    match ← skipLayout? false cs with
    | ']' :: rest => return ([], rest)
    | cs =>
      let (item, rest) ← value? fuel depth cs
      match ← skipLayout? false rest with
      | ']' :: rest => return ([item], rest)
      | ',' :: rest =>
        let (items, rest) ← items? fuel depth rest
        return (item :: items, rest)
      | _ => none

/-- The keys and values of an inline table up to its end, added to those already read. -/
def pairs? (fuel depth : Nat) (entries : Entries) (cs : List Char) :
    Option (Entries × List Char) :=
  match fuel with
  | 0 => none
  | fuel + 1 => do
    let (path, last, rest) ← key? levelLimit cs
    let rest ← Text.skip? '=' rest
    let (value, rest) ← value? fuel depth (skipBlanks rest)
    let entries ← entries.addDotted? path last value
    match skipBlanks rest with
    | '\x7d' :: rest => return (entries, rest)
    | ',' :: rest => pairs? fuel depth entries rest
    | _ => none

end

/-- The lines of a document, added to the tables read so far. `header` is the table that keys belong
to. -/
def lines? (fuel : Nat) (header : List String) (root : Entries) (cs : List Char) :
    Option Entries :=
  match fuel with
  | 0 => none
  | fuel + 1 =>
    match skipBlanks cs with
    | [] => some root
    | '\x0d' :: '\n' :: rest | '\n' :: rest => lines? fuel header root rest
    | '#' :: rest => do
      let rest ← lineEnd? (rest.dropWhile isPlain)
      lines? fuel header root rest
    | '[' :: '[' :: rest => do
      let (path, last, rest) ← key? levelLimit rest
      let rest ← Text.skip? ']' rest
      let rest ← Text.skip? ']' rest
      let rest ← endLine? rest
      let root ← root.change? path (·.openRow? last)
      lines? fuel (path ++ [last]) root rest
    | '[' :: rest => do
      let (path, last, rest) ← key? levelLimit rest
      let rest ← Text.skip? ']' rest
      let rest ← endLine? rest
      let root ← root.change? path (·.openTable? last)
      lines? fuel (path ++ [last]) root rest
    | cs => do
      let (path, last, rest) ← key? levelLimit cs
      let rest ← Text.skip? '=' rest
      let (value, rest) ← value? (2 * rest.length + 2) 0 (skipBlanks rest)
      let rest ← endLine? rest
      let root ← root.change? header (·.addDotted? path last value)
      lines? fuel header root rest

/-- The root table of a document. A byte order mark at the beginning does not count. -/
def document? (text : String) : Option Entries :=
  let cs :=
    match text.toList with
    | '\uFEFF' :: cs => cs
    | cs => cs
  lines? (cs.length + 1) [] [] cs

end MailSearch.Toml
