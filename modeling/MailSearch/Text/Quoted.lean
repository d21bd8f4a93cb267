/-!
# Text between quotes

A quote character inside a quoted text is written twice. This holds for string literals and for
quoted identifiers alike; only the quote character differs.
-/

namespace MailSearch.Text

/-- Every `q` twice, every other character once. -/
def doubled (q : Char) (cs : List Char) : List Char :=
  cs.flatMap fun c => if c == q then [q, q] else [c]

/-- The text between two `q`. -/
def enclosed (q : Char) (s : String) : String :=
  String.ofList (q :: doubled q s.toList ++ [q])

end MailSearch.Text
