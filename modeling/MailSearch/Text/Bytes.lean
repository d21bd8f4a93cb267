/-!
# Sizes of texts

The size of a text is the number of bytes of its UTF-8 form.
-/

namespace MailSearch.Text

/-- The number of bytes of a text. -/
def byteLength (cs : List Char) : Nat :=
  cs.foldr (fun c n => c.utf8Size + n) 0

end MailSearch.Text
