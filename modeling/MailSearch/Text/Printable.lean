import MailSearch.Text.Blank
import MailSearch.Text.Extender
import MailSearch.Text.Unassigned

/-!
# Characters that show

A character shows by itself unless it is a control or format character, a blank other than the
space, a character that displays as nothing, one for private use, a code point without a character,
or an extender that is not a letter.
-/

namespace MailSearch.Text

/-- The general category `Cc`. -/
def isControl (c : Char) : Bool :=
  inRanges [(0x0, 0x1F), (0x7F, 0x9F)] c

/-- The general category `Cf`: characters that direct how others are displayed. -/
def formatRanges : List (Nat × Nat) :=
  [(0xAD, 0xAD), (0x600, 0x605), (0x61C, 0x61C), (0x6DD, 0x6DD), (0x70F, 0x70F), (0x890, 0x891),
    (0x8E2, 0x8E2), (0x180E, 0x180E), (0x200B, 0x200F), (0x202A, 0x202E), (0x2060, 0x2064),
    (0x2066, 0x206F), (0xFEFF, 0xFEFF), (0xFFF9, 0xFFFB), (0x110BD, 0x110BD), (0x110CD, 0x110CD),
    (0x13430, 0x1343F), (0x1BCA0, 0x1BCA3), (0x1D173, 0x1D17A), (0xE0001, 0xE0001),
    (0xE0020, 0xE007F)]

/-- The property `Default_Ignorable_Code_Point`: what displays as nothing where it has no effect. -/
def ignorableRanges : List (Nat × Nat) :=
  [(0xAD, 0xAD), (0x34F, 0x34F), (0x61C, 0x61C), (0x115F, 0x1160), (0x17B4, 0x17B5),
    (0x180B, 0x180F), (0x200B, 0x200F), (0x202A, 0x202E), (0x2060, 0x206F), (0x3164, 0x3164),
    (0xFE00, 0xFE0F), (0xFEFF, 0xFEFF), (0xFFA0, 0xFFA0), (0xFFF0, 0xFFF8), (0x1BCA0, 0x1BCA3),
    (0x1D173, 0x1D17A), (0xE0000, 0xE0FFF)]

/-- The general category `Co`: code points whose meaning is a private agreement. -/
def privateRanges : List (Nat × Nat) :=
  [(0xE000, 0xF8FF), (0xF0000, 0xFFFFD), (0x100000, 0x10FFFD)]

/-- The character shows, and shows by itself. -/
def isPrintable (c : Char) : Bool :=
  !(isControl c || inRanges formatRanges c || isBlank c && c != ' ' || inRanges ignorableRanges c
    || inRanges privateRanges c || isUnassigned c || isExtender c && !isLetterExtender c)

end MailSearch.Text
