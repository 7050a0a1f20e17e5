import LightningGateway.Text.Mark
import LightningGateway.Text.Unassigned

/-
  Characters that cannot be shown on their own.

  These are the characters outside ASCII that are control or
  format characters, separators or fillers, that are private or
  unassigned, and the marks that are parts of the character
  before them.

  Key definitions include:
    * `Hidden.invisible`
    * `isHidden`
-/

namespace LightningGateway.Text

/- Controls, formats, separators and fillers outside ASCII. -/
def Hidden.invisible : List (Nat × Nat) :=
  [(0x80, 0xA0), (0xAD, 0xAD), (0x600, 0x605), (0x61C, 0x61C),
   (0x6DD, 0x6DD), (0x70F, 0x70F), (0x890, 0x891),
   (0x8E2, 0x8E2), (0x115F, 0x1160), (0x1680, 0x1680),
   (0x180E, 0x180E), (0x2000, 0x200F), (0x2028, 0x202F),
   (0x205F, 0x2064), (0x2066, 0x206F), (0x3000, 0x3000),
   (0x3164, 0x3164), (0xFEFF, 0xFEFF), (0xFFA0, 0xFFA0),
   (0xFFF9, 0xFFFB), (0x110BD, 0x110BD), (0x110CD, 0x110CD),
   (0x13430, 0x1343F), (0x1BCA0, 0x1BCA3), (0x1D173, 0x1D17A),
   (0xE0001, 0xE0001), (0xE0020, 0xE007F)]

/- Whether a character cannot be shown on its own. -/
def isHidden (c : Char) : Bool :=
  inRanges c Hidden.invisible || isAttached c || isUnassigned c

end LightningGateway.Text
