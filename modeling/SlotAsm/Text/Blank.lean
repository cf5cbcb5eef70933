import SlotAsm.Text.Ranges

/-!
Blank characters: the ones that separate words, may surround a line and may not occur in a label.
They are the characters with the Unicode property `White_Space`, so a no-break space is blank, while
the zero-width space `U+200B` and the byte order mark `U+FEFF` are ordinary characters.
-/

namespace SlotAsm.Text

/-- The code points with the property `White_Space`. -/
def blankRanges : List (Nat × Nat) :=
  [(0x09, 0x0D), (0x20, 0x20), (0x85, 0x85), (0xA0, 0xA0), (0x1680, 0x1680), (0x2000, 0x200A),
    (0x2028, 0x2029), (0x202F, 0x202F), (0x205F, 0x205F), (0x3000, 0x3000)]

/-- Whether a character is blank. -/
def isBlank (c : Char) : Bool :=
  inRanges blankRanges c.toNat

end SlotAsm.Text
