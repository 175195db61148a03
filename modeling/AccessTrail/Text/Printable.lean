namespace AccessTrail.Text

def inRanges (ranges : List (Nat × Nat)) (n : Nat) : Bool :=
  ranges.any fun r => r.1 ≤ n && n ≤ r.2

def controls : List (Nat × Nat) := [(0x00, 0x1F), (0x7F, 0x9F)]

def blanks : List (Nat × Nat) :=
  [(0x09, 0x0D), (0x20, 0x20), (0x85, 0x85), (0xA0, 0xA0), (0x1680, 0x1680), (0x180E, 0x180E),
   (0x2000, 0x200B), (0x2028, 0x2029), (0x202F, 0x202F), (0x205F, 0x205F), (0x3000, 0x3000)]

def formats : List (Nat × Nat) :=
  [(0xAD, 0xAD), (0x0600, 0x0605), (0x061C, 0x061C), (0x06DD, 0x06DD), (0x070F, 0x070F),
   (0x0890, 0x0891), (0x08E2, 0x08E2), (0x200C, 0x200F), (0x202A, 0x202E), (0x2060, 0x2064),
   (0x2066, 0x206F), (0xFEFF, 0xFEFF), (0xFFF9, 0xFFFB), (0x110BD, 0x110BD), (0x110CD, 0x110CD),
   (0x13430, 0x1343F), (0x1BCA0, 0x1BCA3), (0x1D173, 0x1D17A), (0xE0001, 0xE0001),
   (0xE0020, 0xE007F)]

/-- The last two private planes are taken whole, with their noncharacters. -/
def privateUse : List (Nat × Nat) := [(0xE000, 0xF8FF), (0xF0000, 0x10FFFF)]

def isNoncharacter (n : Nat) : Bool :=
  inRanges [(0xFDD0, 0xFDEF)] n || n % 0x10000 == 0xFFFE || n % 0x10000 == 0xFFFF

def isPrintable (c : Char) : Bool :=
  c == ' ' ||
    !(inRanges controls c.toNat || inRanges blanks c.toNat || inRanges formats c.toNat ||
      inRanges privateUse c.toNat || isNoncharacter c.toNat)

end AccessTrail.Text
