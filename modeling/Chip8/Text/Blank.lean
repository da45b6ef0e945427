/-! Blanks, by the character database of Unicode 14. -/
namespace Chip8.Text

/-- Blanks outside ASCII: spaces of all widths and the separators of lines and paragraphs. -/
def wideBlanks : List (Nat × Nat) :=
  [(0x85, 0x85), (0xA0, 0xA0), (0x1680, 0x1680), (0x2000, 0x200A), (0x2028, 0x2029),
   (0x202F, 0x202F), (0x205F, 0x205F), (0x3000, 0x3000)]

/-- Space, tab, line feed, vertical tab, form feed and carriage return. -/
def isAsciiBlank (c : Char) : Bool := c = ' ' || (0x09 ≤ c.toNat && c.toNat ≤ 0x0D)

def isWideBlank (c : Char) : Bool :=
  wideBlanks.any fun (lo, hi) => lo ≤ c.toNat && c.toNat ≤ hi

end Chip8.Text
