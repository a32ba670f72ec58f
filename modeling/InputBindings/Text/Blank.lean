import InputBindings.Text.Ranges

/-!
# Blanks

The characters that separate words: ASCII blanks and the four ASCII information separators, the next
line control, and the Unicode 14 spaces and separators. The zero width space is not among them.
-/

namespace InputBindings.Text

def blankRanges : List (Nat × Nat) :=
  [(0x9, 0xD), (0x1C, 0x20), (0x85, 0x85), (0xA0, 0xA0), (0x1680, 0x1680), (0x2000, 0x200A),
   (0x2028, 0x2029), (0x202F, 0x202F), (0x205F, 0x205F), (0x3000, 0x3000)]

/-- A character of white space in any script. -/
def isBlank (c : Char) : Bool := inRanges blankRanges c.toNat

/-- The blanks of the ASCII range that a number may be surrounded by. -/
def isAsciiBlank (c : Char) : Bool := c == ' ' || (0x9 ≤ c.toNat && c.toNat ≤ 0xD)

/-- The text without the characters of a class at both ends. -/
def trim (blank : Char → Bool) (cs : List Char) : List Char :=
  ((cs.dropWhile blank).reverse.dropWhile blank).reverse

end InputBindings.Text
