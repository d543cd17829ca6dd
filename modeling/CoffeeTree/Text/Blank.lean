/-!
# Blank characters

The characters that count as white space: the ASCII blanks, line and paragraph ends, the information
separators and the Unicode spaces. The no-break spaces are among them, the zero-width ones are not.
-/

namespace CoffeeTree.Text

/-- Whether a number lies in one of the ranges, ends included. -/
def inRanges (table : List (Nat × Nat)) (n : Nat) : Bool :=
  table.any fun range ↦ range.1 ≤ n && n ≤ range.2

/-- The code points of the blank characters. -/
def blanks : List (Nat × Nat) :=
  [(0x9, 0xD), (0x1C, 0x20), (0x85, 0x85), (0xA0, 0xA0), (0x1680, 0x1680), (0x2000, 0x200A),
    (0x2028, 0x2029), (0x202F, 0x202F), (0x205F, 0x205F), (0x3000, 0x3000)]

def isBlank (c : Char) : Bool := inRanges blanks c.toNat

/-- The blanks among the first 128 characters that also surround a number. -/
def isAsciiBlank (c : Char) : Bool := c = ' ' || '\t' ≤ c && c ≤ '\r'

/-- A text without the blanks at both of its ends. -/
def strip (text : List Char) : List Char :=
  ((text.dropWhile isBlank).reverse.dropWhile isBlank).reverse

end CoffeeTree.Text
