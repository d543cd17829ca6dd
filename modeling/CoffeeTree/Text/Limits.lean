/-!
# Limits of texts

Integers are read and written in at most 4300 decimal digits, and a text holds whole characters, not
halves of surrogate pairs.
-/

namespace CoffeeTree.Text

/-- The most decimal digits that an integer may have in a text. -/
def maxDigits : Nat := 4300

/-- Whether an integer can be written in decimal digits. -/
def isWritable (n : Int) : Bool := (Nat.toDigits 10 n.natAbs).length ≤ maxDigits

/-- What goes beyond the limits. -/
inductive LimitError where
  /-- An integer with this many digits is not read. -/
  | read (digits : Nat)
  /-- An integer is not written. -/
  | written
  /-- Half of a surrogate pair is no character. -/
  | halfPair
  deriving DecidableEq, Repr

namespace LimitError

def message : LimitError → String
  | read digits =>
    s!"Exceeds the limit ({maxDigits} digits) for integer string conversion: value has {digits} " ++
      "digits; use sys.set_int_max_str_digits() to increase the limit"
  | written =>
    s!"Exceeds the limit ({maxDigits} digits) for integer string conversion; " ++
      "use sys.set_int_max_str_digits() to increase the limit"
  | halfPair => "half of a surrogate pair is no character"

end LimitError

end CoffeeTree.Text
