import CoffeeTree.Number.Binary64
import CoffeeTree.Text.Blank
import CoffeeTree.Text.Case
import CoffeeTree.Text.Digit
import CoffeeTree.Text.Limits

/-!
# Number literals

Whether a literal looks like a number, and which number it is. The two questions are separate: a
literal that looks like a number and is none is an error of the tree.

A literal is first tried as an integer, in base ten or with a prefix for base sixteen, eight or two,
and that is exact at any size. A decimal integer with leading zeros is no integer in this sense; it
is read as a floating point number like everything else, and one whose value is an integer becomes
that integer. Digits of all scripts count as decimal digits, blanks at the ends are ignored, and a
single underscore may stand between two digits.
-/

namespace CoffeeTree.Literal

/-- The value of a number literal. -/
inductive Number where
  | int (value : Int)
  | float (value : Binary64)
  deriving DecidableEq, Repr

/-! ### What looks like a number -/

/-- Whether a text ends in a point and decimal digits. -/
def endsInFraction (text : List Char) : Bool :=
  let backwards := text.reverse
  (backwards.head?.any Text.isDecimalDigit) &&
    (backwards.dropWhile Text.isDecimalDigit).head? = some '.'

/-- Whether a text starts with a decimal digit, or ends in a point and digits. A line feed at the
very end is passed over. -/
def looksNumeric (text : List Char) : Bool :=
  text.head?.any Text.isDecimalDigit || endsInFraction text ||
    text.getLast? = some '\n' && endsInFraction text.dropLast

/-! ### Integers -/

/-- A character of a number in ASCII: blanks become spaces, and digits of other scripts become
ASCII digits. Other characters outside ASCII stand in no number. -/
def toAscii? (c : Char) : Option Char :=
  if c.toNat < 0x7F then some c
  else if Text.isBlank c then some ' '
  else (Text.digitValue? c).map fun d ↦ Char.ofNat ('0'.toNat + d)

/-- A text without the ASCII blanks at both of its ends. -/
def trim (text : List Char) : List Char :=
  ((text.dropWhile Text.isAsciiBlank).reverse.dropWhile Text.isAsciiBlank).reverse

/-- The sign of a number, true for minus, and the text after it. -/
def splitSign : List Char → Bool × List Char
  | '-' :: rest => (true, rest)
  | '+' :: rest => (false, rest)
  | text => (false, text)

/-- The digits of a text without single underscores between them, if it has that form. -/
def ungroup? (text : List Char) : Option (List Char) :=
  let groups := Text.splitWords text
  if groups.all (!·.isEmpty) then some groups.flatten else none

/-- A numeral in a base, where an underscore may follow the prefix. -/
def prefixed? (base : Nat) (digits : List Char) : Option Nat :=
  let digits :=
    match digits with
    | '_' :: rest => rest
    | _ => digits
  (ungroup? digits).bind (Text.numeral? base)

/-- A decimal numeral. One with leading zeros is only accepted when it denotes zero. -/
def decimal? (text : List Char) : Option Nat := do
  let digits ← ungroup? text
  let n ← Text.numeral? 10 digits
  if Text.maxDigits < digits.length || text.head? = some '0' && n ≠ 0 then none else some n

/-- A numeral without sign, in the base that its prefix tells. -/
def magnitude? (text : List Char) : Option Nat :=
  match text with
  | '0' :: mark :: digits =>
    if mark = 'x' || mark = 'X' then prefixed? 16 digits
    else if mark = 'o' || mark = 'O' then prefixed? 8 digits
    else if mark = 'b' || mark = 'B' then prefixed? 2 digits
    else decimal? text
  | _ => decimal? text

/-- The integer that an ASCII text denotes. -/
def integer? (text : List Char) : Option Int :=
  let (negative, digits) := splitSign (trim text)
  (magnitude? digits).map fun n ↦ if negative then -(n : Int) else n

/-! ### Floating point numbers -/

/-- Removes underscores, each of which has to stand between two digits. `previous` is the character
before the text. -/
def dropUnderscores? (previous : Char) : List Char → Option (List Char)
  | [] => some []
  | '_' :: next :: rest =>
    if Text.isAsciiDigit previous && Text.isAsciiDigit next then
      (dropUnderscores? next rest).map (next :: ·)
    else none
  | ['_'] => none
  | c :: rest => (dropUnderscores? c rest).map (c :: ·)

/-- The exponent after the digits of a decimal. -/
def exponent? : List Char → Option Int
  | [] => some 0
  | mark :: rest =>
    let (negative, digits) := splitSign rest
    if (mark = 'e' || mark = 'E') && !digits.isEmpty && digits.all Text.isAsciiDigit then
      (Text.numeral? 10 digits).map fun n ↦ if negative then -(n : Int) else n
    else none

/-- The double nearest to the decimal that a text denotes. There has to be a digit before or after
the point. -/
def double? (text : List Char) : Option Binary64 := do
  let (negative, unsigned) := splitSign (← dropUnderscores? ' ' (trim text))
  let whole := unsigned.takeWhile Text.isAsciiDigit
  let afterWhole := unsigned.dropWhile Text.isAsciiDigit
  let afterPoint :=
    match afterWhole with
    | '.' :: rest => rest
    | _ => []
  let fraction := afterPoint.takeWhile Text.isAsciiDigit
  let power ← exponent?
    (if afterWhole.head? = some '.' then afterPoint.dropWhile Text.isAsciiDigit else afterWhole)
  if whole.isEmpty && fraction.isEmpty then none
  else
    let digits ← Text.numeral? 10 (whole ++ fraction)
    some (.ofDecimal negative digits (power - fraction.length))

/-- The number that a literal denotes. Infinity is none. -/
def number? (text : List Char) : Option Number := do
  let ascii ← text.mapM toAscii?
  match integer? ascii with
  | some n => some (.int n)
  | none =>
    match ← double? ascii with
    | .finite negative mantissa exponent =>
      match Binary64.toInt? (.finite negative mantissa exponent) with
      | some n => some (.int n)
      | none => some (.float (.finite negative mantissa exponent))
    | _ => none

end CoffeeTree.Literal
