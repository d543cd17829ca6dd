import CoffeeTree.Number.Binary64

/-!
# The shortest decimal text of a double

A double is written with the fewest digits that read back as the same double, and of the decimals
with that many digits the nearest one, the even one of two. The candidates with `n` digits are the
two neighbours of the value on the grid of `n`-digit decimals; one of them reads back if and only if
it lies between the midpoints to the adjacent doubles, where a midpoint itself counts exactly when
the mantissa is even. All comparisons are between integers.

Which of the two notations is used, and how an exponent is spelled, is fixed by `positional` and
`render`.
-/

namespace CoffeeTree

/-- The digits of a positive decimal and its exponent: the number is `d.ddd * 10 ^ exponent`. -/
structure Scientific where
  digits : List Char
  exponent : Int
  deriving DecidableEq, Repr

namespace Scientific

/-- The decimal exponents that are written without exponent. -/
def positional (exponent : Int) : Bool := -4 ≤ exponent && exponent < 16

def zeros (n : Nat) : List Char := List.replicate n '0'

/-- The text of a positive decimal. There is always a digit on both sides of the point, and an
exponent has a sign and two digits at least. -/
def text (s : Scientific) : List Char :=
  let count := s.digits.length
  if positional s.exponent then
    if s.exponent < 0 then
      '0' :: '.' :: zeros (-s.exponent - 1).toNat ++ s.digits
    else
      let whole := s.exponent.toNat + 1
      let fraction := s.digits.drop whole
      s.digits.take whole ++ zeros (whole - count) ++
        '.' :: (if fraction.isEmpty then ['0'] else fraction)
  else
    let fraction := s.digits.drop 1
    let power := Nat.toDigits 10 s.exponent.natAbs
    s.digits.take 1 ++ (if fraction.isEmpty then [] else '.' :: fraction) ++
      'e' :: (if s.exponent < 0 then '-' else '+') :: zeros (2 - power.length) ++ power

end Scientific

namespace Binary64

/-- The greatest `e` with `10 ^ e ≤ num / den`, for positive `num` and `den`. -/
def decimalExponent (num den : Nat) : Int :=
  let guess : Int := (digitCount num : Int) - digitCount den
  if den * Nat.pow 10 guess.toNat ≤ num * Nat.pow 10 (-guess).toNat then guess else guess - 1

/-- Four times the value of a double and four times the two midpoints around it, over a common
denominator. The lower midpoint is nearer when the mantissa is the least with its exponent. -/
structure Neighbourhood where
  low : Nat
  value : Nat
  high : Nat
  den : Nat

def neighbourhood (mantissa : Nat) (exponent : Int) : Neighbourhood :=
  let up := Nat.pow 2 exponent.toNat
  let gap := if mantissa = Nat.pow 2 52 && leastExponent < exponent then 1 else 2
  { low := (4 * mantissa - gap) * up
    value := 4 * mantissa * up
    high := (4 * mantissa + 2) * up
    den := 4 * Nat.pow 2 (-exponent).toNat }

/-- The decimal with `count` digits that reads back as the double, if there is one. -/
def withDigits? (mantissa : Nat) (exponent : Int) (count : Nat) : Option Scientific :=
  let area := neighbourhood mantissa exponent
  let e := decimalExponent area.value area.den
  -- One unit of the last digit is `10 ^ unit`.
  let unit : Int := e - (count - 1 : Nat)
  let scale := Nat.pow 10 (-unit).toNat
  let den := area.den * Nat.pow 10 unit.toNat
  let below := area.value * scale / den
  let readsBack (n : Nat) : Bool :=
    if mantissa % 2 = 0 then area.low * scale ≤ n * den && n * den ≤ area.high * scale
    else area.low * scale < n * den && n * den < area.high * scale
  let down := area.value * scale - below * den
  let up := (below + 1) * den - area.value * scale
  -- Of two decimals that are equally near, the one with the even last digit comes first.
  let choices :=
    if down < up || down = up && below % 2 = 0 then [below, below + 1] else [below + 1, below]
  (choices.find? readsBack).map fun n ↦
    let digits := Nat.toDigits 10 n
    -- The upper neighbour may have one more digit than the value.
    { digits := (digits.reverse.dropWhile (· = '0')).reverse
      exponent := unit + (digits.length - 1 : Nat) }

/-- The shortest decimal that reads back as a positive finite double. Seventeen digits always
do. -/
def shortest (mantissa : Nat) (exponent : Int) : Scientific :=
  ((List.range 17).findSome? fun i ↦ withDigits? mantissa exponent (i + 1)).getD ⟨['0'], 0⟩

/-- How the doubles that are not numbers are spelled. -/
structure Spelling where
  nan : String
  infinity : String

/-- The text of a double. -/
def render (spelling : Spelling) : Binary64 → String
  | nan => spelling.nan
  | infinite negative => if negative then "-" ++ spelling.infinity else spelling.infinity
  | finite negative mantissa exponent =>
    let text := if mantissa = 0 then ['0', '.', '0'] else (shortest mantissa exponent).text
    String.ofList (if negative then '-' :: text else text)

end Binary64

end CoffeeTree
