/-!
# Double precision numbers, exactly

A finite double is a sign, a mantissa below `2 ^ 53` and a binary exponent. Its value is
`mantissa * 2 ^ exponent`, so everything about it can be computed with integers: reading a decimal
rounds the exact quotient to the nearest double, ties to the even mantissa, and a double that is an
integer gives that integer back.

Rounding keeps the representation unique: the mantissa has 53 bits unless the exponent is the least
one, `-1074`.
-/

namespace CoffeeTree

/-- A double precision number. -/
inductive Binary64 where
  | nan
  | infinite (negative : Bool)
  /-- The number `mantissa * 2 ^ exponent` with a sign. -/
  | finite (negative : Bool) (mantissa : Nat) (exponent : Int)
  deriving DecidableEq, Repr, Inhabited

namespace Binary64

/-- The exponent of the smallest positive double. -/
def leastExponent : Int := -1074

/-- The exponent of the greatest finite double. -/
def greatestExponent : Int := 971

/-- The integer nearest to `num / den`, the even one of two equally near. -/
def roundQuotient (num den : Nat) : Nat :=
  let q := num / den
  let r := num % den
  if 2 * r < den then q
  else if den < 2 * r then q + 1
  else if q % 2 = 0 then q else q + 1

/-- The greatest `e` with `2 ^ e ≤ num / den`, for positive `num` and `den`. -/
def binaryExponent (num den : Nat) : Int :=
  let e : Int := (num.log2 : Int) - den.log2
  if den * Nat.pow 2 e.toNat ≤ num * Nat.pow 2 (-e).toNat then e else e - 1

/-- The double nearest to `num / den`. A quotient that rounds beyond the greatest double is
infinite. -/
def ofRatio (negative : Bool) (num den : Nat) : Binary64 :=
  if num = 0 then finite negative 0 leastExponent
  else
    let e := max (binaryExponent num den - 52) leastExponent
    let m := roundQuotient (num * Nat.pow 2 (-e).toNat) (den * Nat.pow 2 e.toNat)
    let (m, e) := if m = Nat.pow 2 53 then (Nat.pow 2 52, e + 1) else (m, e)
    if greatestExponent < e then infinite negative else finite negative m e

/-- How many decimal digits a number has. Zero has one. -/
def digitCount (n : Nat) : Nat := (Nat.toDigits 10 n).length

/-- The double nearest to `digits * 10 ^ exponent`. Far outside the range of doubles the answer is
settled by the number of digits, so an exponent of any size is fine. -/
def ofDecimal (negative : Bool) (digits : Nat) (exponent : Int) : Binary64 :=
  let magnitude := (digitCount digits : Int) + exponent
  if digits = 0 || magnitude < -400 then finite negative 0 leastExponent
  else if 400 < magnitude then infinite negative
  else ofRatio negative (digits * Nat.pow 10 exponent.toNat) (Nat.pow 10 (-exponent).toNat)

/-- The integer that a double is, if it is one. -/
def toInt? : Binary64 → Option Int
  | finite negative mantissa exponent =>
    let scale := Nat.pow 2 (-exponent).toNat
    if mantissa % scale = 0 then
      let n : Int := (mantissa / scale * Nat.pow 2 exponent.toNat : Nat)
      some (if negative then -n else n)
    else none
  | _ => none

end Binary64

end CoffeeTree
