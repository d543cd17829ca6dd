/-!
# Texts in bytes

Decoding UTF-8, UTF-16 and UTF-32, and guessing which of them a JSON document is in. Decoding fails
as a whole on the first sequence that is not well formed. A half of a surrogate pair that stands
alone has no character: `strict` refuses it, and `lenient` puts U+FFFD in its place.
-/

namespace CoffeeTree.Text

/-- What to do with half of a surrogate pair. -/
inductive Surrogates where
  | strict
  | lenient
  deriving DecidableEq, Repr

/-- The character with a code point, if the code point may stand in a text. -/
def scalar? (surrogates : Surrogates) (n : Nat) : Option Char :=
  if 0xD800 ≤ n ∧ n ≤ 0xDFFF then
    match surrogates with
    | .strict => none
    | .lenient => some '�'
  else if n ≤ 0x10FFFF then some (Char.ofNat n)
  else none

/-! ### UTF-8 -/

/-- The six bits that a continuation byte carries. -/
def continuation? (b : UInt8) : Option Nat :=
  if 0x80 ≤ b ∧ b ≤ 0xBF then some (b.toNat - 0x80) else none

/-- A code point of two bytes and more, refused when fewer bytes would do. -/
def multibyte? (surrogates : Surrogates) (least : Nat) (lead : Nat) (tail : List UInt8) :
    Option Char := do
  let bits ← tail.mapM continuation?
  let n := bits.foldl (fun acc b ↦ 64 * acc + b) lead
  if n < least then none else scalar? surrogates n

/-- The text of UTF-8 bytes. -/
def decodeUtf8 (surrogates : Surrogates) : List UInt8 → Option (List Char)
  | [] => some []
  | a :: rest =>
    if a < 0x80 then (decodeUtf8 surrogates rest).map (Char.ofNat a.toNat :: ·)
    else if 0xC2 ≤ a ∧ a < 0xE0 then
      match rest with
      | b :: rest => do
        let c ← multibyte? surrogates 0x80 (a.toNat - 0xC0) [b]
        (decodeUtf8 surrogates rest).map (c :: ·)
      | _ => none
    else if 0xE0 ≤ a ∧ a < 0xF0 then
      match rest with
      | b :: c :: rest => do
        let c ← multibyte? surrogates 0x800 (a.toNat - 0xE0) [b, c]
        (decodeUtf8 surrogates rest).map (c :: ·)
      | _ => none
    else if 0xF0 ≤ a ∧ a < 0xF5 then
      match rest with
      | b :: c :: d :: rest => do
        let c ← multibyte? surrogates 0x10000 (a.toNat - 0xF0) [b, c, d]
        (decodeUtf8 surrogates rest).map (c :: ·)
      | _ => none
    else none

/-- The UTF-8 bytes of a text. -/
def encodeUtf8 (text : String) : List UInt8 := text.toUTF8.toList

/-! ### UTF-16 and UTF-32 -/

/-- The order of the bytes of one unit. -/
inductive ByteOrder where
  | big
  | little
  deriving DecidableEq, Repr

/-- The number that the bytes of a unit denote. -/
def ByteOrder.unit (order : ByteOrder) (bytes : List UInt8) : Nat :=
  let bytes := match order with
    | .big => bytes
    | .little => bytes.reverse
  bytes.foldl (fun n b ↦ 256 * n + b.toNat) 0

/-- The sixteen-bit units of a byte sequence. -/
def units16 (order : ByteOrder) : List UInt8 → Option (List Nat)
  | [] => some []
  | a :: b :: rest => (units16 order rest).map (order.unit [a, b] :: ·)
  | _ => none

/-- The thirty-two-bit units of a byte sequence. -/
def units32 (order : ByteOrder) : List UInt8 → Option (List Nat)
  | [] => some []
  | a :: b :: c :: d :: rest => (units32 order rest).map (order.unit [a, b, c, d] :: ·)
  | _ => none

/-- Joins surrogate pairs. -/
def charsOfUnits16 (surrogates : Surrogates) : List Nat → Option (List Char)
  | [] => some []
  | high :: low :: rest =>
    if 0xD800 ≤ high ∧ high ≤ 0xDBFF ∧ 0xDC00 ≤ low ∧ low ≤ 0xDFFF then do
      let c ← scalar? surrogates (0x10000 + (high - 0xD800) * 0x400 + (low - 0xDC00))
      (charsOfUnits16 surrogates rest).map (c :: ·)
    else do
      let c ← scalar? surrogates high
      (charsOfUnits16 surrogates (low :: rest)).map (c :: ·)
  | [unit] => (scalar? surrogates unit).map ([·])

def decodeUtf16 (surrogates : Surrogates) (order : ByteOrder) (bytes : List UInt8) :
    Option (List Char) :=
  (units16 order bytes).bind (charsOfUnits16 surrogates)

def decodeUtf32 (surrogates : Surrogates) (order : ByteOrder) (bytes : List UInt8) :
    Option (List Char) :=
  (units32 order bytes).bind (·.mapM (scalar? surrogates))

/-! ### Documents and files -/

/-- The text of a JSON document. A byte order mark settles the encoding and is dropped; without one
the zero bytes among the first four tell, since a document starts with two ASCII characters. -/
def decodeDocument (bytes : List UInt8) : Option (List Char) :=
  match bytes with
  | 0x00 :: 0x00 :: 0xFE :: 0xFF :: rest => decodeUtf32 .lenient .big rest
  | 0xFF :: 0xFE :: 0x00 :: 0x00 :: rest => decodeUtf32 .lenient .little rest
  | 0xFE :: 0xFF :: rest => decodeUtf16 .lenient .big rest
  | 0xFF :: 0xFE :: rest => decodeUtf16 .lenient .little rest
  | 0xEF :: 0xBB :: 0xBF :: rest => decodeUtf8 .lenient rest
  | a :: b :: c :: d :: _ =>
    if a = 0 then
      if b = 0 then decodeUtf32 .lenient .big bytes else decodeUtf16 .lenient .big bytes
    else if b = 0 then
      if c = 0 ∧ d = 0 then decodeUtf32 .lenient .little bytes
      else decodeUtf16 .lenient .little bytes
    else decodeUtf8 .lenient bytes
  | [a, b] =>
    if a = 0 then decodeUtf16 .lenient .big bytes
    else if b = 0 then decodeUtf16 .lenient .little bytes
    else decodeUtf8 .lenient bytes
  | _ => decodeUtf8 .lenient bytes

/-- Writes every line end as a line feed. -/
def unifyLineEnds : List Char → List Char
  | [] => []
  | '\r' :: '\n' :: rest => '\n' :: unifyLineEnds rest
  | '\r' :: rest => '\n' :: unifyLineEnds rest
  | c :: rest => c :: unifyLineEnds rest

/-- The text of a file: UTF-8, with every line end a line feed. -/
def decodeFile (bytes : List UInt8) : Option (List Char) :=
  (decodeUtf8 .strict bytes).map unifyLineEnds

end CoffeeTree.Text
