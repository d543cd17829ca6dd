import CoffeeTree.Text.Digit
import CoffeeTree.Text.Encoding
import CoffeeTree.Text.Scan

/-!
# String literals

A literal in quotes denotes a string. It is decoded in two stages.

* `dropUnknownEscapes` removes each backslash in front of a character that has no meaning after one.
* `evaluate?` reads what is left as a sequence of *parts*, each of which is a text in single or
  triple quotes, and joins them. Blanks, and line feeds behind a backslash, may stand between the
  parts; each part may be marked as raw, which takes its backslashes literally; and a comment may
  follow the last part.

A text that does not have this form denotes no string.
-/

namespace CoffeeTree.Literal

open Text (Scanned)

def isQuote (c : Char) : Bool := c = '\'' || c = '"'

/-- The characters that mean something after a backslash. -/
def isKnownEscape (c : Char) : Bool :=
  c = 'b' || c = 'f' || c = 'n' || c = 'r' || c = 't' || c = 'v' || c = '0' || c = 'x' || c = 'u' ||
    isQuote c || c = '\\' || c = '\n'

/-- Removes the backslash from each pair of a backslash and a character that means nothing after
one. -/
def dropUnknownEscapes : List Char → List Char
  | [] => []
  | '\\' :: c :: rest =>
    if isKnownEscape c then '\\' :: c :: dropUnknownEscapes rest else c :: dropUnknownEscapes rest
  | c :: rest => c :: dropUnknownEscapes rest

/-! ### Escapes -/

/-- The code points that the text of a part denotes. A zero starts an escape of up to three octal
digits. -/
def unescape? : List Char → Option (List Nat)
  | [] => some []
  | '\\' :: '\n' :: rest => unescape? rest
  | '\\' :: 'b' :: rest => (unescape? rest).map (0x08 :: ·)
  | '\\' :: 'f' :: rest => (unescape? rest).map (0x0C :: ·)
  | '\\' :: 'n' :: rest => (unescape? rest).map (0x0A :: ·)
  | '\\' :: 'r' :: rest => (unescape? rest).map (0x0D :: ·)
  | '\\' :: 't' :: rest => (unescape? rest).map (0x09 :: ·)
  | '\\' :: 'v' :: rest => (unescape? rest).map (0x0B :: ·)
  | '\\' :: 'x' :: a :: b :: rest => do
    let n ← Text.numeral? 16 [a, b]
    (unescape? rest).map (n :: ·)
  | '\\' :: 'u' :: a :: b :: c :: d :: rest => do
    let n ← Text.numeral? 16 [a, b, c, d]
    (unescape? rest).map (n :: ·)
  | '\\' :: '0' :: a :: rest =>
    match Text.digitIn? 8 a with
    | none => (unescape? (a :: rest)).map (0 :: ·)
    | some m =>
      match rest with
      | [] => some [m]
      | b :: rest =>
        match Text.digitIn? 8 b with
        | none => (unescape? (b :: rest)).map (m :: ·)
        | some n => (unescape? rest).map ((8 * m + n) :: ·)
  | ['\\', '0'] => some [0]
  | '\\' :: c :: rest =>
    if isQuote c || c = '\\' then (unescape? rest).map (c.toNat :: ·) else none
  | c :: rest => (unescape? rest).map (c.toNat :: ·)

/-! ### Parts -/

/-- What the opening of a part tells. -/
structure Opening where
  raw : Bool
  quote : Char
  rest : List Char

/-- The opening of a part: a quote, with one letter before it at most. -/
def opening? : List Char → Option Opening
  | [] => none
  | c :: rest =>
    if isQuote c then some ⟨false, c, rest⟩
    else
      match rest with
      | [] => none
      | quote :: rest' =>
        if !isQuote quote then none
        else if c = 'r' || c = 'R' then some ⟨true, quote, rest'⟩
        else if c = 'u' || c = 'U' then some ⟨false, quote, rest'⟩
        else none

theorem length_opening?_lt {text : List Char} {o : Opening} (h : opening? text = some o) :
    o.rest.length < text.length := by
  unfold opening? at h
  split at h
  · simp at h
  · split at h
    · simp only [Option.some.injEq] at h
      simp [← h]
    · split at h
      · simp at h
      · split at h
        · simp at h
        · split at h
          · simp only [Option.some.injEq] at h
            simp only [← h, List.length_cons]
            omega
          · split at h
            · simp only [Option.some.injEq] at h
              simp only [← h, List.length_cons]
              omega
            · simp at h

/-- What scanning a part leaves is no longer than what it is given, so `shorter` counts one more
character. -/
abbrev Part (text : List Char) := Scanned (List Char) (text.length + 1)

/-- The text up to a single quote, on one line. -/
def scanSingle (quote : Char) : (text : List Char) → Option (Part text)
  | [] => none
  | '\\' :: c :: rest =>
    (scanSingle quote rest).map fun s ↦ (s.map fun inner ↦ '\\' :: c :: inner).back 2
  | c :: rest =>
    if c = quote then some ((Scanned.here [] rest).back 1)
    else if c = '\n' || c = '\\' then none
    else (scanSingle quote rest).map fun s ↦ (s.map (c :: ·)).back 1

/-- The text up to three quotes in a row. -/
def scanTriple (quote : Char) : (text : List Char) → Option (Part text)
  | [] => none
  | '\\' :: c :: rest =>
    (scanTriple quote rest).map fun s ↦ (s.map fun inner ↦ '\\' :: c :: inner).back 2
  | c :: rest =>
    if [quote, quote, quote].isPrefixOf (c :: rest) then
      some (((Scanned.here [] (rest.drop 2)).weaken
        (Nat.succ_le_succ (Text.length_drop_le 2 rest))).back 1)
    else if c = '\\' then none
    else (scanTriple quote rest).map fun s ↦ (s.map (c :: ·)).back 1

/-- The text of a part after its opening quote. Two quotes in a row are an empty part unless a third
one follows. -/
def scanPart (quote : Char) (text : List Char) : Option (Part text) :=
  match text with
  | a :: b :: rest =>
    if a = quote && b = quote then (scanTriple quote rest).map (·.back 2)
    else scanSingle quote (a :: b :: rest)
  | text => scanSingle quote text

/-- Passes over what may stand between two parts. -/
def skipGap : List Char → List Char
  | '\\' :: '\n' :: rest => skipGap rest
  | c :: rest => if c = ' ' || c = '\t' || c = '\x0c' then skipGap rest else c :: rest
  | [] => []

theorem length_skipGap_le (text : List Char) : (skipGap text).length ≤ text.length := by
  fun_induction skipGap text with
  | case1 rest ih =>
    simp only [List.length_cons]
    omega
  | case2 c rest _ h ih =>
    simp only [List.length_cons]
    omega
  | case3 => simp
  | case4 => simp

/-- Whether there are only blanks and comments. The text starts inside a comment if `comment` is
set. -/
def blankLines (comment : Bool) : List Char → Bool
  | [] => true
  | '\n' :: rest => blankLines false rest
  | '\\' :: '\n' :: rest => blankLines false rest
  | c :: rest =>
    if comment || c = '#' then blankLines true rest
    else (c = ' ' || c = '\t' || c = '\x0c') && blankLines false rest

/-- A part that is not the first one starts behind the opening of the one before it. -/
theorem length_nextPart_lt {text next : List Char} {o : Opening} (opened : opening? text = some o)
    (part : Part o.rest) (gap : skipGap part.rest = next) : next.length < text.length := by
  have h₁ := length_opening?_lt opened
  have h₂ := part.shorter
  have h₃ := length_skipGap_le part.rest
  rw [gap] at h₃
  omega

/-- The code points of a sequence of parts. -/
def parts? (text : List Char) : Option (List Nat) :=
  match _opened : opening? text with
  | none => none
  | some o =>
    match scanPart o.quote o.rest with
    | none => none
    | some part => do
      let codes ← if o.raw then some (part.value.map Char.toNat) else unescape? part.value
      match _gap : skipGap part.rest with
      | [] => some codes
      | c :: rest =>
        if c = '\n' || c = '#' then if blankLines (c = '#') rest then some codes else none
        else (parts? (c :: rest)).map (codes ++ ·)
termination_by text.length
decreasing_by exact length_nextPart_lt _opened part _gap

/-- The string that code points denote, where a surrogate pair is one character. -/
def charsOfCodes (codes : List Nat) : List Char :=
  (Text.charsOfUnits16 .lenient codes).getD []

/-- The string that a quoted text denotes after the first stage. No text with a NUL denotes one. -/
def evaluate? (text : List Char) : Option (List Char) :=
  if text.contains '\x00' then none else (parts? (Text.unifyLineEnds text)).map charsOfCodes

/-- The string that a literal denotes. It has to start and end with the same quote. -/
def string? (text : List Char) : Option (List Char) :=
  match text with
  | first :: _ :: _ =>
    if isQuote first && text.getLast? = some first then evaluate? (dropUnknownEscapes text)
    else none
  | _ => none

end CoffeeTree.Literal
