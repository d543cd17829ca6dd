import CoffeeTree.Json.Basic
import CoffeeTree.Source
import CoffeeTree.Text.Digit
import CoffeeTree.Text.Limits
import CoffeeTree.Text.Scan

/-!
# Reading JSON text

A recursive descent over the characters that remain. Each scanner returns what it leaves, together
with the fact that this is shorter than what it was given, which is what makes the descent end.
A scanner that is stuck at a problem returns it with the text that remained where it arose; the
offset of the problem is the length of the whole text less the length of that remainder.

The language is JSON with three further words for numbers, `NaN`, `Infinity` and `-Infinity`. Blanks
are the space, the tab, the line feed and the carriage return.

Two texts of the language are not read. An integer may have too many digits, and an escape may give
half of a surrogate pair, which is no character. Neither is an error of syntax.
-/

namespace CoffeeTree.Json

open Text (Scanned isAsciiDigit length_dropWhile_le scanChar?)

/-- What is wrong with a JSON text. -/
inductive Problem where
  | byteOrderMark
  | expectingValue
  | expectingName
  | expectingColon
  | expectingComma
  | unterminatedString
  | controlCharacter
  | badEscape
  | badUnicodeEscape
  | extraData
  deriving DecidableEq, Repr

def Problem.text : Problem → String
  | .byteOrderMark => "Unexpected UTF-8 BOM (decode using utf-8-sig)"
  | .expectingValue => "Expecting value"
  | .expectingName => "Expecting property name enclosed in double quotes"
  | .expectingColon => "Expecting ':' delimiter"
  | .expectingComma => "Expecting ',' delimiter"
  | .unterminatedString => "Unterminated string starting at"
  | .controlCharacter => "Invalid control character at"
  | .badEscape => "Invalid \\escape"
  | .badUnicodeEscape => "Invalid \\uXXXX escape"
  | .extraData => "Extra data"

/-- A problem and the offset at which it was found. -/
structure SyntaxError where
  problem : Problem
  position : Position Nat
  offset : Nat
  deriving DecidableEq, Repr

/-- Lines and columns count from one, the offset from zero. -/
def SyntaxError.message (e : SyntaxError) : String :=
  s!"{e.problem.text}: line {e.position.line + 1} column {e.position.column + 1} (char {e.offset})"

/-- Why a JSON text was not read. -/
inductive TextError where
  | malformed (error : SyntaxError)
  /-- An integer has this many digits. -/
  | overlong (digits : Nat)
  /-- Half of a surrogate pair is written as an escape. -/
  | halfPair
  deriving DecidableEq, Repr

/-- Where a scanner got stuck: at a problem, with the text that remained there, or at something that
is not read. -/
inductive Stuck where
  | problem (problem : Problem) (remaining : List Char)
  | overlong (digits : Nat)
  | halfPair

/-- A scanner's answer on a text. -/
abbrev Scan (α : Type) (text : List Char) := Except Stuck (Scanned α text.length)

def isBlank (c : Char) : Bool := c = ' ' || c = '\t' || c = '\n' || c = '\r'

def skipBlanks (text : List Char) : List Char := text.dropWhile isBlank

theorem length_skipBlanks_le (text : List Char) : (skipBlanks text).length ≤ text.length :=
  length_dropWhile_le text

/-! ### Strings -/

def isHighSurrogate (n : Nat) : Bool := 0xD800 ≤ n && n ≤ 0xDBFF

def isLowSurrogate (n : Nat) : Bool := 0xDC00 ≤ n && n ≤ 0xDFFF

/-- The character that a surrogate pair stands for. -/
def joinSurrogates (high low : Nat) : Char :=
  Char.ofNat (0x10000 + (high - 0xD800) * 0x400 + (low - 0xDC00))

/-- A code unit as a character. Half of a surrogate pair is none. -/
def charOfUnit? (n : Nat) : Option Char :=
  if isHighSurrogate n || isLowSurrogate n then none else some (Char.ofNat n)

/-- What a letter after a backslash stands for. -/
def escaped? (c : Char) : Option Char :=
  match c with
  | '"' => some '"'
  | '\\' => some '\\'
  | '/' => some '/'
  | 'b' => some '\x08'
  | 'f' => some '\x0c'
  | 'n' => some '\n'
  | 'r' => some '\r'
  | 't' => some '\t'
  | _ => none

/-- The rest of a string whose opening quote is the first character of `opening`. The four digits
of a `\u` escape have to be followed by one more character. -/
def scanString (opening text : List Char) : Scan (List Char) text :=
  match text with
  | [] => .error (.problem .unterminatedString opening)
  | '"' :: rest => .ok (.here [] rest)
  | '\\' :: 'u' :: a :: b :: c :: d :: next :: rest =>
    match Text.numeral? 16 [a, b, c, d] with
    | none => .error (.problem .badUnicodeEscape ('u' :: a :: b :: c :: d :: next :: rest))
    | some unit =>
      match charOfUnit? unit with
      | some meaning =>
        (scanString opening (next :: rest)).map fun s ↦ (s.map (meaning :: ·)).back 6
      | none =>
        match next, rest with
        | '\\', 'u' :: a' :: b' :: c' :: d' :: next' :: rest' =>
          match Text.numeral? 16 [a', b', c', d'] with
          | none =>
            .error (.problem .badUnicodeEscape ('u' :: a' :: b' :: c' :: d' :: next' :: rest'))
          | some low =>
            if isHighSurrogate unit && isLowSurrogate low then
              (scanString opening (next' :: rest')).map fun s ↦
                (s.map (joinSurrogates unit low :: ·)).back 12
            else .error .halfPair
        | _, _ => .error .halfPair
  | '\\' :: 'u' :: rest => .error (.problem .badUnicodeEscape ('u' :: rest))
  | '\\' :: c :: rest =>
    match escaped? c with
    | none => .error (.problem .badEscape ('\\' :: c :: rest))
    | some meaning => (scanString opening rest).map fun s ↦ (s.map (meaning :: ·)).back 2
  | ['\\'] => .error (.problem .unterminatedString opening)
  | c :: rest =>
    if c.toNat ≤ 0x1F then .error (.problem .controlCharacter (c :: rest))
    else (scanString opening rest).map fun s ↦ (s.map (c :: ·)).back 1
termination_by text.length

/-! ### Numbers -/

/-- The number that decimal digits denote. -/
def digitsValue (digits : List Char) : Nat := (Text.numeral? 10 digits).getD 0

/-- The whole part of a number, which has no leading zero, and what follows it. -/
def splitWhole? : List Char → Option (List Char × List Char)
  | '0' :: rest => some (['0'], rest)
  | c :: rest =>
    if isAsciiDigit c then
      some (c :: rest.takeWhile isAsciiDigit, rest.dropWhile isAsciiDigit)
    else none
  | [] => none

/-- The digits of a fraction, and what follows it. A point without digits is no fraction. -/
def splitFraction (text : List Char) : List Char × List Char :=
  match text with
  | '.' :: rest =>
    if (rest.takeWhile isAsciiDigit).isEmpty then ([], text)
    else (rest.takeWhile isAsciiDigit, rest.dropWhile isAsciiDigit)
  | _ => ([], text)

/-- Whether a minus sign comes first, and what follows the sign. -/
def splitSign : List Char → Bool × List Char
  | '-' :: rest => (true, rest)
  | '+' :: rest => (false, rest)
  | text => (false, text)

def signed (negative : Bool) (n : Nat) : Int := if negative then -n else n

/-- The exponent, and what follows it. A mark without digits is no exponent. -/
def splitExponent (text : List Char) : Option Int × List Char :=
  match text with
  | mark :: rest =>
    let (negative, digits) := splitSign rest
    let power := digits.takeWhile isAsciiDigit
    if (mark = 'e' || mark = 'E') && !power.isEmpty then
      (some (signed negative (digitsValue power)), digits.dropWhile isAsciiDigit)
    else (none, text)
  | [] => (none, text)

theorem length_splitWhole?_lt {text whole rest : List Char}
    (h : splitWhole? text = some (whole, rest)) : rest.length < text.length := by
  unfold splitWhole? at h
  split at h
  · simp only [Option.some.injEq, Prod.mk.injEq] at h
    simp [← h.2]
  · rename_i c tail _
    split at h
    · simp only [Option.some.injEq, Prod.mk.injEq] at h
      rw [← h.2]
      have := length_dropWhile_le (p := isAsciiDigit) tail
      simp only [List.length_cons]
      omega
    · simp at h
  · simp at h

theorem length_splitFraction_le (text : List Char) :
    (splitFraction text).2.length ≤ text.length := by
  unfold splitFraction
  split
  · rename_i rest
    split
    · simp
    · have := length_dropWhile_le (p := isAsciiDigit) rest
      simp only [List.length_cons]
      omega
  · simp

theorem length_splitSign_le (text : List Char) : (splitSign text).2.length ≤ text.length := by
  unfold splitSign
  split <;> simp

theorem length_splitExponent_le (text : List Char) :
    (splitExponent text).2.length ≤ text.length := by
  unfold splitExponent
  split
  · rename_i mark rest
    have hs := length_splitSign_le rest
    have hd := length_dropWhile_le (p := isAsciiDigit) (splitSign rest).2
    simp only [List.length_cons]
    split
    · simp only
      omega
    · simp
  · simp

/-- A number as it is written. -/
structure Numeral where
  negative : Bool
  whole : List Char
  /-- The digits behind the point. -/
  fraction : List Char
  exponent : Option Int

/-- The number at the front of a text, and what follows it. -/
def splitNumber? (text : List Char) : Option (Numeral × List Char) :=
  let negative := text.head? = some '-'
  match splitWhole? (if negative then text.tail else text) with
  | none => none
  | some (whole, afterWhole) =>
    let fraction := splitFraction afterWhole
    let exponent := splitExponent fraction.2
    some (⟨negative, whole, fraction.1, exponent.1⟩, exponent.2)

theorem length_splitNumber?_lt {text rest : List Char} {numeral : Numeral}
    (h : splitNumber? text = some (numeral, rest)) : rest.length < text.length := by
  simp only [splitNumber?] at h
  split at h
  · contradiction
  · rename_i whole afterWhole hwhole
    simp only [Option.some.injEq, Prod.mk.injEq] at h
    rw [← h.2]
    have h₀ : (if text.head? = some '-' then text.tail else text).length ≤ text.length := by
      split
      · rw [List.length_tail]
        omega
      · exact Nat.le_refl _
    have h₁ := length_splitWhole?_lt hwhole
    have h₂ := length_splitFraction_le afterWhole
    have h₃ := length_splitExponent_le (splitFraction afterWhole).2
    omega

/-- The value of a number. With a fraction or an exponent it is a floating point number, and
otherwise an integer, which must not have too many digits. -/
def Numeral.value (n : Numeral) : Except Stuck Json :=
  if n.fraction.isEmpty && n.exponent.isNone then
    if Text.maxDigits < n.whole.length then .error (.overlong n.whole.length)
    else .ok (.int (signed n.negative (digitsValue n.whole)))
  else
    .ok (.float (.ofDecimal n.negative (digitsValue (n.whole ++ n.fraction))
      (n.exponent.getD 0 - n.fraction.length)))

/-- A number. -/
def scanNumber (text : List Char) : Scan Json text :=
  match h : splitNumber? text with
  | none => .error (.problem .expectingValue text)
  | some (numeral, rest) =>
    numeral.value.map fun value ↦ ⟨value, rest, length_splitNumber?_lt h⟩

/-! ### Values -/

/-- The words that are values, and what they stand for. -/
def words : List (List Char × Json) :=
  [("null".toList, .null), ("true".toList, .bool true), ("false".toList, .bool false),
    ("NaN".toList, .float .nan), ("Infinity".toList, .float (.infinite false)),
    ("-Infinity".toList, .float (.infinite true))]

/-- The word at the front of a text, and what follows it. -/
def splitWord? (text : List Char) : Option (Json × List Char) :=
  words.findSome? fun (word, value) ↦
    if word.isPrefixOf text then some (value, text.drop word.length) else none

theorem length_splitWord?_lt {text rest : List Char} {value : Json}
    (h : splitWord? text = some (value, rest)) : rest.length < text.length := by
  obtain ⟨⟨word, v⟩, hmem, hword⟩ := List.exists_of_findSome?_eq_some h
  have hpos : 0 < word.length := by
    simp only [words, List.mem_cons, Prod.mk.injEq, List.not_mem_nil, or_false] at hmem
    rcases hmem with ⟨rfl, -⟩ | ⟨rfl, -⟩ | ⟨rfl, -⟩ | ⟨rfl, -⟩ | ⟨rfl, -⟩ | ⟨rfl, -⟩ <;> simp
  simp only [Option.ite_none_right_eq_some, Option.some.injEq, Prod.mk.injEq] at hword
  have hle := (List.isPrefixOf_iff_prefix.1 hword.1).length_le
  rw [← hword.2.2, List.length_drop]
  omega

/-- The bracket that closes an array or an object with nothing in it. -/
def scanClosing? (bracket : Char) (text : List Char) : Option (Scanned Unit text.length) :=
  (scanChar? bracket (skipBlanks text)).map (·.weaken (length_skipBlanks_le text))

mutual

/-- Any value, at its first character. -/
def scanValue (text : List Char) : Scan Json text :=
  match text with
  | '"' :: rest =>
    (scanString ('"' :: rest) rest).map fun s ↦
      (s.map fun chars ↦ .str (String.ofList chars)).back 1
  | '[' :: rest =>
    match scanClosing? ']' rest with
    | some s => .ok ((s.map fun _ ↦ .arr []).back 1)
    | none =>
      (scanItems (skipBlanks rest)).map fun s ↦
        ((s.map .arr).weaken (length_skipBlanks_le rest)).back 1
  | '{' :: rest =>
    match scanClosing? '}' rest with
    | some s => .ok ((s.map fun _ ↦ .obj []).back 1)
    | none =>
      (scanEntries (skipBlanks rest)).map fun s ↦
        ((s.map fun entries ↦ .obj (Entries.ofList entries)).weaken
          (length_skipBlanks_le rest)).back 1
  | text =>
    match h : splitWord? text with
    | some (value, rest) => .ok ⟨value, rest, length_splitWord?_lt h⟩
    | none => scanNumber text
termination_by (text.length, 0)
decreasing_by all_goals exact Prod.Lex.left _ _ (Nat.lt_succ_of_le (length_skipBlanks_le rest))

/-- The items of an array from one of them on, up to and including its bracket. -/
def scanItems (text : List Char) : Scan (List Json) text :=
  match scanValue text with
  | .error e => .error e
  | .ok found =>
    let item := found.skip isBlank
    match item.drop? ']' with
    | some last => .ok (last.map ([·]))
    | none =>
      match item.drop? ',' with
      | none => .error (.problem .expectingComma item.rest)
      | some comma =>
        let next := comma.skip isBlank
        (scanItems next.rest).map fun more ↦ next.after (more.map (next.value :: ·))
termination_by (text.length, 1)
decreasing_by
  · exact Prod.Lex.right _ Nat.zero_lt_one
  · exact Prod.Lex.left _ _ next.shorter

/-- The entries of an object from one of them on, up to and including its brace. -/
def scanEntries (text : List Char) : Scan (List (String × Json)) text :=
  match text with
  | '"' :: opened =>
    match scanString ('"' :: opened) opened with
    | .error e => .error e
    | .ok string =>
      let name := (string.map String.ofList).skip isBlank
      match name.drop? ':' with
      | none => .error (.problem .expectingColon name.rest)
      | some colon =>
        let start := colon.skip isBlank
        match scanValue start.rest with
        | .error e => .error e
        | .ok found =>
          let entry := (start.after (found.map fun v ↦ (start.value, v))).skip isBlank
          match entry.drop? '}' with
          | some last => .ok ((last.map ([·])).back 1)
          | none =>
            match entry.drop? ',' with
            | none => .error (.problem .expectingComma entry.rest)
            | some comma =>
              let next := comma.skip isBlank
              (scanEntries next.rest).map fun more ↦
                (next.after (more.map (next.value :: ·))).back 1
  | text => .error (.problem .expectingName text)
termination_by (text.length, 1)
decreasing_by
  · exact Prod.Lex.left _ _ (Nat.lt_succ_of_lt start.shorter)
  · exact Prod.Lex.left _ _ (Nat.lt_succ_of_lt next.shorter)

end

/-- The value of a text that holds one, with blanks around it. -/
def scanDocument (text : List Char) : Except Stuck Json :=
  match scanValue (skipBlanks text) with
  | .error e => .error e
  | .ok s =>
    match skipBlanks s.rest with
    | [] => .ok s.value
    | rest => .error (.problem .extraData rest)

/-- The error of a text, where what remained at a problem gives its offset and its position. -/
def Stuck.locate (text : List Char) : Stuck → TextError
  | .problem found remaining =>
    let offset := text.length - remaining.length
    .malformed ⟨found, Text.positionAt text offset, offset⟩
  | .overlong digits => .overlong digits
  | .halfPair => .halfPair

/-- Reads a text that was decoded from bytes, where a byte order mark has already been removed. -/
def parseDecoded (text : List Char) : Except TextError Json :=
  (scanDocument text).mapError (Stuck.locate text)

/-- Reads a JSON text. -/
def parse (text : List Char) : Except TextError Json :=
  if text.head? = some (Char.ofNat 0xFEFF) then
    .error (Stuck.locate text (.problem .byteOrderMark text))
  else parseDecoded text

end CoffeeTree.Json
