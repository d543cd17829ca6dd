import CoffeeTree.Text.Digit
import CoffeeTree.Text.Limits
import CoffeeTree.Text.Scan
import CoffeeTree.Toml.Basic

/-!
# Reading strings, numbers and moments of time in TOML

Scanners for the values that hold no other values. Each returns what it leaves, with the fact that
this is shorter than what it was given. A scanner that fails says nothing more.
-/

namespace CoffeeTree.Toml

open Text (Scanned isAsciiDigit length_dropWhile_le)

/-- A scanner's answer on a text. -/
abbrev Scan (α : Type) (text : List Char) := Option (Scanned α text.length)

def isBlank (c : Char) : Bool := c = ' ' || c = '\t'

def isBlankOrFeed (c : Char) : Bool := isBlank c || c = '\n'

def skipBlanks (text : List Char) : List Char := text.dropWhile isBlank

theorem length_skipBlanks_le (text : List Char) : (skipBlanks text).length ≤ text.length :=
  length_dropWhile_le text

/-- The control characters that no string and no comment may hold. -/
def isForbidden (c : Char) : Bool := c.toNat < 0x20 && c ≠ '\t' || c.toNat = 0x7F

/-! ### Strings -/

/-- What a letter after a backslash stands for. -/
def escaped? (c : Char) : Option Char :=
  match c with
  | 'b' => some '\x08'
  | 't' => some '\t'
  | 'n' => some '\n'
  | 'f' => some '\x0c'
  | 'r' => some '\r'
  | '"' => some '"'
  | '\\' => some '\\'
  | _ => none

/-- A character written with the given number of hexadecimal digits. -/
def scanCode (digits : Nat) (text : List Char) : Option (Char × List Char) :=
  if text.length < digits then none
  else do
    let n ← Text.numeral? 16 (text.take digits)
    if n.isValidChar then some (Char.ofNat n, text.drop digits) else none

theorem length_scanCode_le {digits : Nat} {text rest : List Char} {c : Char}
    (h : scanCode digits text = some (c, rest)) : rest.length ≤ text.length := by
  rw [scanCode] at h
  split at h
  · contradiction
  · obtain ⟨n, -, h⟩ := Option.bind_eq_some_iff.1 h
    split at h
    · simp only [Option.some.injEq, Prod.mk.injEq] at h
      rw [← h.2, List.length_drop]
      omega
    · contradiction

/-- The blanks and line feeds that a backslash at the end of a line swallows. -/
def afterLineEnd? (text : List Char) : Option (List Char) :=
  match skipBlanks text with
  | [] => some []
  | '\n' :: rest => some (rest.dropWhile isBlankOrFeed)
  | _ => none

theorem length_afterLineEnd?_le {text rest : List Char} (h : afterLineEnd? text = some rest) :
    rest.length ≤ text.length := by
  have hle := length_skipBlanks_le text
  rw [afterLineEnd?] at h
  split at h
  · simp_all
  · rename_i after heq
    have := length_dropWhile_le (p := isBlankOrFeed) after
    simp_all
    omega
  · contradiction

/-- What stands behind a backslash. -/
def scanEscape (multiline : Bool) (text : List Char) : Scan (List Char) text :=
  match text with
  | [] => none
  | 'u' :: rest =>
    match h : scanCode 4 rest with
    | none => none
    | some (c, after) => some ⟨[c], after, Nat.lt_succ_of_le (length_scanCode_le h)⟩
  | 'U' :: rest =>
    match h : scanCode 8 rest with
    | none => none
    | some (c, after) => some ⟨[c], after, Nat.lt_succ_of_le (length_scanCode_le h)⟩
  | c :: rest =>
    if multiline && c = '\n' then
      some ⟨[], rest.dropWhile isBlankOrFeed, Nat.lt_succ_of_le (length_dropWhile_le rest)⟩
    else if multiline && isBlank c then
      match h : afterLineEnd? rest with
      | none => none
      | some after => some ⟨[], after, Nat.lt_succ_of_le (length_afterLineEnd?_le h)⟩
    else (escaped? c).map fun meaning ↦ .here [meaning] rest

/-- The rest of a string in double quotes, or in three of them. -/
def scanBasic (multiline : Bool) (text : List Char) : Scan (List Char) text :=
  match text with
  | [] => none
  | '"' :: rest =>
    if multiline then
      match rest with
      | '"' :: '"' :: after => some ((Scanned.here [] after).back 2)
      | rest => (scanBasic multiline rest).map fun s ↦ (s.map ('"' :: ·)).back 1
    else some (.here [] rest)
  | '\\' :: rest =>
    match scanEscape multiline rest with
    | none => none
    | some s =>
      (scanBasic multiline s.rest).map fun t ↦ (s.after (t.map (s.value ++ ·))).back 1
  | c :: rest =>
    if isForbidden c && !(multiline && c = '\n') then none
    else (scanBasic multiline rest).map fun s ↦ (s.map (c :: ·)).back 1
termination_by text.length
decreasing_by
  · exact Nat.lt_succ_self _
  · exact Nat.lt_succ_of_lt s.shorter
  · exact Nat.lt_succ_self _

/-- The rest of a string in single quotes, or in three of them. -/
def scanLiteral (multiline : Bool) (text : List Char) : Scan (List Char) text :=
  match text with
  | [] => none
  | '\'' :: rest =>
    if multiline then
      match rest with
      | '\'' :: '\'' :: after => some ((Scanned.here [] after).back 2)
      | rest => (scanLiteral multiline rest).map fun s ↦ (s.map ('\'' :: ·)).back 1
    else some (.here [] rest)
  | c :: rest =>
    if isForbidden c && !(multiline && c = '\n') then none
    else (scanLiteral multiline rest).map fun s ↦ (s.map (c :: ·)).back 1
termination_by text.length
decreasing_by
  · exact Nat.lt_succ_self _
  · exact Nat.lt_succ_self _

/-- Up to two quotes right before the closing three belong to the string. -/
def withExtraQuotes (quote : Char) {n : Nat} (s : Scanned (List Char) n) : Scanned (List Char) n :=
  match s.drop? quote with
  | none => s
  | some one =>
    match one.drop? quote with
    | none => one.map (· ++ [quote])
    | some two => two.map (· ++ [quote, quote])

/-- A line feed right after three opening quotes is left out. -/
def dropFirstFeed : List Char → List Char
  | '\n' :: rest => rest
  | text => text

theorem length_dropFirstFeed_le (text : List Char) :
    (dropFirstFeed text).length ≤ text.length := by
  cases text with
  | nil => simp [dropFirstFeed]
  | cons c rest =>
    rw [dropFirstFeed.eq_def]
    split <;> simp_all

/-- A string of any kind. -/
def scanString (text : List Char) : Scan (List Char) text :=
  match text with
  | '"' :: '"' :: '"' :: rest =>
    (scanBasic true (dropFirstFeed rest)).map fun s ↦
      ((withExtraQuotes '"' s).weaken (length_dropFirstFeed_le rest)).back 3
  | '\'' :: '\'' :: '\'' :: rest =>
    (scanLiteral true (dropFirstFeed rest)).map fun s ↦
      ((withExtraQuotes '\'' s).weaken (length_dropFirstFeed_le rest)).back 3
  | '"' :: rest => (scanBasic false rest).map (·.back 1)
  | '\'' :: rest => (scanLiteral false rest).map (·.back 1)
  | _ => none

/-! ### Numbers -/

/-- The digits of a number from the second one on. One underscore may stand between two digits. -/
def splitDigits (isDigit : Char → Bool) : List Char → List Char × List Char
  | '_' :: d :: rest =>
    if isDigit d then
      let (digits, after) := splitDigits isDigit rest
      (d :: digits, after)
    else ([], '_' :: d :: rest)
  | d :: rest =>
    if isDigit d then
      let (digits, after) := splitDigits isDigit rest
      (d :: digits, after)
    else ([], d :: rest)
  | [] => ([], [])

/-- One digit or more. -/
def splitDigits? (isDigit : Char → Bool) : List Char → Option (List Char × List Char)
  | [] => none
  | d :: rest =>
    if isDigit d then
      let (digits, after) := splitDigits isDigit rest
      some (d :: digits, after)
    else none

def splitSign : List Char → Bool × List Char
  | '-' :: rest => (true, rest)
  | '+' :: rest => (false, rest)
  | text => (false, text)

/-- The digits before the point. Only a single zero starts with a zero. -/
def splitWhole? : List Char → Option (List Char × List Char)
  | '0' :: rest => some (['0'], rest)
  | text => splitDigits? isAsciiDigit text

def splitFraction (text : List Char) : List Char × List Char :=
  match text with
  | '.' :: rest => (splitDigits? isAsciiDigit rest).getD ([], text)
  | _ => ([], text)

/-- The exponent and whether there is one. -/
def splitExponent (text : List Char) : Option Int × List Char :=
  match text with
  | [] => (none, [])
  | e :: rest =>
    if e = 'e' || e = 'E' then
      let (negative, unsigned) := splitSign rest
      match splitDigits? isAsciiDigit unsigned with
      | none => (none, text)
      | some (digits, after) =>
        let n : Nat := (Text.numeral? 10 digits).getD 0
        (some (if negative then -n else n), after)
    else (none, text)

/-- A decimal number: whole if it has neither a fraction nor an exponent. A whole one must not have
too many digits. -/
def splitDecimal? (text : List Char) : Option (Toml × List Char) := do
  let (negative, unsigned) := splitSign text
  let (whole, afterWhole) ← splitWhole? unsigned
  let (fraction, afterFraction) := splitFraction afterWhole
  let (exponent, rest) := splitExponent afterFraction
  let digits := (Text.numeral? 10 (whole ++ fraction)).getD 0
  if fraction.isEmpty && exponent.isNone then
    if Text.maxDigits < whole.length then none
    else some (.int (if negative then -digits else digits), rest)
  else some (.float (.ofDecimal negative digits (exponent.getD 0 - fraction.length)), rest)

/-- The base that a letter after a zero announces. -/
def base? (c : Char) : Option Nat :=
  match c with
  | 'x' => some 16
  | 'o' => some 8
  | 'b' => some 2
  | _ => none

/-- A whole number in another base. -/
def splitBased? : List Char → Option (Toml × List Char)
  | '0' :: letter :: rest => do
    let base ← base? letter
    let (digits, after) ← splitDigits? (fun c ↦ (Text.digitIn? base c).isSome) rest
    let n ← Text.numeral? base digits
    some (.int n, after)
  | _ => none

/-- The numbers that are written as words. -/
def splitWord? (text : List Char) : Option (Toml × List Char) :=
  let (negative, unsigned) := splitSign text
  match unsigned with
  | 'i' :: 'n' :: 'f' :: rest => some (.float (.infinite negative), rest)
  | 'n' :: 'a' :: 'n' :: rest => some (.float .nan, rest)
  | _ => none

/-! ### Moments of time -/

/-- Two digits. -/
def splitPair? : List Char → Option (Nat × List Char)
  | a :: b :: rest => do
    if isAsciiDigit a && isAsciiDigit b then some (← Text.numeral? 10 [a, b], rest) else none
  | _ => none

/-- Two digits below a limit, behind a mark. -/
def splitPairAfter? (mark : Char) (limit : Nat) : List Char → Option (Nat × List Char)
  | [] => none
  | c :: rest =>
    if c = mark then (splitPair? rest).filter (·.1 < limit) else none

/-- What a time of day leaves. -/
def afterTime? (text : List Char) : Option (List Char) := do
  let (hour, afterHour) ← splitPair? text
  if hour < 24 then
    let (_, afterMinute) ← splitPairAfter? ':' 60 afterHour
    let (_, rest) ← splitPairAfter? ':' 60 afterMinute
    match rest with
    | '.' :: d :: more =>
      if isAsciiDigit d then some (more.dropWhile isAsciiDigit) else some rest
    | _ => some rest
  else none

/-- What an offset from universal time leaves, if there is one. -/
def afterOffset (text : List Char) : List Char :=
  match text with
  | [] => []
  | c :: rest =>
    if c = 'Z' || c = 'z' then rest
    else if c = '+' || c = '-' then
      match splitPair? rest with
      | none => text
      | some (hour, afterHour) =>
        match splitPairAfter? ':' 60 afterHour with
        | none => text
        | some (_, after) => if hour < 24 then after else text
    else text

def isLeapYear (year : Nat) : Bool := year % 4 = 0 && (year % 100 ≠ 0 || year % 400 = 0)

def daysIn (year month : Nat) : Nat :=
  if month = 2 then if isLeapYear year then 29 else 28
  else if month = 4 || month = 6 || month = 9 || month = 11 then 30
  else 31

/-- A date: its year, its month, its day and what it leaves. The month and the day are only known to
look like ones. -/
def splitDate? (text : List Char) : Option (Nat × Nat × Nat × List Char) := do
  let (century, afterCentury) ← splitPair? text
  let (year, afterYear) ← splitPair? afterCentury
  let (month, afterMonth) ← splitPairAfter? '-' 13 afterYear
  let (day, rest) ← splitPairAfter? '-' 32 afterMonth
  if 1 ≤ month && 1 ≤ day then some (100 * century + year, month, day, rest) else none

/-- What the time behind a date leaves, if there is one. -/
def afterDateTime (text : List Char) : List Char :=
  match text with
  | [] => []
  | c :: rest =>
    if c = 'T' || c = 't' || c = ' ' then
      match afterTime? rest with
      | none => text
      | some after => afterOffset after
    else text

/-- What a text starts with that is written like a moment of time. -/
inductive Moment where
  | none
  /-- The date does not exist. -/
  | impossible
  | found (rest : List Char)

def splitMoment (text : List Char) : Moment :=
  match splitDate? text with
  | some (year, month, day, rest) =>
    if 1 ≤ year && day ≤ daysIn year month then .found (afterDateTime rest) else .impossible
  | none =>
    match afterTime? text with
    | some rest => .found rest
    | none => .none

/-- A moment of time or a number. -/
def split? (text : List Char) : Option (Toml × List Char) :=
  match splitMoment text with
  | .impossible => none
  | .found rest =>
    some (.moment (String.ofList (text.take (text.length - rest.length))), rest)
  | .none =>
    (splitBased? text).orElse fun _ ↦
      (splitDecimal? text).orElse fun _ ↦ splitWord? text

/-- A moment of time or a number, which take up at least one character. -/
def scanScalar (text : List Char) : Scan Toml text :=
  match split? text with
  | none => none
  | some (value, rest) => if h : rest.length < text.length then some ⟨value, rest, h⟩ else none

end CoffeeTree.Toml
