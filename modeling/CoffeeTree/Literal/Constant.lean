import CoffeeTree.Literal.Number
import CoffeeTree.Literal.Quoted
import CoffeeTree.Text.Letter

/-!
# Constants

A constant is a number, a string or a sequence of bytes in quotes, one of a few fixed words, or a
tuple, a list, a set or a dictionary of constants. A number may have a sign, and it may be the sum
of a real and an imaginary part.

Only the form of a constant is of interest here, not its value. What has to be known of the value is
its `ConstantKind`: only a number takes a sign or a summand, and members of sets and keys of
dictionaries must be immutable.
-/

namespace CoffeeTree.Literal

open Text (Scanned scanChar?)

/-- What has to be known of a constant. -/
inductive ConstantKind where
  /-- A real number without a sign. -/
  | real
  /-- An imaginary number without a sign. -/
  | imaginary
  /-- A real number with a sign. -/
  | signed
  /-- Anything else that never changes. -/
  | fixed
  /-- A collection that may change, or a tuple that holds one. -/
  | mutable
  deriving DecidableEq, Repr

/-- Whether a constant may be a member of a set or a key of a dictionary. -/
def ConstantKind.isFixed (k : ConstantKind) : Bool := k ≠ .mutable

/-- The kind of a tuple. -/
def ConstantKind.tuple (items : List ConstantKind) : ConstantKind :=
  if items.all isFixed then .fixed else .mutable

/-- What may stand between two tokens. -/
def isGap (c : Char) : Bool := c = ' ' || c = '\t' || c = '\n' || c = '\x0c'

abbrev ScanKind (text : List Char) := Option (Scanned ConstantKind text.length)

/-! ### Numbers -/

/-- Whether a number goes on at a character, where `previous` is the character before it. The
exponent may have a sign. -/
def continuesNumber (hexadecimal : Bool) (previous c : Char) : Bool :=
  Text.isWordCharacter c || c = '.' ||
    !hexadecimal && (previous = 'e' || previous = 'E') && (c = '+' || c = '-')

/-- The characters of a number behind its first one. -/
def takeNumber (hexadecimal : Bool) (previous : Char) : List Char → List Char
  | [] => []
  | c :: rest =>
    if continuesNumber hexadecimal previous c then c :: takeNumber hexadecimal c rest else []

def isHexadecimal : List Char → Bool
  | '0' :: mark :: _ => mark = 'x' || mark = 'X'
  | _ => false

/-- The kind of an unsigned number. Leading zeros are left to numbers with a point, an exponent or
an imaginary unit. -/
def numberKind? (text : List Char) : Option ConstantKind :=
  let unit := text.getLast?.any fun c ↦ c = 'j' || c = 'J'
  if unit && !isHexadecimal text then (double? text.dropLast).map fun _ ↦ .imaginary
  else if (magnitude? text).isSome then some .real
  else if text.any (fun c ↦ c = '.' || c = 'e' || c = 'E') then (double? text).map fun _ ↦ .real
  else none

/-- A number. -/
def scanNumber : (text : List Char) → ScanKind text
  | [] => none
  | c :: rest =>
    let more := takeNumber (isHexadecimal (c :: rest)) c rest
    (numberKind? (c :: more)).map fun kind ↦
      (Scanned.here kind (rest.drop more.length)).weaken
        (Nat.succ_le_succ (Text.length_drop_le more.length rest))

/-! ### Strings and bytes -/

/-- What the letters before a quote tell. -/
structure Marks where
  raw : Bool
  bytes : Bool

/-- The meaning of the letters before a quote. -/
def marks? (letters : List Char) : Option Marks :=
  match String.ofList (letters.map Char.toLower) with
  | "" => some ⟨false, false⟩
  | "u" => some ⟨false, false⟩
  | "r" => some ⟨true, false⟩
  | "b" => some ⟨false, true⟩
  | "br" => some ⟨true, true⟩
  | "rb" => some ⟨true, true⟩
  | _ => none

/-- How many hexadecimal digits belong to an escape. -/
def escapeDigits (bytes : Bool) (c : Char) : Nat :=
  if c = 'x' then 2 else if bytes then 0 else if c = 'u' then 4 else if c = 'U' then 8 else 0

/-- Whether the escapes between the quotes can be read. A backslash before any other character means
nothing, and that is no fault. -/
def escapesValid (bytes : Bool) : List Char → Bool
  | [] => true
  | '\\' :: 'N' :: rest =>
    (bytes || rest.head? = some '{' && rest.contains '}') && escapesValid bytes rest
  | '\\' :: c :: rest =>
    let digits := escapeDigits bytes c
    (rest.take digits).length = digits &&
      (Text.numeral? 16 (rest.take digits)).any (· ≤ 0x10FFFF) && escapesValid bytes rest
  | _ :: rest => escapesValid bytes rest

/-- Whether the text between the quotes of a part can be read. -/
def partValid (marks : Marks) (inner : List Char) : Bool :=
  (marks.raw || escapesValid marks.bytes inner) &&
    (!marks.bytes || inner.all fun c ↦ c.toNat < 128)

theorem length_cons_le_of_drop {n : Nat} {text rest : List Char} {c : Char}
    (h : text.drop n = c :: rest) : rest.length + 1 ≤ text.length := by
  rw [← List.length_cons (a := c), ← h]
  exact Text.length_drop_le n text

/-- A part in quotes, and whether it is a sequence of bytes. -/
def scanQuoted (text : List Char) : Option (Scanned Bool text.length) :=
  let letters := text.takeWhile (!isQuote ·)
  match marks? letters with
  | none => none
  | some marks =>
    match h : text.drop letters.length with
    | [] => none
    | quote :: rest =>
      match scanPart quote rest with
      | none => none
      | some part =>
        if partValid marks part.value then
          some ((part.map fun _ ↦ marks.bytes).weaken (length_cons_le_of_drop h))
        else none

/-- Parts in quotes, one behind the other, which have to be of one sort. -/
def scanStrings (text : List Char) : Option (Scanned Bool text.length) :=
  match scanQuoted text with
  | none => none
  | some found =>
    let part := found.skip isGap
    match scanStrings part.rest with
    | none => if (scanQuoted part.rest).isSome then none else some part
    | some more => if more.value = part.value then some (part.after more) else none
termination_by text.length
decreasing_by exact part.shorter

/-! ### Words -/

/-- A word. Three of them are constants, and one is the name of the empty set, with two parentheses
behind it. -/
def scanWord : (text : List Char) → ScanKind text
  | [] => none
  | c :: rest =>
    let word := String.ofList ((c :: rest).takeWhile Text.isWordCharacter)
    let behind := (Scanned.here ConstantKind.fixed rest).skip Text.isWordCharacter
    if word = "True" || word = "False" || word = "None" then some behind
    else if word = "set" then
      (((behind.skip isGap).drop? '(').bind fun s ↦ (s.skip isGap).drop? ')').map fun s ↦
        s.map fun _ ↦ .mutable
    else none

/-! ### Expressions -/

/-- A number that may have an imaginary part behind it. -/
def isSummand (kind : ConstantKind) : Bool := kind = .real || kind = .signed

def isSign (c : Char) : Bool := c = '+' || c = '-'

/-- The items of a collection, and whether a comma or nothing stands before its bracket. -/
structure Items where
  kinds : List ConstantKind
  isOpen : Bool

/-- The kind of what stands in parentheses: a tuple, unless it is one item without a comma. -/
def Items.inParentheses : Items → ConstantKind
  | ⟨[kind], false⟩ => kind
  | ⟨kinds, _⟩ => .tuple kinds

mutual

/-- Any constant, at its first character. -/
def scanConstant (text : List Char) : ScanKind text :=
  match text with
  | [] => none
  | c :: rest =>
    if isSign c then
      let inner := (Scanned.here () rest).skip isGap
      match scanAtom inner.rest with
      | none => none
      | some s =>
        match s.value with
        | .real => scanSum (c :: rest) (inner.after (s.map fun _ ↦ .signed))
        | .imaginary => some (inner.after (s.map fun _ ↦ .fixed))
        | _ => none
    else
      match scanAtom (c :: rest) with
      | none => none
      | some s => if isSummand s.value then scanSum (c :: rest) s else some s
termination_by (text.length, 2)
decreasing_by
  · exact Prod.Lex.left _ _ inner.shorter
  · exact Prod.Lex.right _ (Nat.lt_succ_self 1)
  · exact Prod.Lex.right _ Nat.zero_lt_two
  · exact Prod.Lex.right _ (Nat.lt_succ_self 1)

/-- The imaginary part behind a real one, if there is one. -/
def scanSum (text : List Char) (first : Scanned ConstantKind text.length) : ScanKind text :=
  let sign := first.skip isGap
  match (sign.drop? '+').or (sign.drop? '-') with
  | none => some first
  | some opened =>
    let inner := opened.skip isGap
    match scanAtom inner.rest with
    | none => none
    | some s => if s.value = .imaginary then some (inner.after (s.map fun _ ↦ .fixed)) else none
termination_by (text.length, 1)
decreasing_by exact Prod.Lex.left _ _ inner.shorter

/-- A constant without a sign that is not a sum, at its first character. -/
def scanAtom (text : List Char) : ScanKind text :=
  match text with
  | [] => none
  | '(' :: rest =>
    let inner := (Scanned.here () rest).skip isGap
    (scanItems ')' inner.rest).map fun s ↦ inner.after (s.map Items.inParentheses)
  | '[' :: rest =>
    let inner := (Scanned.here () rest).skip isGap
    (scanItems ']' inner.rest).map fun s ↦ inner.after (s.map fun _ ↦ .mutable)
  | '{' :: rest =>
    let inner := (Scanned.here () rest).skip isGap
    (scanMembers inner.rest).map fun s ↦ inner.after (s.map fun _ ↦ .mutable)
  | '.' :: '.' :: '.' :: rest => some ((Scanned.here .fixed rest).back 2)
  | c :: rest =>
    if Text.isAsciiDigit c || c = '.' then scanNumber (c :: rest)
    else
      match scanStrings (c :: rest) with
      | some s => some (s.map fun _ ↦ .fixed)
      | none => scanWord (c :: rest)
termination_by (text.length, 0)
decreasing_by all_goals exact Prod.Lex.left _ _ inner.shorter

/-- The items of a collection up to and including its bracket. A comma may stand before the
bracket. -/
def scanItems (bracket : Char) (text : List Char) : Option (Scanned Items text.length) :=
  match scanChar? bracket text with
  | some last => some (last.map fun _ ↦ ⟨[], true⟩)
  | none =>
    match scanConstant text with
    | none => none
    | some found =>
      let item := found.skip isGap
      match item.drop? bracket with
      | some last => some (last.map fun kind ↦ ⟨[kind], false⟩)
      | none =>
        match item.drop? ',' with
        | none => none
        | some comma =>
          let next := comma.skip isGap
          (scanItems bracket next.rest).map fun more ↦
            next.after (more.map fun items ↦ { items with kinds := next.value :: items.kinds })
termination_by (text.length, 3)
decreasing_by
  · exact Prod.Lex.right _ (Nat.lt_succ_self 2)
  · exact Prod.Lex.left _ _ next.shorter

/-- The members of a set or the entries of a dictionary, up to and including the brace. -/
def scanMembers (text : List Char) : Option (Scanned Unit text.length) :=
  match scanChar? '}' text with
  | some last => some last
  | none =>
    match scanConstant text with
    | none => none
    | some found =>
      let member := found.skip isGap
      if !found.value.isFixed then none
      else
        match member.drop? ':' with
        | some colon =>
          let next := colon.skip isGap
          (scanEntry next.rest).map fun s ↦ next.after s
        | none =>
          match member.drop? '}' with
          | some last => some (last.map fun _ ↦ ())
          | none =>
            match member.drop? ',' with
            | none => none
            | some comma =>
              let next := comma.skip isGap
              match scanItems '}' next.rest with
              | none => none
              | some s =>
                if s.value.kinds.all ConstantKind.isFixed then some (next.after (s.map fun _ ↦ ()))
                else none
termination_by (text.length, 3)
decreasing_by
  · exact Prod.Lex.right _ (Nat.lt_succ_self 2)
  · exact Prod.Lex.left _ _ next.shorter
  · exact Prod.Lex.left _ _ next.shorter

/-- The entries of a dictionary from a value on, up to and including the brace. -/
def scanEntry (text : List Char) : Option (Scanned Unit text.length) :=
  match scanConstant text with
  | none => none
  | some found =>
    let value := (found.map fun _ ↦ ()).skip isGap
    match value.drop? '}' with
    | some last => some last
    | none =>
      match value.drop? ',' with
      | none => none
      | some comma =>
        let next := comma.skip isGap
        (scanEntries next.rest).map fun s ↦ next.after s
termination_by (text.length, 3)
decreasing_by
  · exact Prod.Lex.right _ (Nat.lt_succ_self 2)
  · exact Prod.Lex.left _ _ next.shorter

/-- The entries of a dictionary from a key on, up to and including the brace. -/
def scanEntries (text : List Char) : Option (Scanned Unit text.length) :=
  match scanChar? '}' text with
  | some last => some last
  | none =>
    match scanConstant text with
    | none => none
    | some found =>
      match (found.skip isGap).drop? ':' with
      | none => none
      | some colon =>
        let next := colon.skip isGap
        if found.value.isFixed then (scanEntry next.rest).map fun s ↦ next.after s else none
termination_by (text.length, 3)
decreasing_by
  · exact Prod.Lex.right _ (Nat.lt_succ_self 2)
  · exact Prod.Lex.left _ _ next.shorter

end

/-- Whether a text is a constant, or several of them with commas between them. -/
def isConstant (text : List Char) : Bool :=
  match scanItems ')' (text ++ [')']) with
  | none => false
  | some s => s.rest.isEmpty && !s.value.kinds.isEmpty && !text.contains '\x00'

end CoffeeTree.Literal
