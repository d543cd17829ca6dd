import CoffeeTree.Toml.Scalar

/-!
# Reading keys and values in TOML

Arrays may run over several lines and hold comments; tables in braces may not.
-/

namespace CoffeeTree.Toml

open Text (Scanned length_dropWhile_le scanChar?)

/-- Skips blanks, line feeds and comments. A comment may not hold control characters. -/
def skipGaps (inComment : Bool) : List Char → Option (List Char)
  | [] => some []
  | c :: rest =>
    if inComment then
      if c = '\n' then skipGaps false rest
      else if isForbidden c then none
      else skipGaps true rest
    else if isBlankOrFeed c then skipGaps false rest
    else if c = '#' then skipGaps true rest
    else some (c :: rest)

theorem length_skipGaps_le {inComment : Bool} {text rest : List Char}
    (h : skipGaps inComment text = some rest) : rest.length ≤ text.length := by
  fun_induction skipGaps inComment text <;> simp_all <;> omega

/-- Skips the gaps behind what was found. -/
def skipGapsAfter {α : Type} {n : Nat} (s : Scanned α n) : Option (Scanned α n) :=
  match h : skipGaps false s.rest with
  | none => none
  | some rest => some ⟨s.value, rest, Nat.lt_of_le_of_lt (length_skipGaps_le h) s.shorter⟩

/-! ### Keys -/

/-- The characters of keys without quotes. -/
def isKeyChar (c : Char) : Bool := c.isAlphanum || c = '-' || c = '_'

/-- One part of a key. -/
def scanKeyPart (text : List Char) : Scan String text :=
  match text with
  | [] => none
  | '"' :: rest => (scanBasic false rest).map fun s ↦ (s.map String.ofList).back 1
  | '\'' :: rest => (scanLiteral false rest).map fun s ↦ (s.map String.ofList).back 1
  | c :: rest =>
    if isKeyChar c then
      some ⟨String.ofList (c :: rest.takeWhile isKeyChar), rest.dropWhile isKeyChar,
        Nat.lt_succ_of_le (length_dropWhile_le rest)⟩
    else none

/-- The parts of a key, with points between them, and the blanks after it. -/
def scanKey (text : List Char) : Scan Key text :=
  match scanKeyPart text with
  | none => none
  | some found =>
    let part := found.skip isBlank
    match part.drop? '.' with
    | none => some (part.map ([·]))
    | some dot =>
      let next := dot.skip isBlank
      (scanKey next.rest).map fun key ↦ next.after (key.map (next.value :: ·))
termination_by text.length
decreasing_by exact next.shorter

/-! ### Tables in braces -/

/-- A table that is being filled, and the keys whose values are complete. -/
structure Inline where
  entries : Table
  frozen : List Key

/-- Adds an entry under a key that is not there and not inside a value that is complete. -/
def Inline.insert (t : Inline) (key : Key) (value : Toml) : Option Inline :=
  match key.getLast? with
  | none => none
  | some name =>
    if t.frozen.any (·.isPrefixOf key) then none
    else
      (Table.modifyAt false (·.insertNew name value) key.dropLast t.entries).map fun entries ↦
        ⟨entries, if value.isContainer then key :: t.frozen else t.frozen⟩

/-- The table with the given entries. -/
def tableOf (entries : List (Key × Toml)) : Option Toml :=
  (entries.foldlM (fun (t : Inline) entry ↦ t.insert entry.1 entry.2) ⟨[], []⟩).map
    (.table ·.entries)

/-! ### Values -/

mutual

/-- Any value, at its first character. -/
def scanValue (text : List Char) : Scan Toml text :=
  match text with
  | [] => none
  | '"' :: rest => (scanString ('"' :: rest)).map (.map fun chars ↦ .str (String.ofList chars))
  | '\'' :: rest => (scanString ('\'' :: rest)).map (.map fun chars ↦ .str (String.ofList chars))
  | 't' :: 'r' :: 'u' :: 'e' :: rest => some ((Scanned.here (.bool true) rest).back 3)
  | 'f' :: 'a' :: 'l' :: 's' :: 'e' :: rest => some ((Scanned.here (.bool false) rest).back 4)
  | '[' :: rest =>
    match skipGapsAfter (.here () rest) with
    | none => none
    | some inner => (scanItems inner.rest).map fun s ↦ inner.after (s.map .array)
  | '{' :: rest =>
    let inner := (Scanned.here () rest).skip isBlank
    match inner.drop? '}' with
    | some last => some (last.map fun _ ↦ .table [])
    | none =>
      match scanPairs inner.rest with
      | none => none
      | some s => (tableOf s.value).map fun table ↦ inner.after (s.map fun _ ↦ table)
  | text => scanScalar text
termination_by (text.length, 0)
decreasing_by all_goals exact Prod.Lex.left _ _ inner.shorter

/-- The items of an array up to and including its bracket. A comma may stand before the bracket. -/
def scanItems (text : List Char) : Scan (List Toml) text :=
  match scanChar? ']' text with
  | some last => some (last.map fun _ ↦ [])
  | none =>
    match scanValue text with
    | none => none
    | some found =>
      match skipGapsAfter found with
      | none => none
      | some item =>
        match item.drop? ']' with
        | some last => some (last.map ([·]))
        | none =>
          match (item.drop? ',').bind skipGapsAfter with
          | none => none
          | some next =>
            (scanItems next.rest).map fun more ↦ next.after (more.map (next.value :: ·))
termination_by (text.length, 1)
decreasing_by
  · exact Prod.Lex.right _ Nat.zero_lt_one
  · exact Prod.Lex.left _ _ next.shorter

/-- A key, an equals sign and a value. -/
def scanPair (text : List Char) : Scan (Key × Toml) text :=
  match (scanKey text).bind (·.drop? '=') with
  | none => none
  | some key =>
    let start := key.skip isBlank
    (scanValue start.rest).map fun s ↦ start.after (s.map fun v ↦ (start.value, v))
termination_by (text.length, 1)
decreasing_by exact Prod.Lex.left _ _ start.shorter

/-- The entries of a table in braces, of which there is at least one, up to and including the
brace. -/
def scanPairs (text : List Char) : Scan (List (Key × Toml)) text :=
  match scanPair text with
  | none => none
  | some found =>
    let pair := found.skip isBlank
    match pair.drop? '}' with
    | some last => some (last.map ([·]))
    | none =>
      match pair.drop? ',' with
      | none => none
      | some comma =>
        let next := comma.skip isBlank
        (scanPairs next.rest).map fun more ↦ next.after (more.map (next.value :: ·))
termination_by (text.length, 2)
decreasing_by
  · exact Prod.Lex.right _ (Nat.lt_succ_self 1)
  · exact Prod.Lex.left _ _ next.shorter

end

end CoffeeTree.Toml
