import CoffeeTree.Toml.Reader

/-!
# TOML documents

A document is a sequence of lines: entries, headings that open a table, and headings that add a
table to an array. A table can be opened once. What was written in brackets or braces is complete,
and what was made by the dots of a key can be added to only under the same heading.
-/

namespace CoffeeTree.Toml

open Text (Scanned)

/-- A document as far as it has been read. -/
structure Document where
  root : Table
  /-- The key of the table that entries go into. -/
  heading : Key
  /-- The keys of tables that can no longer be opened by a heading or reached by dots. -/
  opened : List Key
  /-- The keys of tables made by dots under the present heading. -/
  dotted : List Key
  /-- The keys of values that are complete. -/
  frozen : List Key

namespace Document

def empty : Document := ⟨[], [], [], [], []⟩

/-- Whether a key lies in a value that is complete. -/
def isFrozen (d : Document) (key : Key) : Bool := d.frozen.any (·.isPrefixOf key)

/-- Ends the section of the present heading. -/
def endSection (d : Document) : Document := { d with opened := d.dotted ++ d.opened, dotted := [] }

/-- Opens the table under a key. -/
def openTable (d : Document) (key : Key) : Option Document :=
  if d.opened.contains key || d.isFrozen key then none
  else
    (Table.modifyAt true some key d.root).map fun root ↦
      { d with root, heading := key, opened := key :: d.opened }

/-- Adds a table to the array under a key. What was known about the keys below it is void. -/
def openItem (d : Document) (key : Key) : Option Document :=
  match key.getLast? with
  | none => none
  | some name =>
    if d.isFrozen key then none
    else
      (Table.modifyAt true (·.pushTable name) key.dropLast d.root).map fun root ↦
        { d with
          root
          heading := key
          opened := key :: d.opened.filter (!key.isPrefixOf ·)
          frozen := d.frozen.filter (!key.isPrefixOf ·) }

/-- The keys of the tables that the dots of a key lead through. -/
def pathsOf (heading key : Key) : List Key :=
  ((List.range key.length).drop 1).map fun n ↦ heading ++ key.take n

/-- Adds an entry under the present heading. -/
def insert (d : Document) (key : Key) (value : Toml) : Option Document :=
  match key.getLast? with
  | none => none
  | some name =>
    let paths := pathsOf d.heading key
    let outer := d.heading ++ key.dropLast
    if paths.any d.opened.contains || d.isFrozen outer then none
    else
      (Table.modifyAt true (·.insertNew name value) outer d.root).map fun root ↦
        { d with
          root
          dotted := paths ++ d.dotted
          frozen := if value.isContainer then (d.heading ++ key) :: d.frozen else d.frozen }

end Document

/-- The key of a heading, up to and including the bracket after it. -/
def scanHeading (text : List Char) : Scan Key text :=
  (scanKey (skipBlanks text)).bind fun key ↦
    (key.weaken (length_skipBlanks_le text)).drop? ']'

/-- A heading or an entry, at its first character. -/
def scanStatement (d : Document) (text : List Char) : Scan Document text :=
  match text with
  | '[' :: '[' :: rest => do
    let heading ← (scanHeading rest).bind (·.drop? ']')
    let next ← d.endSection.openItem heading.value
    some ((heading.map fun _ ↦ next).back 2)
  | '[' :: rest => do
    let heading ← scanHeading rest
    let next ← d.endSection.openTable heading.value
    some ((heading.map fun _ ↦ next).back 1)
  | text => do
    let pair ← scanPair text
    let next ← d.insert pair.value.1 pair.value.2
    some (pair.map fun _ ↦ next)

/-- What a comment leaves, if there is one. -/
def afterComment? : List Char → Option (List Char)
  | '#' :: rest =>
    if (rest.takeWhile (· ≠ '\n')).any isForbidden then none
    else some (rest.dropWhile (· ≠ '\n'))
  | text => some text

theorem length_afterComment?_le {text rest : List Char} (h : afterComment? text = some rest) :
    rest.length ≤ text.length := by
  rw [afterComment?.eq_def] at h
  split at h
  · rename_i after
    split at h
    · contradiction
    · have := Text.length_dropWhile_le (p := (· ≠ '\n')) after
      simp_all
      omega
  · simp_all

/-- A statement, if there is one before the comment or the end of the line. -/
def scanLine (d : Document) (text : List Char) :
    Option (Document × { rest : List Char // rest.length ≤ text.length }) :=
  match text with
  | [] => some (d, ⟨[], Nat.le_refl _⟩)
  | c :: rest =>
    if c = '\n' || c = '#' then some (d, ⟨c :: rest, Nat.le_refl _⟩)
    else (scanStatement d (c :: rest)).map fun s ↦ (s.value, ⟨s.rest, Nat.le_of_lt s.shorter⟩)

theorem length_nextLine_lt {text rest more : List Char} (h : rest.length ≤ (skipBlanks text).length)
    (h' : afterComment? (skipBlanks rest) = some ('\n' :: more)) : more.length < text.length := by
  have h₁ := length_skipBlanks_le text
  have h₂ := length_skipBlanks_le rest
  have h₃ := length_afterComment?_le h'
  rw [List.length_cons] at h₃
  omega

/-- The lines of a document. -/
def scanLines (d : Document) (text : List Char) : Option Document :=
  match scanLine d (skipBlanks text) with
  | none => none
  | some (next, ⟨rest, _shorter⟩) =>
    match _comment : afterComment? (skipBlanks rest) with
    | none => none
    | some [] => some next
    | some ('\n' :: more) => scanLines next more
    | some _ => none
termination_by text.length
decreasing_by exact length_nextLine_lt _shorter _comment

/-- Line ends of two characters count as line feeds. -/
def joinLineEnds : List Char → List Char
  | '\r' :: '\n' :: rest => '\n' :: joinLineEnds rest
  | c :: rest => c :: joinLineEnds rest
  | [] => []

/-- Reads a document. -/
def parse? (text : List Char) : Option Table :=
  (scanLines .empty (joinLineEnds text)).map (·.root)

end CoffeeTree.Toml
