import CoffeeTree.Json.Basic
import CoffeeTree.Number.Shortest
import CoffeeTree.Text.Limits

/-!
# Writing JSON text

Two layouts: everything on one line, with a blank after each comma and colon, or one item per line
with an indentation. All characters outside printable ASCII are written as `\u` escapes, in
surrogate pairs where one escape is not enough. Empty arrays and objects stay on one line.
-/

namespace CoffeeTree.Json

/-! ### Strings -/

/-- A number in hexadecimal digits, with zeros in front up to `width`. -/
def hex (width n : Nat) : List Char :=
  let digits := Nat.toDigits 16 n
  List.replicate (width - digits.length) '0' ++ digits

def unicodeEscape (unit : Nat) : List Char := '\\' :: 'u' :: hex 4 unit

/-- How a character is written inside a string. -/
def escapeChar (c : Char) : List Char :=
  match c with
  | '"' => ['\\', '"']
  | '\\' => ['\\', '\\']
  | '\n' => ['\\', 'n']
  | '\r' => ['\\', 'r']
  | '\t' => ['\\', 't']
  | '\x0c' => ['\\', 'f']
  | '\x08' => ['\\', 'b']
  | c =>
    if ' ' ≤ c ∧ c ≤ '~' then [c]
    else if c.toNat < 0x10000 then unicodeEscape c.toNat
    else
      let n := c.toNat - 0x10000
      unicodeEscape (0xD800 + n / 0x400) ++ unicodeEscape (0xDC00 + n % 0x400)

/-- A string in its quotes. -/
def quote (s : String) : String :=
  String.ofList ('"' :: s.toList.flatMap escapeChar ++ ['"'])

/-! ### Layout -/

/-- How items are set apart: on one line, or on lines of their own with so many blanks per level. -/
inductive Layout where
  | line
  | indented (width : Nat)
  deriving DecidableEq, Repr

namespace Layout

def newline (width level : Nat) : String := "\n".pushn ' ' (width * level)

/-- What stands between a bracket at `level` and its first item. -/
def opening (level : Nat) : Layout → String
  | line => ""
  | indented width => newline width (level + 1)

/-- What stands between two items inside a bracket at `level`. -/
def between (level : Nat) : Layout → String
  | line => ", "
  | indented width => "," ++ newline width (level + 1)

/-- What stands between the last item and the closing bracket at `level`. -/
def closing (level : Nat) : Layout → String
  | line => ""
  | indented width => newline width level

/-- Items between brackets. -/
def enclose (layout : Layout) (level : Nat) (left right : String) : List String → String
  | [] => left ++ right
  | items =>
    left ++ layout.opening level ++ String.intercalate (layout.between level) items ++
      layout.closing level ++ right

end Layout

/-- How the doubles that are not numbers are spelled in JSON. -/
def spelling : Binary64.Spelling := ⟨"NaN", "Infinity"⟩

mutual

/-- The text of a value inside `level` brackets. -/
def write (layout : Layout) (level : Nat) : Json → String
  | .null => "null"
  | .bool value => if value then "true" else "false"
  | .int value => toString value
  | .float value => value.render spelling
  | .str value => quote value
  | .arr items => layout.enclose level "[" "]" (writeItems layout (level + 1) items)
  | .obj entries => layout.enclose level "\x7b" "\x7d" (writeEntries layout (level + 1) entries)

def writeItems (layout : Layout) (level : Nat) : List Json → List String
  | [] => []
  | item :: rest => write layout level item :: writeItems layout level rest

def writeEntries (layout : Layout) (level : Nat) : List (String × Json) → List String
  | [] => []
  | (key, value) :: rest =>
    (quote key ++ ": " ++ write layout level value) :: writeEntries layout level rest

end

/-- The text of a value. -/
def render (layout : Layout) (value : Json) : String := value.write layout 0

mutual

/-- Whether all integers in a value can be written. -/
def isWritable : Json → Bool
  | .int value => Text.isWritable value
  | .arr items => allWritable items
  | .obj entries => allEntriesWritable entries
  | _ => true

def allWritable : List Json → Bool
  | [] => true
  | item :: rest => item.isWritable && allWritable rest

def allEntriesWritable : List (String × Json) → Bool
  | [] => true
  | (_, value) :: rest => value.isWritable && allEntriesWritable rest

end

end CoffeeTree.Json
