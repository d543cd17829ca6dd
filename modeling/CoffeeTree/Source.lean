import CoffeeTree.Location
import CoffeeTree.Text.Limits
import CoffeeTree.Text.Split

/-!
# Source texts

A source is a named text together with two views of its lines: the line *starts*, which carry
offsets to positions and back, and the *lines* themselves, which are shown in reports. A line ends
at a line feed; offsets and columns count characters.

Offsets past the end of the text are ordinary: they belong to the last line. A line that the source
does not have is refused, and so is a negative offset.
-/

namespace CoffeeTree

/-- A question about a position that a source cannot answer. -/
inductive PositionError where
  /-- The line is negative or comes after the last one. -/
  | lineOutside (line : Int) (lastLine : Nat)
  | negativeOffset (offset : Int)
  deriving DecidableEq, Repr

def PositionError.message : PositionError → String
  | .lineOutside line lastLine => s!"line {line} is outside of the source (0..{lastLine})"
  | .negativeOffset offset => s!"offset {offset} is negative"

/-- Whether all integers in the message can be written. -/
def PositionError.isWritable : PositionError → Bool
  | .lineOutside line lastLine => Text.isWritable line && Text.isWritable lastLine
  | .negativeOffset offset => Text.isWritable offset

namespace Text

/-- The offsets just after the line feeds of a text that starts at offset `i`. -/
def lineStartsAfter (i : Nat) : List Char → List Nat
  | [] => []
  | c :: rest =>
    if c = '\n' then (i + 1) :: lineStartsAfter (i + 1) rest else lineStartsAfter (i + 1) rest

/-- The offsets at which the lines of a text start. There is always a first line. -/
def lineStarts (text : List Char) : List Nat :=
  0 :: lineStartsAfter 0 text

/-- The position of an offset: the last line that starts at or before it. -/
def positionAt (text : List Char) (offset : Nat) : Position Nat :=
  let before := (lineStarts text).takeWhile (· ≤ offset)
  ⟨before.length - 1, offset - before.getLastD 0⟩

/-- The pieces of a text between its line feeds. -/
def splitLines (text : List Char) : List (List Char) := split (· = '\n') text

/-- A text without the characters at its end that satisfy `p`. -/
def dropTrailing (p : Char → Bool) (text : List Char) : List Char :=
  (text.reverse.dropWhile p).reverse

end Text

/-- A stretch of a named source as diagnostics give it: lines and columns count from one, and the
end is exclusive. -/
structure Span where
  startOffset : Int
  endOffset : Int
  line : Int
  column : Int
  endLine : Int
  endColumn : Int
  file : String
  deriving DecidableEq, Repr

/-- A named text. -/
structure Source where
  text : List Char
  name : String
  deriving DecidableEq, Repr

namespace Source

/-- The name of a text that does not come from a file. -/
def unnamed : String := "<input>"

def ofString (text : String) (name : String) : Source := ⟨text.toList, name⟩

def length (s : Source) : Nat := s.text.length

/-- The lines of the source, without their line feeds. -/
def lines (s : Source) : List (List Char) := Text.splitLines s.text

def lineCount (s : Source) : Nat := s.lines.length

/-- The offset of a line and a column. The column is not checked against the line's length. -/
def offset (s : Source) (line column : Int) : Except PositionError Int :=
  let starts := Text.lineStarts s.text
  let outside := PositionError.lineOutside line (starts.length - 1)
  if line < 0 then .error outside
  else
    match starts[line.toNat]? with
    | none => .error outside
    | some start => .ok (start + column)

/-- The line and the column of an offset. -/
def position (s : Source) (offset : Int) : Except PositionError (Position Nat) :=
  if offset < 0 then .error (.negativeOffset offset)
  else .ok (Text.positionAt s.text offset.toNat)

/-- The text of a line counted from one, without carriage returns at its end. A line that is not
there is empty. -/
def lineText (s : Source) (line : Int) : List Char :=
  if line < 1 then []
  else Text.dropTrailing (· = '\r') (s.lines.getD (line.toNat - 1) [])

/-- The characters from `start` up to `stop`. -/
def slice (s : Source) (start stop : Nat) : List Char :=
  (s.text.take stop).drop start

/-- An offset brought into the text. -/
def clampOffset (s : Source) (offset : Int) : Nat :=
  (max 0 (min offset s.length)).toNat

/-- The span of a half-open range of offsets. The positions are those of the nearest offsets inside
the text, and an end before the start counts as the start. -/
def span (s : Source) (start stop : Int) : Span :=
  let p := Text.positionAt s.text (s.clampOffset start)
  let q := Text.positionAt s.text (s.clampOffset (max stop start))
  { startOffset := start, endOffset := stop
    line := p.line + 1, column := p.column + 1
    endLine := q.line + 1, endColumn := q.column + 1
    file := s.name }

/-- The span of the single character at a line and a column counted from one. -/
def pointSpan (s : Source) (line column : Int) : Span :=
  { startOffset := 0, endOffset := 0, line, column, endLine := line, endColumn := column + 1
    file := s.name }

end Source

end CoffeeTree
