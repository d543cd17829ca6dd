import CoffeeTree.Diagnostic.Basic
import CoffeeTree.Text.Tabs

/-!
# The text of a diagnostic

A heading, the place, and for each label the marked lines of the source, each with its markers below
it; then notes and help. Tabs in the source are expanded, and the markers follow: a marker starts in
the column where the first marked character is shown.

Spans need not lie inside the source. Lines are brought into the source, and columns into the line,
whose end counts as a column.
-/

namespace CoffeeTree

/-- The line feeds of a text are where its lines end. -/
def Text.joinLines (lines : List (List Char)) : List Char := ['\n'].intercalate lines

/-- A line of the source with the characters that a label marks. -/
structure MarkedLine where
  number : Nat
  /-- The line as it is shown, with its tabs expanded. -/
  shown : List Char
  /-- How many columns the markers are moved in. -/
  start : Nat
  /-- How many markers there are. -/
  width : Nat
  deriving DecidableEq, Repr

namespace MarkedLine

def tabSize : Nat := 4

/-- The column at which the character in a column of the line, counted from one, is shown. -/
def visualColumn (raw : List Char) (column : Int) : Nat :=
  (Text.expandTabs tabSize (raw.take (column - 1).toNat)).length

/-- The columns that a span covers on a line, from the first up to the second. -/
def columns (raw : List Char) (span : Span) (line : Int) : Int × Int :=
  let limit : Int := raw.length + 1
  let first := if line = span.line then max 1 span.column else 1
  let last := if line = span.endLine then max (first + 1) span.endColumn else limit
  let start := min limit first
  let stop := min limit last
  (start, if stop ≤ start then min limit (start + 1) else stop)

/-- The line with the given number, with the characters that the span covers. -/
def ofLine (source : Source) (span : Span) (line : Int) : MarkedLine :=
  let raw := source.lineText line
  let covered := columns raw span line
  let start := visualColumn raw covered.1
  { number := line.toNat
    shown := Text.expandTabs tabSize raw
    start
    width := max 1 (visualColumn raw covered.2 - start) }

/-- A number in a column of at least three characters. -/
def gutter (number : Nat) : List Char :=
  let digits := (toString number).toList
  List.replicate (3 - digits.length) ' ' ++ digits

def textRow (l : MarkedLine) : List Char := gutter l.number ++ " | ".toList ++ l.shown

def markers (mark : Char) (l : MarkedLine) : List Char :=
  List.replicate l.start ' ' ++ List.replicate l.width mark

def markerRow (mark : Char) (message : String) (l : MarkedLine) : List Char :=
  "   | ".toList ++ l.markers mark ++ if message.isEmpty then [] else ' ' :: message.toList

end MarkedLine

namespace Label

/-- The first line of the source that a span shows. -/
def firstLine (source : Source) (span : Span) : Int := max 1 (min span.line source.lineCount)

def lastLine (source : Source) (span : Span) : Int :=
  max (firstLine source span) (min span.endLine source.lineCount)

/-- The marked lines of a label. -/
def lines (source : Source) (label : Label) : List MarkedLine :=
  let first := firstLine source label.span
  let count := (lastLine source label.span - first + 1).toNat
  (List.range count).map fun (i : Nat) ↦ MarkedLine.ofLine source label.span (first + i)

/-- The rows of a label. Its message stands behind the first markers. -/
def rows (source : Source) (leading : Bool) (label : Label) : List (List Char) :=
  let mark := if leading || label.primary then '^' else '-'
  match label.lines source with
  | [] => []
  | l :: rest =>
    l.textRow :: l.markerRow mark label.message ::
      rest.flatMap fun l ↦ [l.textRow, l.markerRow mark ""]

end Label

namespace Diagnostic

/-- The labels to show: if there are none, the span itself is marked. -/
def shownLabels (d : Diagnostic) : List Label :=
  if d.labels.isEmpty then [⟨d.span, "", true⟩] else d.labels

/-- The rows of all labels, each after an empty one. The first label leads. -/
def labelRows (source : Source) (d : Diagnostic) : List (List Char) :=
  d.shownLabels.zipIdx.flatMap fun entry ↦
    "   |".toList :: entry.1.rows source (entry.2 == 0)

def heading (d : Diagnostic) : String := s!"{d.severity.name}[{d.code}]: {d.message}"

def placeRow (d : Diagnostic) : String :=
  s!"  --> {d.span.file}:{max 1 d.span.line}:{max 1 d.span.column}"

/-- Whether the line and the column of the place can be written. -/
def isPlaceable (d : Diagnostic) : Bool :=
  Text.isWritable (max 1 d.span.line) && Text.isWritable (max 1 d.span.column)

/-- The rows of a diagnostic, given the source that it quotes. -/
def rows (source : Option Source) (d : Diagnostic) : List (List Char) :=
  [d.heading.toList, d.placeRow.toList] ++
    (match source with
      | some s => d.labelRows s
      | none => ["   = note: source is unavailable for this diagnostic span".toList]) ++
    d.notes.map (fun note ↦ s!"   = note: {note}".toList) ++
    d.help.map (fun help ↦ s!"   = help: {help}".toList)

/-- The text of a diagnostic, given the source that it quotes. -/
def render (source : Option Source) (d : Diagnostic) : String :=
  String.ofList (Text.joinLines (d.rows source))

/-- The last line of a report. -/
def summary (ds : List Diagnostic) : String :=
  let errors := ds.countP isError
  let warnings := ds.countP (!·.isError)
  let verb := if errors = 0 then "finished" else "aborting"
  s!"{verb} with {errors} error(s), {warnings} warning(s)"

end Diagnostic

end CoffeeTree
