import CoffeeTree.Source
import CoffeeTree.Text.Blank
import CoffeeTree.Terminal.Cells
import CoffeeTree.Text.Scan

/-!
# Wrapping text

Text is printed in lines of a given width, counted in cells. A line is broken between words. A word
that is wider than a line is either folded, that is cut wherever the line is full, or cut off with
an ellipsis. Blanks at the end of a line may stick out; they are dropped as far as they do.
-/

namespace CoffeeTree.Terminal

open Text

/-- What happens to a word that is wider than a line. -/
inductive Overflow where
  | fold
  | ellipsis
  deriving DecidableEq, Repr

/-- The characters that are never printed: bell, backspace, vertical tab, form feed and carriage
return. -/
def isDropped (c : Char) : Bool :=
  c.toNat = 7 || c.toNat = 8 || c.toNat = 11 || c.toNat = 12 || c.toNat = 13

/-- Expands the tabs of a line whose first character stands in the cell `column`. A tab is one blank
at least. -/
def expandTabsFrom (column : Nat) : List Char → List Char
  | [] => []
  | '\t' :: rest =>
    let width := 8 - column % 8
    List.replicate width ' ' ++ expandTabsFrom (column + width) rest
  | c :: rest => c :: expandTabsFrom (column + cellWidth c) rest

/-- What is left of a line behind a word and the blanks after it, given the word without its first
character. -/
def afterWord (text : List Char) : List Char := (text.dropWhile (!isBlank ·)).dropWhile isBlank

theorem length_afterWord_lt {line more : List Char} {c : Char}
    (h : line.dropWhile isBlank = c :: more) : (afterWord more).length < line.length := by
  have h₁ : (line.dropWhile isBlank).length ≤ line.length := length_dropWhile_le line
  have h₂ : (afterWord more).length ≤ (more.dropWhile (!isBlank ·)).length := length_dropWhile_le _
  have h₃ : (more.dropWhile (!isBlank ·)).length ≤ more.length := length_dropWhile_le more
  rw [h, List.length_cons] at h₁
  omega

/-- The words of a line. A word takes the blanks after it along, and the first word also those
before it. A line of blanks has no words. -/
def words (line : List Char) : List (List Char) :=
  match _h : line.dropWhile isBlank with
  | [] => []
  | c :: more =>
    let ink := more.takeWhile (!isBlank ·)
    let gap := (more.dropWhile (!isBlank ·)).takeWhile isBlank
    (line.takeWhile isBlank ++ c :: ink ++ gap) :: words (afterWord more)
termination_by line.length
decreasing_by exact length_afterWord_lt _h

/-- Cuts a text into pieces that are as long as fits into `width` cells. The piece so far is given
with its last character first. -/
def chopFrom (width used : Nat) (piece : List Char) : List Char → List (List Char)
  | [] => [piece.reverse]
  | c :: rest =>
    if used + cellWidth c ≤ width then chopFrom width (used + cellWidth c) (c :: piece) rest
    else piece.reverse :: chopFrom width (cellWidth c) [c] rest

def chop (width : Nat) (text : List Char) : List (List Char) := chopFrom width 0 [] text

/-- Lines under construction: those that are done, the last one first, and the one that is open. -/
structure Lines where
  done : List (List Char)
  current : List Char
  /-- How many cells of the open line are used. -/
  used : Nat

namespace Lines

def start : Lines := ⟨[], [], 0⟩

/-- Whether nothing has been placed yet. -/
def atStart (lines : Lines) : Bool := lines.done.isEmpty && lines.current.isEmpty

/-- Puts a text on a line of its own. -/
def putBelow (lines : Lines) (text : List Char) : Lines :=
  ⟨lines.current :: lines.done, text, cells text⟩

/-- Puts a text behind the open line. -/
def putBehind (lines : Lines) (text : List Char) : Lines :=
  ⟨lines.done, lines.current ++ text, lines.used + cells text⟩

/-- Puts a text on the next line, or on the open one if nothing has been placed yet. -/
def putNext (lines : Lines) (text : List Char) : Lines :=
  if lines.atStart then lines.putBehind text else lines.putBelow text

/-- Places a word. -/
def putWord (overflow : Overflow) (width : Nat) (lines : Lines) (word : List Char) : Lines :=
  let needed := cells (dropTrailing isBlank word)
  if lines.used + needed ≤ width then lines.putBehind word
  else if needed ≤ width then lines.putBelow word
  else
    match overflow with
    | .ellipsis => lines.putNext word
    | .fold => (chop width word).foldl putNext lines

def toList (lines : Lines) : List (List Char) := (lines.current :: lines.done).reverse

end Lines

/-! ### Cutting off

A line that is too wide is cut where it fills the width, and a wide character that would stick out
becomes a blank. The place is found by halving. That matters only next to characters without a width
of their own: of several places that would do, the first one that the search meets is taken. -/

theorem lower_half_lt {low high : Nat} (h : low < high) :
    (low + high) / 2 - low < high - low := by omega

theorem upper_half_lt {low high : Nat} (h : low < (low + high) / 2) :
    high - (low + high) / 2 < high - low := by omega

/-- Cuts a line that is wider than `width` cells, where the last character to keep stands at `low`
or behind it, and before `high`. -/
def cutBetween (width : Nat) (line : List Char) (low high : Nat) : List Char :=
  let kept := line.take ((low + high) / 2 + 1)
  if cells kept = width + 1 && (kept.getLast?.map cellWidth) = some 2 then kept.dropLast ++ [' ']
  else if cells kept = width then kept
  else if width < cells kept then
    if _h : low < high then cutBetween width line low ((low + high) / 2) else kept
  else
    if _h : low < (low + high) / 2 then cutBetween width line ((low + high) / 2) high else kept
termination_by high - low
decreasing_by
  · exact lower_half_lt _h
  · exact upper_half_lt _h

/-- Cuts a line that is wider than `width` cells. -/
def cut (width : Nat) (line : List Char) : List Char :=
  if width = 0 then [] else cutBetween width line 0 line.length

/-- Cuts off what sticks out of a line. -/
def crop (overflow : Overflow) (width : Nat) (line : List Char) : List Char :=
  if cells line ≤ width then line
  else
    match overflow with
    | .fold => cut width line
    | .ellipsis => cut (width - 1) line ++ ['…']

/-- Drops the blanks at the end of a line that stick out, and then everything else that does. -/
def trimEnd (overflow : Overflow) (width : Nat) (line : List Char) : List Char :=
  let blanks := line.length - (dropTrailing isBlank line).length
  crop overflow width (line.take (line.length - min blanks (line.length - width)))

/-- The lines that one line of text takes. -/
def wrapLine (overflow : Overflow) (width : Nat) (line : List Char) : List (List Char) :=
  let expanded := expandTabsFrom 0 line
  let lines := match words expanded with
    | [] => [expanded]
    | found => (found.foldl (Lines.putWord overflow width) Lines.start).toList
  lines.map (trimEnd overflow width)

/-- The lines that a text takes. -/
def wrap (overflow : Overflow) (width : Nat) (text : String) : List (List Char) :=
  (splitLines (text.toList.filter (!isDropped ·))).flatMap (wrapLine overflow width)

/-- Lines as they are printed, each with its line feed. -/
def unlines (lines : List (List Char)) : String :=
  String.ofList (lines.flatMap (· ++ ['\n']))

/-- Lines as they are printed on a page, which cuts off what sticks out. A page without a width
stays empty. -/
def printedLines (page : Nat) (lines : List (List Char)) : String :=
  if page = 0 then "" else unlines (lines.map (crop .fold page))

/-- A text as it is printed on a page. -/
def printed (page : Nat) (text : String) : String :=
  if page = 0 then "" else unlines (wrap .fold page text)

end CoffeeTree.Terminal
