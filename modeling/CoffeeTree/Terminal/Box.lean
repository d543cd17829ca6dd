import CoffeeTree.Terminal.Wrap

/-!
# Panels and tables

Text in boxes. A panel is as wide as its text or its title needs, and no wider than the page. A
table has a title above it, a heading row and plain rows; its columns are given with their widths,
which `naturalWidth` and `fit` compute.
-/

namespace CoffeeTree.Terminal

open Text

/-- A text filled up with blanks to a width. -/
def padRight (width : Nat) (text : List Char) : List Char :=
  text ++ List.replicate (width - cells text) ' '

/-- A text in the middle of a line that is filled up with a character. If the two sides cannot be
equal, the right one is longer. -/
def center (fill : Char) (width : Nat) (text : List Char) : List Char :=
  let left := (width - cells text) / 2
  let right := width - cells text - left
  List.replicate left fill ++ text ++ List.replicate right fill

/-- A line that is one blank away from its sides. -/
def inset (width : Nat) (line : List Char) : List Char := ' ' :: padRight (width - 2) line ++ [' ']

/-- How many cells the widest line of a text takes. -/
def textWidth (text : String) : Nat :=
  ((splitLines text.toList).map cells).foldl max 0

/-- A text in a box of the given width, one blank away from its sides. A box that has no room for
text holds no lines. -/
def insetLines (overflow : Overflow) (width : Nat) (text : String) : List (List Char) :=
  if width ≤ 2 then [] else (wrap overflow (width - 2) text).map (inset width)

/-! ### Panels -/

/-- The upper side of a panel, with a title if there is room for one. -/
def panelTop (inner : Nat) (title : String) : List Char :=
  if inner ≤ 2 then List.replicate inner '─'
  else
    let heading := ' ' :: title.toList ++ [' ']
    '─' :: center '─' (inner - 2) (crop .fold (inner - 2) heading) ++ ['─']

/-- A text in a frame, with a title in the upper side. -/
def panel (page : Nat) (title text : String) : List (List Char) :=
  let needed := max (textWidth text + 2) (cells title.toList + 4)
  let inner := min (page - 2) needed
  ['╭' :: panelTop inner title ++ ['╮']] ++
    (insetLines .fold inner text).map (fun line ↦ '│' :: line ++ ['│']) ++
    ['╰' :: List.replicate inner '─' ++ ['╯']]

/-! ### Tables -/

/-- A column of a table: its width, its heading and its cells. -/
structure Column where
  width : Nat
  heading : String
  cells : List String

/-- The width that a column needs, blanks at its sides included. -/
def naturalWidth (heading : String) (cells : List String) : Nat :=
  (textWidth heading :: cells.map textWidth).foldl max 0 + 2

/-- The least width that a column is given as its share. -/
def minimumWidth : Nat := 3

/-- Shares a width out by ratios. What is left over by rounding goes to the columns in front. -/
def share (width : Nat) : List Nat → List Nat
  | [] => []
  | ratio :: rest =>
    let total := rest.foldl (· + ·) ratio
    let part := max minimumWidth ((ratio * width + total - 1) / total)
    part :: share (width - part) rest

/-- A quotient rounded to the nearest integer, and to the even one of two. -/
def divideToEven (n d : Nat) : Nat :=
  let q := n / d
  let r := 2 * (n % d)
  if d < r || r = d && q % 2 = 1 then q + 1 else q

/-- Takes an excess off columns in equal parts. -/
def takeOff (excess : Nat) : List Nat → List Nat
  | [] => []
  | width :: rest =>
    let part := min width (divideToEven excess (rest.length + 1))
    (width - part) :: takeOff (excess - part) rest

/-- Shares a width out by ratios. If it is too small for the least widths, the columns become
narrower than that. -/
def fit (width : Nat) (ratios : List Nat) : List Nat :=
  let shares := share width ratios
  takeOff (shares.foldl (· + ·) 0 - width) shares

/-- The characters of a horizontal line. -/
structure Rule where
  left : Char
  line : Char
  cross : Char
  right : Char

def Rule.draw (rule : Rule) (widths : List Nat) : List Char :=
  rule.left :: [rule.cross].intercalate (widths.map (List.replicate · rule.line)) ++ [rule.right]

/-- Where a cell stands that needs fewer lines than its row has. -/
inductive Placement where
  | top
  | bottom
  deriving DecidableEq, Repr

/-- The lines of a cell, filled up with empty ones. -/
def Placement.fill (placement : Placement) (height width : Nat) (lines : List (List Char)) :
    List (List Char) :=
  let missing := List.replicate (height - lines.length) (List.replicate width ' ')
  match placement with
  | top => lines ++ missing
  | bottom => missing ++ lines

/-- A row of cells, which takes as many lines as its tallest cell, and one at least. -/
def row (bar : Char) (placement : Placement) (entries : List (Nat × String)) : List (List Char) :=
  let wrapped := entries.map fun entry ↦ (entry.1, insetLines .ellipsis entry.1 entry.2)
  let height := (wrapped.map (·.2.length)).foldl max 1
  let filled := wrapped.map fun entry ↦ placement.fill height entry.1 entry.2
  (List.range height).map fun i ↦
    bar :: [bar].intercalate (filled.map fun lines ↦ lines.getD i []) ++ [bar]

/-- The rows of the columns, as far as the longest column reaches. -/
def tableRows (columns : List Column) : List (List (Nat × String)) :=
  (List.range ((columns.map (·.cells.length)).foldl max 0)).map fun i ↦
    columns.map fun column ↦ (column.width, column.cells.getD i "")

/-- A table with a title. -/
def table (title : String) (columns : List Column) : List (List Char) :=
  let widths := columns.map (·.width)
  let total := widths.foldl (· + ·) (columns.length + 1)
  (wrap .fold total title).map (fun line ↦ center ' ' total (dropTrailing isBlank line)) ++
    [Rule.draw ⟨'┏', '━', '┳', '┓'⟩ widths] ++
    row '┃' .bottom (columns.map fun column ↦ (column.width, column.heading)) ++
    [Rule.draw ⟨'┡', '━', '╇', '┩'⟩ widths] ++
    (tableRows columns).flatMap (row '│' .top) ++
    [Rule.draw ⟨'└', '─', '┴', '┘'⟩ widths]

end CoffeeTree.Terminal
