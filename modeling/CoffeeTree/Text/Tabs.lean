/-!
# Tab stops

A tab becomes blanks up to the next stop. Stops are counted from the start of the line, and a
carriage return starts a line as well.
-/

namespace CoffeeTree.Text

/-- Expands the tabs of a text whose first character stands in `column`. -/
def expandTabsFrom (size column : Nat) : List Char → List Char
  | [] => []
  | '\t' :: rest =>
    let width := size - column % size
    List.replicate width ' ' ++ expandTabsFrom size (column + width) rest
  | c :: rest =>
    c :: expandTabsFrom size (if c = '\n' || c = '\r' then 0 else column + 1) rest

def expandTabs (size : Nat) (text : List Char) : List Char := expandTabsFrom size 0 text

end CoffeeTree.Text
