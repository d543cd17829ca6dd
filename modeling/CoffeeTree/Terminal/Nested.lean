import CoffeeTree.Terminal.Cells

/-!
# Nested items

Items inside brackets, on one line if they fit and otherwise one to a line, four blanks further in.
An item that is followed by others needs room for a comma and a blank, and so does the last one.
-/

namespace CoffeeTree.Terminal

/-- A text, or items in brackets, behind a label that may be empty. -/
inductive Nested where
  | text (label content : String)
  | group (label opening closing : String) (items : List Nested)
  deriving Inhabited

namespace Nested

/-- The same behind another label. -/
def withLabel (label : String) : Nested → Nested
  | text _ content => text label content
  | group _ opening closing items => group label opening closing items

mutual

/-- Everything on one line. -/
def flat : Nested → String
  | text label content => label ++ content
  | group label opening closing items => label ++ opening ++ flatItems items ++ closing

def flatItems : List Nested → String
  | [] => ""
  | [item] => item.flat
  | item :: rest => item.flat ++ ", " ++ flatItems rest

end

mutual

/-- The lines of an item that is `level` blanks in. `suffix` is how many cells are kept free behind
it, and `ending` is what is written there. -/
def lines (width level suffix : Nat) (ending : String) : Nested → List String
  | text label content => ["".pushn ' ' level ++ label ++ content ++ ending]
  | group label opening closing items =>
    let line := (group label opening closing items).flat
    if items.isEmpty || level + cells line.toList + suffix ≤ width then
      ["".pushn ' ' level ++ line ++ ending]
    else
      ["".pushn ' ' level ++ label ++ opening] ++ itemLines width (level + 4) items ++
        ["".pushn ' ' level ++ closing ++ ending]

/-- The lines of the items in brackets. -/
def itemLines (width level : Nat) : List Nested → List String
  | [] => []
  | [item] => item.lines width level 2 ""
  | item :: rest => item.lines width level 2 "," ++ itemLines width level rest

end

/-- The text in lines of the given width. -/
def render (width : Nat) (item : Nested) : String :=
  "\n".intercalate (item.lines width 0 0 "")

end Nested

end CoffeeTree.Terminal
