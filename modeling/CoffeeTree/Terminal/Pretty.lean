import CoffeeTree.Node.Basic
import CoffeeTree.Number.Shortest
import CoffeeTree.Terminal.Nested
import CoffeeTree.Text.Quoted

/-!
# The readable form of a tree

A node is its kind with its location and its fields in parentheses, the fields under their names in
snake case.
-/

namespace CoffeeTree

open Terminal

def Scalar.text : Scalar → String
  | str value => Text.quoted value
  | int value => toString value
  | float value => value.render ⟨"nan", "inf"⟩
  | bool true => "True"
  | bool false => "False"

/-- Nothing where there could be something. -/
def noneText : String := "None"

/-- A field whose parts are already laid out. -/
def Field.toNested (label : String) : Field Nested → Nested
  | scalar value => .text label value.text
  | one part => part.withLabel label
  | opt none => .text label noneText
  | opt (some part) => part.withLabel label
  | many parts => .group label "[" "]" parts

def Place.toNested (label : String) : Option Place → Nested
  | none => .text label noneText
  | some place =>
    .group label "SourceLocation(" ")"
      [.text "line=" (toString place.line), .text "column=" (toString place.column),
        .text "start=" (toString place.range.start), .text "end=" (toString place.range.stop),
        .text "raw=" (Text.quoted place.raw)]

/-- The layout of a tree. -/
def Node.toNested (n : Node) : Nested :=
  n.fold fun place shape ↦
    .group "" (shape.kind.name ++ "(") ")"
      (Place.toNested "location=" place ::
        shape.fields.map fun entry ↦ entry.2.toNested (entry.1.snake ++ "="))

end CoffeeTree
