import CoffeeTree.Json.Basic
import CoffeeTree.Node.Basic

/-!
# The JSON form of a tree

A node is an object: its kind, then where it stands, then its fields in camel case. A virtual node
says so instead of giving a place. Shared nodes are written out wherever they are held.
-/

namespace CoffeeTree

def Scalar.toJson : Scalar → Json
  | str value => .str value
  | int value => .int value
  | float value => .float value
  | bool value => .bool value

/-- A field whose parts are already in their JSON form. -/
def Field.toJson : Field Json → Json
  | scalar value => value.toJson
  | one part => part
  | opt part => part.getD .null
  | many parts => .arr parts

/-- The entries that say where a node stands. The source text is left out unless `raw` is set. -/
def Place.entries (raw : Bool) : Option Place → Json.Entries
  | none => [("virtual", .bool true)]
  | some place =>
    [("line", .int place.line), ("column", .int place.column),
      ("range", .arr [.int place.range.start, .int place.range.stop])] ++
      if raw then [("raw", .str place.raw)] else []

/-- The JSON form of a node whose parts are already in theirs. -/
def Node.objectOf (raw : Bool) (place : Option Place) (shape : Shape Json) : Json :=
  .obj (("type", .str shape.kind.name) :: (Place.entries raw place ++
    shape.fields.map fun entry ↦ (entry.1.camel, entry.2.toJson)))

/-- The JSON form of a tree. -/
def Node.toJson (raw : Bool) (n : Node) : Json := n.fold (objectOf raw)

end CoffeeTree
