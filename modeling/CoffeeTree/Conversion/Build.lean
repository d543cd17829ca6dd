import CoffeeTree.Conversion.Error
import CoffeeTree.Node.Basic

/-!
# Building located nodes

A node's range is that of its location, widened until it covers the ranges of its parts, and then
clamped to the source. Locations of the parse tree need not be nested, ordered or inside the source,
so each of the three steps matters. A location that had to be clamped is recorded.
-/

namespace CoffeeTree

/-- The least range that covers `initial` and the located nodes in the fields. -/
def Range.widen (initial : Range) (fields : List (Field Node)) : Range :=
  initial.coverAll ((fields.flatMap Field.parts).filterMap Node.range?)

namespace Node

/-- The range of a location, before its parts are taken into account. -/
def rangeOf (source : Source) (loc : Location) : Except PositionError Range := do
  let start ← source.offset loc.first.line loc.first.column
  let last ← source.offset loc.last.line loc.last.column
  .ok ⟨start, last + 1⟩

/-- The place of a node in the source, given its location and its final range. -/
def placeOf (source : Source) (loc : Location) (range : Range) : Place where
  line := loc.first.line + 1
  column := loc.first.column + 1
  range := range
  raw := String.ofList (source.slice range.start.toNat range.stop.toNat)

/-- Builds a node from its location and its shape. Without a location the node is virtual. -/
def build (source : Source) (location : Option Location) (shape : Shape Node) : Conversion Node :=
  match location with
  | none => pure (.mk none shape)
  | some loc => do
    let range ← .ofExcept ((rangeOf source loc).mapError .outside)
    let widened := range.widen (shape.fields.map (·.2))
    let clamped := widened.clamp source.length
    if clamped ≠ widened then Traced.record loc
    pure (.mk (some (placeOf source loc clamped)) shape)

end Node

end CoffeeTree
