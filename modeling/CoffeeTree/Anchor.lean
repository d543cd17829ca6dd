import CoffeeTree.Source
import CoffeeTree.Text.Search

/-!
# Expansion to an anchor

The tree's locations leave out some of the text that belongs to a node: the bracket that closes an
index, the word that opens a case. Such a location is expanded through the nearest occurrence of an
*anchor*: to the right, the first one after its end; to the left, the last one that starts at or
before its start.
-/

namespace CoffeeTree

/-- Where an anchor is looked for. -/
inductive Side where
  | left
  | right
  deriving DecidableEq, Repr

/-- Why a location could not be expanded. -/
inductive AnchorError where
  /-- The anchor does not occur on that side of a line and a column, which count from one. -/
  | notFound (side : Side) (line column : Nat) (anchor : String)
  /-- The location has a line that the source does not have. -/
  | outside (error : PositionError)
  deriving DecidableEq, Repr

namespace Location

/-- Moves the end to the end of the first occurrence of `anchor` after it. -/
def expandRight (source : Source) (anchor : String) (loc : Location) :
    Except AnchorError Location := do
  let stop ← (source.offset loc.last.line loc.last.column).mapError .outside
  match Text.firstFrom? anchor.toList source.text (stop + 1).toNat with
  | none => .error (.notFound .right (loc.last.line + 1) (loc.last.column + 1) anchor)
  | some found =>
    .ok { loc with last := Text.positionAt source.text (found + anchor.toList.length - 1) }

/-- Moves the start to the last occurrence of `anchor` that starts at or before it. -/
def expandLeft (source : Source) (anchor : String) (loc : Location) :
    Except AnchorError Location := do
  let start ← (source.offset loc.first.line loc.first.column).mapError .outside
  match Text.lastUpTo? anchor.toList source.text start.toNat with
  | none => .error (.notFound .left (loc.first.line + 1) (loc.first.column + 1) anchor)
  | some found => .ok { loc with first := Text.positionAt source.text found }

end Location

end CoffeeTree
