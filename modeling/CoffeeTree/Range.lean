/-!
# Ranges of offsets

Half-open ranges, from a start up to but not including a stop. A range may be inverted or leave the
text; `clamp` brings it into a text of a given length.
-/

namespace CoffeeTree

/-- The offsets from `start` up to `stop`. -/
structure Range where
  start : Int
  stop : Int
  deriving DecidableEq, Repr

namespace Range

/-- The least range that covers both. -/
def cover (a b : Range) : Range := ⟨min a.start b.start, max a.stop b.stop⟩

/-- The least range that covers `a` and all of `others`. -/
def coverAll (a : Range) (others : List Range) : Range := others.foldl cover a

/-- The range brought into a text of `length` characters. The stop does not come before the
start. -/
def clamp (r : Range) (length : Nat) : Range :=
  let start := min (max 0 r.start) (length : Int)
  ⟨start, min (max start r.stop) length⟩

end Range

end CoffeeTree
