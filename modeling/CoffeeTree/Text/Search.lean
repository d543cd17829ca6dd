/-!
# Searching in a text

The first and the last place at which a pattern occurs in a text. A place is the number of
characters before it. The empty pattern occurs everywhere, also at the end.
-/

namespace CoffeeTree.Text

/-- The least place at which `pattern` occurs. -/
def first? (pattern : List Char) : List Char → Option Nat
  | [] => if pattern.isEmpty then some 0 else none
  | c :: rest =>
    if pattern.isPrefixOf (c :: rest) then some 0 else (first? pattern rest).map (· + 1)

/-- The greatest place at which `pattern` occurs. -/
def last? (pattern : List Char) : List Char → Option Nat
  | [] => if pattern.isEmpty then some 0 else none
  | c :: rest =>
    match last? pattern rest with
    | some i => some (i + 1)
    | none => if pattern.isPrefixOf (c :: rest) then some 0 else none

/-- The least place from `start` on at which `pattern` occurs. -/
def firstFrom? (pattern text : List Char) (start : Nat) : Option Nat :=
  if start ≤ text.length then (first? pattern (text.drop start)).map (· + start) else none

/-- The greatest place up to `stop` at which `pattern` occurs. -/
def lastUpTo? (pattern text : List Char) (stop : Nat) : Option Nat :=
  last? pattern (text.take (stop + pattern.length))

end CoffeeTree.Text
