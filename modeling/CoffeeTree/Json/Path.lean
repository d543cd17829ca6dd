import CoffeeTree.Json.Basic

/-!
# Paths into JSON values

A path leads from a value to one inside it, by keys of objects and indices of arrays.
-/

namespace CoffeeTree.Json

/-- One step into a value. -/
inductive Step where
  | key (name : String)
  | index (i : Nat)
  deriving DecidableEq, Repr

def Step.text : Step → String
  | key name => "." ++ name
  | index i => s!"[{i}]"

/-- The steps from the root, the first one first. -/
abbrev Path := List Step

/-- The path as messages show it, where the root is a dollar sign. -/
def Path.text (path : Path) : String := "$" ++ String.join (path.map Step.text)

/-- The value that one step leads to. -/
def step? (value : Json) : Step → Option Json
  | .key name =>
    match value with
    | .obj entries => Entries.get? name entries
    | _ => none
  | .index i =>
    match value with
    | .arr items => items[i]?
    | _ => none

/-- The value that a path leads to. -/
def follow? (value : Json) : Path → Option Json
  | [] => some value
  | step :: rest =>
    match value.step? step with
    | none => none
    | some next => next.follow? rest

end CoffeeTree.Json
