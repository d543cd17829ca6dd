import CoffeeTree.Number.Binary64

/-!
# JSON values

Integers and floating point numbers are different values, and an object is the list of its entries
in the order in which they were written. `Json.insert` keeps one entry per key: a later value for
the same key replaces the earlier one in its place.
-/

namespace CoffeeTree

/-- A JSON value. -/
inductive Json where
  | null
  | bool (value : Bool)
  | int (value : Int)
  | float (value : Binary64)
  | str (value : String)
  | arr (items : List Json)
  | obj (entries : List (String × Json))
  deriving Inhabited, Repr

namespace Json

/-- The entries of an object. -/
abbrev Entries := List (String × Json)

/-- The value of a key. -/
def Entries.get? (key : String) : Entries → Option Json
  | [] => none
  | (k, v) :: rest => if k = key then some v else get? key rest

/-- Sets the value of a key: in place if the key is there, and at the end otherwise. -/
def Entries.insert (key : String) (value : Json) : Entries → Entries
  | [] => [(key, value)]
  | (k, v) :: rest => if k = key then (k, value) :: rest else (k, v) :: insert key value rest

/-- One entry per key, the last value written for it at the place of the first. -/
def Entries.ofList (entries : List (String × Json)) : Entries :=
  entries.foldl (fun acc entry ↦ Entries.insert entry.1 entry.2 acc) []

end Json

end CoffeeTree
