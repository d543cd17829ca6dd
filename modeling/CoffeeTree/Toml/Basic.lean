import CoffeeTree.Number.Binary64

/-!
# TOML values

A table is the list of its entries, one per key. `Table.modifyAt` reaches the table under a path of
keys and makes the tables on the way that are missing.
-/

namespace CoffeeTree

/-- A TOML value. -/
inductive Toml where
  | str (value : String)
  | int (value : Int)
  | float (value : Binary64)
  | bool (value : Bool)
  /-- A date, a time of day or both, as it was written. -/
  | moment (text : String)
  | array (items : List Toml)
  | table (entries : List (String × Toml))
  deriving Inhabited, Repr

namespace Toml

/-- A path of keys. -/
abbrev Key := List String

/-- Whether the value holds other values. -/
def isContainer : Toml → Bool
  | array _ => true
  | table _ => true
  | _ => false

/-- The entries of a table. -/
abbrev Table := List (String × Toml)

namespace Table

def get? (key : String) : Table → Option Toml
  | [] => none
  | (k, v) :: rest => if k = key then some v else get? key rest

/-- Sets the value of a key: in place if the key is there, and at the end otherwise. -/
def set (key : String) (value : Toml) : Table → Table
  | [] => [(key, value)]
  | (k, v) :: rest => if k = key then (k, value) :: rest else (k, v) :: set key value rest

/-- Adds an entry under a key that is not there yet. -/
def insertNew (key : String) (value : Toml) (t : Table) : Option Table :=
  if (t.get? key).isSome then none else some (t.set key value)

/-- Adds an empty table at the end of the array under a key. -/
def pushTable (key : String) (t : Table) : Option Table :=
  match t.get? key with
  | none => some (t.set key (.array [.table []]))
  | some (.array items) => some (t.set key (.array (items ++ [.table []])))
  | some _ => none

/-- Changes the table under a path of keys. If `intoArrays` is set, a key of an array leads to the
last item. There is no way past anything else that is not a table. -/
def modifyAt (intoArrays : Bool) (change : Table → Option Table) : Key → Table → Option Table
  | [], t => change t
  | key :: path, t =>
    match t.get? key with
    | none => (modifyAt intoArrays change path []).map fun inner ↦ t.set key (.table inner)
    | some (.table entries) =>
      (modifyAt intoArrays change path entries).map fun inner ↦ t.set key (.table inner)
    | some (.array items) =>
      match intoArrays, items.getLast? with
      | true, some (.table entries) =>
        (modifyAt intoArrays change path entries).map fun inner ↦
          t.set key (.array (items.dropLast ++ [.table inner]))
      | _, _ => none
    | some _ => none

end Table

end Toml

end CoffeeTree
