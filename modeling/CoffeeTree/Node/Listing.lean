import CoffeeTree.Node.Basic

/-!
# Listing the nodes of a tree

All nodes in depth-first order, each before its parts. `walk` keeps the nodes still to be visited on
a stack; a node that is visited is replaced there by the parts that it owns. The shared fields are
not entered, since their owner holds the nodes under another name.
-/

namespace CoffeeTree.Node

theorem total_size_filter_le (keep : FieldName × Field Node → Bool)
    (fields : List (FieldName × Field Node)) :
    total (((fields.filter keep).flatMap (·.2.parts)).map size) ≤
      total ((fields.flatMap (·.2.parts)).map size) := by
  induction fields with
  | nil => exact Nat.le_refl _
  | cons field rest ih =>
    rw [List.filter_cons]
    split <;> simp only [List.flatMap_cons, List.map_append, total_append] <;> omega

theorem total_size_owned_le (n : Node) :
    total (n.owned.map size) ≤ total (n.children.map size) :=
  total_size_filter_le _ n.shape.fields

/-- The nodes on a stack and everything below them, the top of the stack first. -/
def walk : List Node → List Node
  | [] => []
  | n :: rest => n :: walk (n.owned ++ rest)
termination_by stack => total (stack.map size)
decreasing_by
  have := total_size_owned_le n
  simp only [List.map_append, total_append, List.map_cons, total, size_eq n]
  omega

/-- The node and everything below it. -/
def listing (n : Node) : List Node := walk [n]

end CoffeeTree.Node
