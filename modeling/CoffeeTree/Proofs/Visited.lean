import CoffeeTree.Proofs.Containment

/-!
# What becomes of the visited nodes

A conversion that succeeds has converted every node that is visited from its root, and what such a
node became stands in the output (`Convert.exists_of_converts`), unless it was stepped through or
names a constructor. This is the way back from `Proofs/Origins`, where every node of the output is
traced to a node of the tree.

Being kept passes from a visit to the next ones (`Convert.Kept.of_mem_next`): one step of the
converter is enough for that, and the rest is an induction along the visits.
-/

namespace CoffeeTree

/-- The tree is visited from the root, where it cannot be stepped through. -/
def Tree.Converts (root t : Tree) : Prop :=
  ∃ role, Visit.LeadsTo ⟨.branch, root⟩ ⟨role, t⟩ ∧ Visit.passes ⟨role, t⟩ = false

namespace Convert

open CoffeeTree.Tree (Visit)

variable {source : Source}

/-! ### All visits -/

/-- **What follows a kept visit is kept.** -/
theorem Kept.of_mem_next {output : Node} {v w : Visit} (h : Kept source output v)
    (hw : w ∈ v.next) : Kept source output w := by
  cases h with
  | converted next_eq _ result stays =>
    rw [next_eq] at hw
    have hkept := (expresses_of_expr (.refl v.node) result).keeps w hw
    exact (hkept _ (List.forall_mem_singleton.2 (.refl _))).of_stays stays
  | passed _ _ next => exact next w hw

theorem Kept.of_leadsTo {output : Node} {v w : Visit} (h : Kept source output v)
    (hw : v.LeadsTo w) : Kept source output w := by
  induction hw with
  | refl => exact h
  | tail _ hstep ih => exact ih.of_mem_next hstep

/-- The node is what the tree becomes, as the root of a program or by itself. Without characters
there is nothing to convert, and the tree of a program is not looked at. -/
inductive Becomes (source : Source) : Tree → Node → Prop where
  | program {root : Tree.Block Tree} {output : Node} (text_ne_nil : source.text ≠ [])
      (result : (program source root).result = .ok output) : Becomes source (.block root) output
  | node {ancestors : List String} {tree : Tree} {output : Node}
      (result : (node? source ancestors tree).result = .ok (some output)) :
      Becomes source tree output

/-- The root is visited as a body, and that visit is kept. -/
theorem Becomes.kept {tree : Tree} {output : Node} (h : Becomes source tree output) :
    Kept source output ⟨.branch, tree⟩ := by
  cases h with
  | program text_ne_nil result =>
    obtain ⟨body, hbody, rfl⟩ := exists_programBody text_ne_nil result
    refine (madeFor_of_programBody hbody).keeps _ List.mem_cons_self _ ?_
    exact List.forall_mem_singleton.2 (.head (List.mem_singleton_self body) (.refl body))
  | node result =>
    exact (madeFor_of_node? result).keeps _ List.mem_cons_self _
      (List.forall_mem_singleton.2 (.refl output))

/-- **What a tree converts has been converted, and what became of it is in the output**, unless it
names a constructor. -/
theorem exists_of_converts {tree t : Tree} {output : Node} (h : Becomes source tree output)
    (ht : tree.Converts t) :
    ∃ ancestors n, (expr source ancestors t).result = .ok n ∧ Stays output n := by
  obtain ⟨role, hvisit, hpasses⟩ := ht
  cases h.kept.of_leadsTo hvisit with
  | converted _ _ result stays => exact ⟨_, _, result, stays⟩
  | passed passes _ _ => exact absurd passes (by simp [hpasses])

end Convert

end CoffeeTree
