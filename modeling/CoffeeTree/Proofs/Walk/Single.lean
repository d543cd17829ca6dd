import CoffeeTree.Proofs.Walk.Converter

/-!
# A run by itself

A run that succeeds is a walk through one run, whose relation does not look at the other one
(`Walk.single`). What is known of results on every walk is then known of the run: of what an
expression becomes (`Convert.expresses_of_expr`), of what becomes of one node
(`Convert.madeFor_of_node?`), and of the body of a program (`Convert.madeFor_of_programBody`).
-/

namespace CoffeeTree

open CoffeeTree.Tree (Visit)

namespace Convert

/-- Whatever the conversion gives is good. -/
def Yields {α : Type} (Good : α → Prop) (c : Conversion α) : Prop :=
  ∀ a, c.result = .ok a → Good a

namespace Yields

variable {α β : Type} {Good : α → Prop} {Good' : β → Prop} {c : Conversion α}

theorem of_pure {a : α} (h : Good a) : Yields Good (pure a) := by
  intro b hb
  exact Except.ok.inj hb ▸ h

theorem of_unrecognized {ancestors : List String} {t : Tree} {cause : Cause} :
    Yields Good (unrecognized ancestors t cause) :=
  fun _ ha ↦ absurd ha (by simp [unrecognized, Traced.fail])

/-- **A sequence yields what its last step yields** after results of the steps before. -/
theorem bind_of_ok {next : α → Conversion β} (h : Yields Good c)
    (hnext : ∀ a, c.result = .ok a → Good a → Yields Good' (next a)) :
    Yields Good' (c >>= next) := by
  intro b hb
  obtain ⟨a, ha, hb⟩ := Traced.result_bind_eq_ok.1 hb
  exact hnext a ha (h a ha) b hb

theorem bind {next : α → Conversion β} (h : Yields Good c)
    (hnext : ∀ a, Good a → Yields Good' (next a)) : Yields Good' (c >>= next) :=
  h.bind_of_ok fun a _ ↦ hnext a

end Yields

end Convert

open CoffeeTree.Convert

/-- A walk through one run, which matters when it succeeds. -/
def Walk.single (source : Source) (root : Tree) : Walk source source where
  root := root
  onLocation := id
  onPlace := id
  Stands _ _ t := root.Reaches t
  Visits _ := True
  Admits _ := True
  Relates Good _ c _ := Yields Good c
  injective := Function.injective_id
  onLocation_merge := Location.id_merge
  reaches_of_stands h := h
  admits_of_stands _ _ _ := trivial
  stands_child h hc := h.tail hc
  visits_next _ _ := trivial
  visits_plain _ _ := trivial
  admits_merge _ _ := trivial
  relates_pure h := .of_pure h
  relates_bind h hnext := h.bind_of_ok hnext
  relates_unrecognized _ _ _ := .of_unrecognized
  relates_expandRight _ := fun _ _ _ _ ↦ trivial
  relates_expandLeft _ := fun _ _ _ _ ↦ trivial
  relates_build _ _ := fun _ _ ↦ trivial

namespace Convert

variable {source : Source} {ancestors : List String} {root t : Tree}

/-- On that walk every node of the tree is ready. -/
theorem single_ready (h : root.Reaches t) (role : Tree.Role) :
    (Walk.single source root).Ready ancestors ancestors ⟨role, t⟩ :=
  have hstands : (Walk.single source root).Stands ancestors ancestors t := h
  Walk.ready hstands trivial

/-- **What an expression becomes** is grown, keeps what is visited from the expression, and is not a
constructor. -/
theorem expresses_of_expr (h : root.Reaches t) {n : Node}
    (hn : (expr source ancestors t).result = .ok n) : Expresses source root t n :=
  ((single_ready h .expression).walks (Visit.plain_expression t) n hn).1

/-- What becomes of a node was made for the visit as a branch. -/
theorem madeFor_of_node? {node : Option Node}
    (h : (node? source ancestors t).result = .ok node) :
    MadeFor source t [⟨.branch, t⟩] node.toList :=
  Walk.node?_walks (single_ready (.refl t) .branch) node h

/-- The condition and the branches that a converted `if` is put together from. -/
theorem exists_of_expr_ifNode {location : Option Location} {condition : Tree}
    {body : Tree.Block Tree} {elseBody : Option Tree}
    (hreaches : root.Reaches (.ifNode location condition body elseBody)) {n : Node}
    (h : (expr source ancestors (.ifNode location condition body elseBody)).result = .ok n) :
    ∃ test consequent alternate, Tested source root location condition test ∧
      (Node.build source location (.conditional test consequent alternate)).result = .ok n := by
  have hready : (Walk.single source root).Ready ancestors ancestors
      ⟨.expression, .ifNode location condition body elseBody⟩ := single_ready hreaches .expression
  obtain ⟨test, consequent, alternate, htest, -, -, hresult⟩ :=
    (Walk.ifNode_parts_walks hready.toEnters n h).exists_parts
  exact ⟨test, consequent, alternate, htest, hresult⟩

/-- The body of a program was made for its root. -/
theorem madeFor_of_programBody {root : Tree.Block Tree} {body : Node}
    (h : (programBody source root).result = .ok body) :
    MadeFor source (.block root) [⟨.branch, .block root⟩] [body] := by
  have hstands : ∀ t ∈ root.expressions,
      (Walk.single source (.block root)).Stands ["Block"] ["Block"] t :=
    fun t ht ↦ .head (show t ∈ (Tree.block root).children from ht) (.refl t)
  exact Walk.programBody_walks (.refl _) (fun _ _ ↦ trivial) hstands trivial body h

end Convert

end CoffeeTree
