import CoffeeTree.Node.Basic
import CoffeeTree.Tree.Basic
import Mathlib.Logic.Relation

/-!
# Nodes below a node

Both kinds of tree are walked through their `children`. `Reaches` is the reflexive and transitive
closure of that step. In a syntax tree the step goes through *all* fields, so a shared part is
reached along each field that holds it.

Children are smaller than their parent, which gives an induction that speaks about `children` alone
(`Node.induction_children`, `Tree.induction_children`). A proof by it never goes through the lists,
options and blocks in which a tree keeps its parts.
-/

namespace CoffeeTree

namespace Node

/-- The second node is the first one or stands somewhere below it. -/
def Reaches : Node → Node → Prop := Relation.ReflTransGen fun n m ↦ m ∈ n.children

theorem Reaches.refl (n : Node) : n.Reaches n := Relation.ReflTransGen.refl

theorem Reaches.head {n c m : Node} (hc : c ∈ n.children) (h : c.Reaches m) : n.Reaches m :=
  Relation.ReflTransGen.head hc h

/-- What is reached in two stretches is reached. -/
theorem Reaches.trans {n m k : Node} (h : n.Reaches m) (hm : m.Reaches k) : n.Reaches k :=
  Relation.ReflTransGen.trans h hm

/-- What holds of a node and passes to children holds everywhere below. -/
theorem Reaches.preserves {P : Node → Prop} (hstep : ∀ n, P n → ∀ c ∈ n.children, P c)
    {n m : Node} (h : n.Reaches m) (hn : P n) : P m := by
  induction h with
  | refl => exact hn
  | tail _ hchild ih => exact hstep _ ih _ hchild

theorem le_total_of_mem {k : Nat} {l : List Nat} (h : k ∈ l) : k ≤ total l := by
  induction l with
  | nil => exact absurd h List.not_mem_nil
  | cons m rest ih =>
    rw [total]
    rcases List.mem_cons.1 h with rfl | hk
    · omega
    · have := ih hk
      omega

/-- Children have fewer nodes. -/
theorem size_lt_of_mem_children {n c : Node} (h : c ∈ n.children) : c.size < n.size := by
  rw [size_eq n]
  have := le_total_of_mem (List.mem_map_of_mem (f := size) h)
  omega

theorem induction_children {P : Node → Prop} (hstep : ∀ n, (∀ c ∈ n.children, P c) → P n)
    (n : Node) : P n :=
  hstep n fun c _hc ↦ induction_children hstep c
termination_by n.size
decreasing_by exact size_lt_of_mem_children _hc

end Node

namespace Tree

/-- The second node is the first one or stands somewhere below it. -/
def Reaches : Tree → Tree → Prop := Relation.ReflTransGen fun t u ↦ u ∈ t.children

theorem Reaches.refl (t : Tree) : t.Reaches t := Relation.ReflTransGen.refl

theorem Reaches.head {t c u : Tree} (hc : c ∈ t.children) (h : c.Reaches u) : t.Reaches u :=
  Relation.ReflTransGen.head hc h

theorem Reaches.tail {t u c : Tree} (h : t.Reaches u) (hc : c ∈ u.children) : t.Reaches c :=
  Relation.ReflTransGen.tail h hc

theorem Reaches.cases_head {t u : Tree} (h : t.Reaches u) :
    t = u ∨ ∃ c ∈ t.children, c.Reaches u :=
  Relation.ReflTransGen.cases_head h

/-- What is to hold everywhere in a tree holds of its root and everywhere below its children. -/
theorem forall_reaches_iff {P : Tree → Prop} {t : Tree} :
    (∀ u, t.Reaches u → P u) ↔ P t ∧ ∀ c ∈ t.children, ∀ u, c.Reaches u → P u := by
  constructor
  · intro h
    exact ⟨h t (.refl t), fun c hc u hu ↦ h u (.head hc hu)⟩
  · rintro ⟨ht, hchildren⟩ u hu
    rcases hu.cases_head with rfl | ⟨c, hc, hcu⟩
    · exact ht
    · exact hchildren c hc u hcu

/-! ### Children are smaller -/

theorem sizeOf_option_pos {α : Type} [SizeOf α] (o : Option α) : 0 < sizeOf o := by
  cases o with
  | none => exact Nat.zero_lt_one
  | some a =>
    rw [Option.some.sizeOf_spec]
    omega

/-- A part that may be missing is smaller than the field that holds it. -/
theorem sizeOf_lt_of_mem_toList {c : Tree} {o : Option Tree} (h : c ∈ o.toList) :
    sizeOf c < sizeOf o := by
  rw [Option.mem_toList.1 h, Option.some.sizeOf_spec]
  omega

/-- A block weighs as much as the fields it consists of, so this one is not strict. -/
theorem sizeOf_le_of_mem_block_toList {c : Tree} {body : Option (Block Tree)}
    (h : c ∈ (body.map block).toList) : sizeOf c ≤ sizeOf body := by
  obtain ⟨b, rfl, rfl⟩ := Option.map_eq_some_iff.1 (Option.mem_toList.1 h)
  have hblock : sizeOf (block b) = 1 + sizeOf b := block.sizeOf_spec b
  have hsome : sizeOf (some b) = 1 + sizeOf b := Option.some.sizeOf_spec b
  omega

/-- The same for one condition and for several. -/
theorem sizeOf_lt_of_mem_conditions {c : Tree} {conditions : Conditions Tree}
    (h : c ∈ conditions.toList) : sizeOf c < sizeOf conditions := by
  cases conditions with
  | one condition =>
    rw [List.mem_singleton.1 h, Conditions.one.sizeOf_spec]
    omega
  | many list =>
    have := List.sizeOf_lt_of_mem (show c ∈ list from h)
    rw [Conditions.many.sizeOf_spec]
    omega

/-- The conditions and the body of a case are smaller than the list of cases. -/
theorem sizeOf_lt_of_mem_cases {c : Tree} {cases : List (Case Tree)}
    (h : c ∈ cases.flatMap fun case ↦ case.conditions.toList ++ [block case.body]) :
    sizeOf c < sizeOf cases := by
  obtain ⟨⟨conditions, body⟩, hcase, hc⟩ := List.mem_flatMap.1 h
  have hlt := List.sizeOf_lt_of_mem hcase
  rw [Case.mk.sizeOf_spec] at hlt
  rcases List.mem_append.1 hc with hc | hc
  · have := sizeOf_lt_of_mem_conditions (show c ∈ conditions.toList from hc)
    omega
  · have : c = block body := List.mem_singleton.1 hc
    rw [this, block.sizeOf_spec]
    omega

section Kinds

variable {c : Tree} {location : Option Location}

theorem sizeOf_lt_access {name : Literal} (h : c ∈ (access location name).children) :
    sizeOf c < sizeOf (access location name) := by
  have := sizeOf_option_pos location
  rw [List.mem_singleton.1 h, literal.sizeOf_spec, access.sizeOf_spec]
  omega

theorem sizeOf_lt_assign {target right : Tree} {context : Option String}
    (h : c ∈ (assign location target right context).children) :
    sizeOf c < sizeOf (assign location target right context) := by
  rw [assign.sizeOf_spec]
  rcases List.mem_cons.1 h with rfl | h
  · omega
  · rw [List.mem_singleton.1 h]
    omega

theorem sizeOf_lt_block {b : Block Tree} (h : c ∈ (block b).children) :
    sizeOf c < sizeOf (block b) := by
  obtain ⟨location, expressions⟩ := b
  have := List.sizeOf_lt_of_mem (show c ∈ expressions from h)
  rw [block.sizeOf_spec, Block.mk.sizeOf_spec]
  omega

theorem sizeOf_lt_call {callee : Tree} {args : List Tree}
    (h : c ∈ (call location callee args).children) :
    sizeOf c < sizeOf (call location callee args) := by
  rw [call.sizeOf_spec]
  rcases List.mem_cons.1 h with rfl | h
  · omega
  · have := List.sizeOf_lt_of_mem h
    omega

theorem sizeOf_lt_classNode {name parent : Option Tree} {body : Option (Block Tree)}
    (h : c ∈ (classNode location name parent body).children) :
    sizeOf c < sizeOf (classNode location name parent body) := by
  rw [classNode.sizeOf_spec]
  rcases List.mem_append.1 h with h | h
  · rcases List.mem_append.1 h with h | h
    · have := sizeOf_lt_of_mem_toList h
      omega
    · have := sizeOf_lt_of_mem_toList h
      omega
  · have := sizeOf_le_of_mem_block_toList h
    omega

theorem sizeOf_lt_code {params : List (Param Tree)} {body : Option (Block Tree)} {bound : Bool}
    (h : c ∈ (code location params body bound).children) :
    sizeOf c < sizeOf (code location params body bound) := by
  rw [code.sizeOf_spec]
  rcases List.mem_append.1 h with h | h
  · obtain ⟨p, hp, rfl⟩ := List.mem_map.1 h
    have := List.sizeOf_lt_of_mem hp
    rw [param.sizeOf_spec]
    omega
  · have := sizeOf_le_of_mem_block_toList h
    omega

theorem sizeOf_lt_ifNode {condition : Tree} {body : Block Tree} {elseBody : Option Tree}
    (h : c ∈ (ifNode location condition body elseBody).children) :
    sizeOf c < sizeOf (ifNode location condition body elseBody) := by
  have := sizeOf_option_pos location
  rw [ifNode.sizeOf_spec]
  rcases List.mem_cons.1 h with rfl | h
  · omega
  · rcases List.mem_cons.1 h with rfl | h
    · rw [block.sizeOf_spec]
      omega
    · have := sizeOf_lt_of_mem_toList h
      omega

theorem sizeOf_lt_op {operator : String} {first : Tree} {second : Option Tree}
    (h : c ∈ (op location operator first second).children) :
    sizeOf c < sizeOf (op location operator first second) := by
  rw [op.sizeOf_spec]
  rcases List.mem_cons.1 h with rfl | h
  · omega
  · have := sizeOf_lt_of_mem_toList h
    omega

theorem sizeOf_lt_param {p : Param Tree} (h : c ∈ (param p).children) :
    sizeOf c < sizeOf (param p) := by
  obtain ⟨location, name, value⟩ := p
  rw [param.sizeOf_spec, Param.mk.sizeOf_spec]
  rcases List.mem_cons.1 h with h | h
  · rw [show c = name from h]
    omega
  · have := sizeOf_lt_of_mem_toList (show c ∈ value.toList from h)
    omega

theorem sizeOf_lt_switch {subject : Option Tree} {cases : List (Case Tree)}
    {otherwise : Option (Block Tree)}
    (h : c ∈ (switch location subject cases otherwise).children) :
    sizeOf c < sizeOf (switch location subject cases otherwise) := by
  rw [switch.sizeOf_spec]
  rcases List.mem_append.1 h with h | h
  · rcases List.mem_append.1 h with h | h
    · have := sizeOf_lt_of_mem_toList h
      omega
    · have := sizeOf_lt_of_mem_cases h
      omega
  · have := sizeOf_le_of_mem_block_toList h
    omega

theorem sizeOf_lt_value {base : Tree} {properties : List Tree}
    (h : c ∈ (value location base properties).children) :
    sizeOf c < sizeOf (value location base properties) := by
  rw [value.sizeOf_spec]
  rcases List.mem_cons.1 h with rfl | h
  · omega
  · have := List.sizeOf_lt_of_mem h
    omega

theorem sizeOf_lt_whileNode {condition : Tree} {body : Block Tree}
    (h : c ∈ (whileNode location condition body).children) :
    sizeOf c < sizeOf (whileNode location condition body) := by
  have := sizeOf_option_pos location
  rw [whileNode.sizeOf_spec]
  rcases List.mem_cons.1 h with rfl | h
  · omega
  · rw [List.mem_singleton.1 h, block.sizeOf_spec]
    omega

end Kinds

/-- **A child is smaller than its node**, of whatever kind that is. -/
theorem sizeOf_lt_of_mem_children {t c : Tree} (h : c ∈ t.children) : sizeOf c < sizeOf t := by
  cases t with
  | access location name => exact sizeOf_lt_access h
  | arr location objects =>
    have := List.sizeOf_lt_of_mem (show c ∈ objects from h)
    rw [arr.sizeOf_spec]
    omega
  | assign location target right context => exact sizeOf_lt_assign h
  | block b => exact sizeOf_lt_block h
  | bool location val => exact absurd h List.not_mem_nil
  | call location callee args => exact sizeOf_lt_call h
  | classNode location name parent body => exact sizeOf_lt_classNode h
  | code location params body bound => exact sizeOf_lt_code h
  | ifNode location condition body elseBody => exact sizeOf_lt_ifNode h
  | index location i =>
    rw [List.mem_singleton.1 h, index.sizeOf_spec]
    omega
  | literal l => exact absurd h List.not_mem_nil
  | null location => exact absurd h List.not_mem_nil
  | obj location properties =>
    have := List.sizeOf_lt_of_mem (show c ∈ properties from h)
    rw [obj.sizeOf_spec]
    omega
  | op location operator first second => exact sizeOf_lt_op h
  | param p => exact sizeOf_lt_param h
  | parens location body =>
    rw [List.mem_singleton.1 h, parens.sizeOf_spec]
    omega
  | switch location subject cases otherwise => exact sizeOf_lt_switch h
  | value location base properties => exact sizeOf_lt_value h
  | whileNode location condition body => exact sizeOf_lt_whileNode h
  | unknown location type payload => exact absurd h List.not_mem_nil

/-- Induction on the children of a node. -/
theorem induction_children {P : Tree → Prop} (hstep : ∀ t, (∀ c ∈ t.children, P c) → P t)
    (t : Tree) : P t :=
  hstep t fun c _hc ↦ induction_children hstep c
termination_by sizeOf t
decreasing_by exact sizeOf_lt_of_mem_children _hc

end Tree

end CoffeeTree
