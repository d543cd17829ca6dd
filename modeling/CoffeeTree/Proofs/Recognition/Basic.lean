import CoffeeTree.Proofs.Descendants
import CoffeeTree.Proofs.Equations

/-!
# Recognizable trees

Which trees have a counterpart is a matter of the tree alone. A node is *visited* in a role, as an
expression, as a body, as an access, as a statement of a class or as a member of one; the role and
the kind of node decide whether it is accepted (`Visit.accepts`) and which nodes are visited from
there, and in which roles (`Visit.next`). A tree is *recognized* when every node that is visited
from its root is accepted.

Three kinds of nodes are never visited: the name in an access, the expressions after the first one
of a block in parentheses, and the accesses to an object that stands as a statement in the body of a
class. Nothing is asked of them.

The definitions do not mention the converter, its source or a location. That the converter accepts
exactly these trees is another matter.
-/

namespace CoffeeTree

namespace Tree

/-! ### Words and operators -/

def truthWords : List String := ["true", "yes", "on", "false", "no", "off"]

def binaryOperators : List String := ["+", "-", "*", "/", "%"]

def unaryOperators : List String := ["+", "-", "typeof", "!"]

/-! ### Visits -/

/-- The role in which a node is visited. -/
inductive Role where
  | expression
  /-- A body or a branch: a block, which may be empty, or an expression. -/
  | branch
  /-- What follows the base of a value. -/
  | access
  /-- A statement in the body of a class: an object with members, or an expression. -/
  | statement
  /-- A member of an object in the body of a class. -/
  | member
  deriving DecidableEq, Repr

/-- A node in a role. -/
structure Visit where
  role : Role
  node : Tree

/-- Whether a node by itself can stand for an expression. -/
@[simp] def isUnderstood : Tree → Bool
  | access _ _ => false
  | index _ _ => false
  | unknown _ _ _ => false
  | block b => !b.expressions.isEmpty
  | parens _ (block b) => !b.expressions.isEmpty
  | literal l => !Literal.looksNumeric l.value.toList || (Literal.number? l.value.toList).isSome
  | bool _ val => truthWords.contains val
  | op _ operator _ none => unaryOperators.contains operator
  | op _ operator _ (some _) => binaryOperators.contains operator
  | _ => true

/-- The nodes that are visited from a node, in their roles. -/
@[simp] def visits : Tree → List Visit
  | access _ _ => []
  | arr _ objects => objects.map (⟨.expression, ·⟩)
  | assign _ target right _ => [⟨.expression, target⟩, ⟨.expression, right⟩]
  | block b => b.expressions.map (⟨.expression, ·⟩)
  | bool _ _ => []
  | call _ callee args => ⟨.expression, callee⟩ :: args.map (⟨.expression, ·⟩)
  | classNode _ name parent body =>
    name.toList.map (⟨.expression, ·⟩) ++ parent.toList.map (⟨.expression, ·⟩) ++
      body.toList.flatMap fun b ↦ b.expressions.map (⟨.statement, ·⟩)
  | code _ params body _ =>
    params.map (⟨.expression, param ·⟩) ++ body.toList.map (⟨.branch, block ·⟩)
  | ifNode _ condition body elseBody =>
    ⟨.expression, condition⟩ :: ⟨.branch, block body⟩ :: elseBody.toList.map (⟨.branch, ·⟩)
  | index _ i => [⟨.expression, i⟩]
  | literal _ => []
  | null _ => []
  | obj _ properties => properties.map (⟨.expression, ·⟩)
  | op _ _ first second => ⟨.expression, first⟩ :: second.toList.map (⟨.expression, ·⟩)
  | param p => ⟨.expression, p.name⟩ :: p.value.toList.map (⟨.expression, ·⟩)
  | parens _ (block b) => b.expressions.head?.toList.map (⟨.expression, ·⟩)
  | parens _ body => [⟨.expression, body⟩]
  | switch _ subject cases otherwise =>
    subject.toList.map (⟨.expression, ·⟩) ++
      (cases.flatMap fun case ↦
        case.conditions.toList.map (⟨.expression, ·⟩) ++ [⟨.branch, block case.body⟩]) ++
      otherwise.toList.map (⟨.branch, block ·⟩)
  | value _ base properties => ⟨.expression, base⟩ :: properties.map (⟨.access, ·⟩)
  | whileNode _ condition body => [⟨.expression, condition⟩, ⟨.branch, block body⟩]
  | unknown _ _ _ => []

namespace Visit

/-- Whether a node is what its role asks for. -/
@[simp] def accepts : Visit → Bool
  | ⟨.branch, block _⟩ => true
  | ⟨.access, access _ _⟩ => true
  | ⟨.access, index _ _⟩ => true
  | ⟨.access, _⟩ => false
  | ⟨.member, value _ _ _⟩ => true
  | ⟨.member, assign _ _ _ _⟩ => true
  | ⟨.member, _⟩ => false
  | ⟨_, node⟩ => node.isUnderstood

/-- The visits that follow. Of an object in the body of a class its members are visited. -/
@[simp] def next : Visit → List Visit
  | ⟨.statement, value _ (obj _ properties) _⟩ => properties.map (⟨.member, ·⟩)
  | ⟨_, node⟩ => node.visits

/-- The second visit is the first one or follows from it, in any number of steps. -/
def LeadsTo : Visit → Visit → Prop := Relation.ReflTransGen fun v w ↦ w ∈ v.next

/-- Every visit from here on is accepted. -/
def Recognized (v : Visit) : Prop := ∀ w, v.LeadsTo w → w.accepts

/-- One step: the visit is accepted, and what follows from it is recognized. -/
theorem recognized_iff {v : Visit} :
    v.Recognized ↔ v.accepts ∧ ∀ w ∈ v.next, w.Recognized := by
  constructor
  · intro h
    exact ⟨h v .refl, fun w hw u hu ↦ h u (.head hw hu)⟩
  · rintro ⟨hv, hnext⟩ u hu
    rcases Relation.ReflTransGen.cases_head hu with rfl | ⟨w, hw, hwu⟩
    · exact hv
    · exact hnext w hw u hwu

end Visit

/-- **A recognized tree.** The root is visited as a body: it may be empty. -/
def Recognized (root : Block Tree) : Prop := Visit.Recognized ⟨.branch, block root⟩

/-! ### Expressions -/

/-- The node is recognized as an expression. -/
abbrev IsExpression (t : Tree) : Prop := Visit.Recognized ⟨.expression, t⟩

/-- The same for an expression, whose visits are those of the node. -/
theorem isExpression_iff {t : Tree} :
    t.IsExpression ↔ t.isUnderstood ∧ ∀ w ∈ t.visits, w.Recognized :=
  Visit.recognized_iff

section Kinds

variable {location : Option Location}

@[simp] theorem isExpression_classNode {name parent : Option Tree} {body : Option (Block Tree)} :
    IsExpression (classNode location name parent body) ↔
      (∀ t ∈ name, t.IsExpression) ∧ (∀ t ∈ parent, t.IsExpression) ∧
        ∀ b ∈ body, ∀ t ∈ b.expressions, Visit.Recognized ⟨.statement, t⟩ := by
  rw [isExpression_iff]
  simp only [isUnderstood, visits, true_and, List.forall_mem_append, List.forall_mem_map,
    List.forall_mem_flatMap, Option.mem_toList, and_assoc]
  exact Iff.rfl

@[simp] theorem isExpression_null : IsExpression (null location) := by
  rw [isExpression_iff]
  simp

/-- Of a block in parentheses only the first expression has to be one. -/
@[simp] theorem isExpression_parens_block {b : Block Tree} :
    IsExpression (parens location (block b)) ↔
      ∃ first ∈ b.expressions.head?, first.IsExpression := by
  rw [isExpression_iff]
  cases hb : b.expressions <;> simp [hb]

@[simp] theorem isExpression_value {base : Tree} {properties : List Tree} :
    IsExpression (value location base properties) ↔
      base.IsExpression ∧ ∀ t ∈ properties, Visit.Recognized ⟨.access, t⟩ := by
  rw [isExpression_iff]
  simp

/-! ### Other roles -/

/-- A block is a branch if it holds expressions, or nothing. -/
@[simp] theorem recognized_block {b : Block Tree} :
    Visit.Recognized ⟨.branch, block b⟩ ↔ ∀ t ∈ b.expressions, t.IsExpression := by
  rw [Visit.recognized_iff]
  simp

@[simp] theorem recognized_index {i : Tree} :
    Visit.Recognized ⟨.access, index location i⟩ ↔ i.IsExpression := by
  rw [Visit.recognized_iff]
  simp

/-- Of an object that stands as a statement its members are visited, and the object is not. -/
@[simp] theorem recognized_object {t : Tree} {properties : List Tree}
    (h : Convert.classObject? t = some properties) :
    Visit.Recognized ⟨.statement, t⟩ ↔ ∀ u ∈ properties, Visit.Recognized ⟨.member, u⟩ := by
  obtain ⟨location, inner, accesses, rfl⟩ := Convert.exists_of_classObject? h
  rw [Visit.recognized_iff]
  simp

/-- Any other statement of a class is an expression. -/
@[simp] theorem recognized_statement {t : Tree} (h : Convert.classObject? t = none) :
    Visit.Recognized ⟨.statement, t⟩ ↔ t.IsExpression := by
  rw [Visit.recognized_iff, isExpression_iff]
  cases t with
  | value location base accesses =>
    cases base with
    | obj inner properties => exact absurd h (Option.some_ne_none _)
    | _ => exact Iff.rfl
  | _ => exact Iff.rfl

end Kinds

end Tree

end CoffeeTree
