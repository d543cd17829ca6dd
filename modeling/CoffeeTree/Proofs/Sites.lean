import CoffeeTree.Proofs.Built
import CoffeeTree.Proofs.Equations

/-!
# Sites

Every node of the output is built for a node of the tree. Most are built at the location of that
node. There are four other places (`Convert.Site`): an access and a loop are built at a hull, and an
index and a case at a hull that was expanded to an anchor. Conditionals are built at the location of
their statement too, but they are the one kind of node with a part that was not built like this: the
negation that `unless` leaves in the tree has no place, and it is never anything else than the
condition of such a statement.

A node is *grown* from a tree when it was built at a site of the tree, or for an `if` in it, from
parts that are grown (`Convert.Grown`). It is then built from built parts, whatever the tree is
(`Convert.Grown.built`).
-/

namespace CoffeeTree

/-- Whether a node of this kind is built at the location that the tree has for it, from parts that
are all built alike. -/
def Kind.ordinary : Kind → Bool
  | .program => false
  | .memberAccess => false
  | .dynamicMemberAccess => false
  | .conditional => false
  | .whileLoop => false
  | .switchCase => false
  | _ => true

namespace Convert

/-! ### Sites -/

/-- The nodes that are built for a node of a tree: where, and of which kind. -/
inductive Site (source : Source) : Tree → Option Location → Kind → Prop where
  | own {t : Tree} {kind : Kind} (ordinary : kind.ordinary = true) : Site source t t.location kind
  -- All accesses of a value reach back to its base, not to the access before them.
  | access {location inner : Option Location} {base : Tree} {properties : List Tree}
      {name : Tree.Literal} (mem : .access inner name ∈ properties) :
      Site source (.value location base properties) (Extent.hull [base.location, inner])
        .memberAccess
  | index {location inner wider : Option Location} {base i : Tree} {properties : List Tree}
      (mem : .index inner i ∈ properties)
      (expanded : (expand (Location.expandRight source "]")
        (Extent.hull [base.location, inner])).result = .ok wider) :
      Site source (.value location base properties) wider .dynamicMemberAccess
  | loop {location : Option Location} {condition : Tree} {body : Tree.Block Tree} :
      Site source (.whileNode location condition body)
        (Extent.hull [location, condition.location, body.location]) .whileLoop
  -- The tree has no location for a case, so it is taken from the conditions and the body.
  | case {location wider : Option Location} {subject : Option Tree}
      {cases : List (Tree.Case Tree)} {otherwise : Option (Tree.Block Tree)}
      {case : Tree.Case Tree} (mem : case ∈ cases)
      (expanded : (expand (Location.expandLeft source "when ") (Extent.hull
        (case.conditions.toList.map (·.location) ++ [case.body.location]))).result = .ok wider) :
      Site source (.switch location subject cases otherwise) wider .switchCase

/-- A conditional is not built at a site, since its test may be built without one. -/
theorem Site.kind_ne_conditional {source : Source} {t : Tree} {location : Option Location}
    {kind : Kind} (h : Site source t location kind) : kind ≠ .conditional := by
  cases h with
  | own ordinary =>
    rintro rfl
    exact absurd ordinary (by decide)
  | _ => exact Kind.noConfusion

/-- The condition of a statement is the negation that `unless` leaves in the tree. -/
def NegatesWhole (location : Option Location) (condition : Tree) : Prop :=
  location.isSome ∧ ∃ first second, condition = .op location "!" first second

/-- An `unless` is a negation at the place of the whole statement. -/
theorem isUnless_iff {statement negation : Option Location} {operator : String} :
    isUnless statement negation operator = true ↔
      operator = "!" ∧ negation.isSome ∧ negation = statement := by
  rw [isUnless, Bool.and_eq_true, Bool.and_eq_true, decide_eq_true_iff, decide_eq_true_iff,
    and_assoc]

theorem negatesWhole_op_iff {statement location : Option Location} {operator : String}
    {first : Tree} {second : Option Tree} :
    NegatesWhole statement (.op location operator first second) ↔
      isUnless statement location operator = true := by
  rw [isUnless_iff]
  constructor
  · rintro ⟨hstatement, first', second', heq⟩
    obtain ⟨rfl, rfl, rfl, rfl⟩ := Tree.op.inj heq
    exact ⟨rfl, hstatement, rfl⟩
  · rintro ⟨rfl, hlocation, rfl⟩
    exact ⟨hlocation, first, second, rfl⟩

/-- The node is the conversion of an `if` of the tree with this location and this condition. -/
def FromIf (source : Source) (root : Tree) (location : Option Location) (condition : Tree)
    (n : Node) : Prop :=
  ∃ body elseBody ancestors, root.Reaches (.ifNode location condition body elseBody) ∧
    (expr source ancestors (.ifNode location condition body elseBody)).result = .ok n

/-- A node that was built for a node of the tree, from parts that were. -/
inductive Grown (source : Source) (root : Tree) : Node → Prop where
  | step {t : Tree} {location : Option Location} {shape : Shape Node} {n : Node}
      (reaches : root.Reaches t) (site : Site source t location shape.kind)
      (parts : ∀ c ∈ shape.children, Grown source root c)
      (result : (Node.build source location shape).result = .ok n) : Grown source root n
  | conditional {location : Option Location} {condition : Tree} {test n : Node}
      {consequent alternate : Option Node} (fromIf : FromIf source root location condition n)
      (plain : ¬ NegatesWhole location condition) (grownTest : Grown source root test)
      (parts : ∀ c ∈ consequent.toList ++ alternate.toList, Grown source root c)
      (result : (Node.build source location (.conditional test consequent alternate)).result =
        .ok n) : Grown source root n
  -- Here the condition is not grown: it has no site, only its operand has one.
  | unless {location : Option Location} {condition : Tree} {operand n : Node}
      {consequent alternate : Option Node} (fromIf : FromIf source root location condition n)
      (negates : NegatesWhole location condition) (grownOperand : Grown source root operand)
      (parts : ∀ c ∈ consequent.toList ++ alternate.toList, Grown source root c)
      (result : (Node.build source location
        (.conditional (.mk none (.unary .not operand)) consequent alternate)).result = .ok n) :
      Grown source root n

/-- The negation of an `unless`: it has no place, and its operand is grown. -/
def Negation (source : Source) (root : Tree) (n : Node) : Prop :=
  ∃ operand, n = .mk none (.unary .not operand) ∧ Grown source root operand

/-- What the condition of a statement becomes: a grown node, or, if it is the negation of an
`unless`, a virtual negation of one. -/
def Tested (source : Source) (root : Tree) (location : Option Location) (condition : Tree)
    (test : Node) : Prop :=
  (¬ NegatesWhole location condition ∧ Grown source root test) ∨
    (NegatesWhole location condition ∧ Negation source root test)

/-! ### Ordinary shapes -/

/-- The statement for a member of a class is an ordinary node. -/
theorem ordinary_memberShape (key value : Node) :
    (memberShape key value).kind.ordinary = true := by
  rw [memberShape]
  split
  · rfl
  · split <;> rfl

/-- What a literal is: an ordinary node without parts. -/
theorem ordinary_literalShape {value : String} {shape : Shape Node}
    (h : literalShape value = .ok shape) :
    shape.kind.ordinary = true ∧ shape.children = [] := by
  simp only [literalShape] at h
  split at h
  · split at h
    · exact absurd h (by simp)
    · rw [← Except.ok.inj h]
      exact ⟨rfl, rfl⟩
    · rw [← Except.ok.inj h]
      exact ⟨rfl, rfl⟩
  · split at h
    · rw [← Except.ok.inj h]
      exact ⟨rfl, rfl⟩
    · split at h
      · rw [← Except.ok.inj h]
        exact ⟨rfl, rfl⟩
      · rw [← Except.ok.inj h]
        exact ⟨rfl, rfl⟩

/-- So is a word for a truth value. -/
theorem ordinary_boolShape {val : String} {shape : Shape Node} (h : boolShape val = .ok shape) :
    shape.kind.ordinary = true ∧ shape.children = [] := by
  rw [boolShape] at h
  split at h
  · rw [← Except.ok.inj h]
    exact ⟨rfl, rfl⟩
  · exact absurd h (by simp)

theorem ordinary_assignShape (context : Option String) (key expression : Node) :
    (assignShape context key expression).kind.ordinary = true := by
  rw [assignShape]
  split <;> rfl

/-- Only the body of a class has constructors. -/
theorem kind_assignShape (context : Option String) (key expression : Node) :
    (assignShape context key expression).kind ≠ .classConstructor := by
  rw [assignShape]
  split <;> exact Kind.noConfusion

/-- A constructor has a part. -/
theorem kind_ne_of_children_eq_nil {shape : Shape Node} (h : shape.children = []) :
    shape.kind ≠ .classConstructor := by
  cases shape with
  | classConstructor expression => exact absurd h (List.cons_ne_nil _ _)
  | _ => exact Kind.noConfusion

/-! ### Grown nodes are built -/

/-- The parts of a conditional: its test, and what is in its branches. -/
theorem mem_children_conditional {test c : Node} {consequent alternate : Option Node}
    (hc : c ∈ (Shape.conditional test consequent alternate).children) :
    c = test ∨ c ∈ consequent.toList ++ alternate.toList := by
  simpa [Shape.children, Shape.fields, Field.parts] using hc

/-- A negation without location is built when its operand is. -/
theorem built_negation {source : Source} {operand : Node} (h : operand.Built source) :
    (Node.mk none (.unary .not operand)).Built source := by
  have hparts : ∀ c ∈ (Shape.unary .not operand).children, c.Built source :=
    List.forall_mem_singleton.2 h
  exact .step hparts (rfl : (Node.build source none (.unary .not operand)).result = _)

/-- **A grown node is built.** Its site and its tree are forgotten. -/
theorem Grown.built {source : Source} {root : Tree} {n : Node} (h : Grown source root n) :
    n.Built source := by
  induction h with
  | step _ _ _ result ih => exact .step ih result
  | conditional _ _ _ _ result ihTest ihParts =>
    refine .step (fun c hc ↦ ?_) result
    rcases mem_children_conditional hc with rfl | hc
    · exact ihTest
    · exact ihParts c hc
  | «unless» _ _ _ _ result ihOperand ihParts =>
    refine .step (fun c hc ↦ ?_) result
    rcases mem_children_conditional hc with rfl | hc
    · exact built_negation ihOperand
    · exact ihParts c hc

/-- So is what stands as the condition of a statement. -/
theorem Tested.built {source : Source} {root : Tree} {location : Option Location}
    {condition : Tree} {test : Node} (h : Tested source root location condition test) :
    test.Built source := by
  rcases h with ⟨-, hgrown⟩ | ⟨-, operand, rfl, hoperand⟩
  · exact hgrown.built
  · exact built_negation hoperand.built

end Convert

end CoffeeTree
