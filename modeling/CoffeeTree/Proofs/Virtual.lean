import CoffeeTree.Proofs.Origins

/-!
# Virtual nodes

A node is virtual when it was built without a location. In a tree in which every node has one, each
site has one as well, since a hull is there as soon as one of its locations is. So all nodes that
grow from such a tree are located, and what is left are the negations of `unless`. They are the only
virtual nodes of a program, and they stand in the conditions of conditionals and nowhere else
(`Convert.program_virtual`).
-/

namespace CoffeeTree

namespace Tree

/-- Every node of the tree has a location. -/
def Located (t : Tree) : Prop := ∀ u, t.Reaches u → u.location.isSome

/-- A tree is located if its root is, and everything below. -/
theorem located_iff {t : Tree} : t.Located ↔ t.location.isSome ∧ ∀ c ∈ t.children, c.Located :=
  forall_reaches_iff

theorem Located.child {t c : Tree} (h : t.Located) (hc : c ∈ t.children) : c.location.isSome :=
  h c (.head hc (.refl c))

theorem Located.of_reaches {t u : Tree} (h : t.Located) (hu : t.Reaches u) : u.Located :=
  fun v hv ↦ h v (Relation.ReflTransGen.trans hu hv)

end Tree

/-- A node that was built at a location is not virtual. -/
theorem Node.virtual_of_build {source : Source} {location : Option Location}
    {shape : Shape Node} {n : Node} (h : (Node.build source location shape).result = .ok n)
    (hlocation : location.isSome) : n.virtual = false := by
  rcases Node.build_eq_ok_cases h with ⟨rfl, -⟩ | ⟨loc, own, -, -, rfl⟩
  · exact absurd hlocation (by simp)
  · rfl

namespace Convert

variable {source : Source} {root : Tree}

/-! ### Sites in a located tree -/

/-- An expansion gives a location exactly when it is given one. -/
theorem isSome_of_expand {f : Location → Except AnchorError Location}
    {location wider : Option Location} (h : (expand f location).result = .ok wider) :
    wider.isSome = location.isSome := by
  rcases location with _ | loc
  · rw [← Except.ok.inj h]
  · obtain ⟨loc', -, hwider⟩ := Traced.result_bind_eq_ok.1 h
    rw [← Except.ok.inj hwider]
    rfl

/-- **Every site in a located tree has a location.** -/
theorem Site.isSome_location {t : Tree} {location : Option Location} {kind : Kind}
    (h : Site source t location kind) (hlocated : t.Located) : location.isSome := by
  cases h with
  | own ordinary => exact hlocated t (.refl t)
  | @access _ inner base =>
    exact Extent.isSome_hull_iff.2
      ⟨base.location, List.mem_cons_self, hlocated.child List.mem_cons_self⟩
  | @index _ inner _ base _ _ _ expanded =>
    rw [isSome_of_expand expanded]
    exact Extent.isSome_hull_iff.2
      ⟨base.location, List.mem_cons_self, hlocated.child List.mem_cons_self⟩
  | @loop location condition body =>
    exact Extent.isSome_hull_iff.2 ⟨location, List.mem_cons_self, hlocated _ (.refl _)⟩
  | @case _ _ subject cases otherwise case mem expanded =>
    -- A case may list no conditions, but it always has a body.
    have hbody : (Tree.block case.body).location.isSome := by
      refine hlocated.child (List.mem_append_left _ (List.mem_append_right _ ?_))
      exact List.mem_flatMap.2 ⟨case, mem, List.mem_append_right _ (List.mem_singleton_self _)⟩
    rw [isSome_of_expand expanded]
    exact Extent.isSome_hull_iff.2
      ⟨case.body.location, List.mem_append_right _ (List.mem_singleton_self _), hbody⟩

/-- A conditional has a location if the tree is located. -/
theorem FromIf.isSome_location {location : Option Location} {condition : Tree} {n : Node}
    (h : FromIf source root location condition n) (hlocated : root.Located) :
    location.isSome := by
  obtain ⟨body, elseBody, ancestors, hreaches, -⟩ := h
  exact hlocated _ hreaches

/-- **What grows from a located tree is located.** -/
theorem Grown.virtual_eq_false {n : Node} (h : Grown source root n) (hlocated : root.Located) :
    n.virtual = false := by
  rcases h with ⟨hreaches, hsite, -, hresult⟩ | ⟨hfrom, -, -, -, hresult⟩ |
    ⟨hfrom, -, -, -, hresult⟩
  · exact Node.virtual_of_build hresult (hsite.isSome_location (hlocated.of_reaches hreaches))
  · exact Node.virtual_of_build hresult (hfrom.isSome_location hlocated)
  · exact Node.virtual_of_build hresult (hfrom.isSome_location hlocated)

/-! ### Negations -/

/-- The node negates something that is located. -/
def NegatesLocated (c : Node) : Prop :=
  ∃ operand, c.shape = .unary .not operand ∧ operand.virtual = false

/-- A negation is virtual, and what it negates is not. -/
theorem Negation.negatesLocated {c : Node} (h : Negation source root c)
    (hlocated : root.Located) : NegatesLocated c := by
  obtain ⟨operand, rfl, hoperand⟩ := h
  exact ⟨operand, rfl, hoperand.virtual_eq_false hlocated⟩

/-- **The condition of an `if` is virtual exactly when it negates the whole statement.** -/
theorem exists_test_of_ifNode (hlocated : root.Located) {location : Option Location}
    {condition : Tree} {body : Tree.Block Tree} {elseBody : Option Tree}
    (hreaches : root.Reaches (.ifNode location condition body elseBody))
    {ancestors : List String} {n : Node}
    (h : (expr source ancestors (.ifNode location condition body elseBody)).result = .ok n) :
    ∃ test consequent alternate, n.shape = .conditional test consequent alternate ∧
      (test.virtual = true ↔ ∃ first second, condition = .op location "!" first second) ∧
      (test.virtual = true → NegatesLocated test) := by
  have hlocation : location.isSome := hlocated _ hreaches
  obtain ⟨test, consequent, alternate, htest, hresult⟩ := exists_of_expr_ifNode hreaches h
  refine ⟨test, consequent, alternate, Node.shape_of_build hresult, ?_⟩
  rcases htest with ⟨hplain, hgrown⟩ | ⟨hnegates, hnegation⟩
  · have hvirtual : test.virtual ≠ true := by simp [hgrown.virtual_eq_false hlocated]
    exact ⟨iff_of_false hvirtual fun hop ↦ hplain ⟨hlocation, hop⟩,
      fun h ↦ absurd h hvirtual⟩
  · have hvirtual : test.virtual = true := by
      obtain ⟨operand, rfl, -⟩ := hnegation
      rfl
    exact ⟨iff_of_true hvirtual hnegates.2, fun _ ↦ hnegation.negatesLocated hlocated⟩

/-! ### Programs -/

/-- **Only the negations of `unless` are virtual.** In the program that a located tree becomes, the
root is located, and a virtual part of any node is a negation, in the condition of a conditional,
whose operand is located. Every conditional is the conversion of an `if` of the tree, and the
condition of an `if` becomes virtual exactly when it is a negation at the location of the whole
statement. -/
theorem program_virtual {root : Tree.Block Tree} (hlocated : (Tree.block root).Located)
    {node : Node} (h : (program source root).result = .ok node) :
    node.virtual = false ∧
      (∀ n, node.Reaches n → ∀ field ∈ n.shape.fields, ∀ c ∈ field.2.parts, c.virtual = true →
        n.kind = .conditional ∧ field.1 = .condition ∧ NegatesLocated c) ∧
      (∀ n, node.Reaches n → n.kind = .conditional →
        ∃ location condition, FromIf source (.block root) location condition n) ∧
      ∀ location condition n, FromIf source (.block root) location condition n →
        ∃ test consequent alternate, n.shape = .conditional test consequent alternate ∧
          (test.virtual = true ↔ ∃ first second, condition = .op location "!" first second) ∧
          (test.virtual = true → NegatesLocated test) := by
  refine ⟨?_, fun n hn field hfield c hc hvirtual ↦ ?_, fun n hn hkind ↦ ?_, ?_⟩
  · obtain ⟨place, body, rfl, -⟩ := exists_body_of_program h
    rfl
  · rcases part_of_program h hn hfield hc with hgrown | ⟨hkind, hname, hnegation⟩
    · exact absurd hvirtual (by simp [hgrown.virtual_eq_false hlocated])
    · exact ⟨hkind, hname, hnegation.negatesLocated hlocated⟩
  · exact fromIf_of_program h hn hkind
  · rintro location condition n ⟨body, elseBody, ancestors, hreaches, hn⟩
    exact exists_test_of_ifNode hlocated hreaches hn

/-- A statement whose condition is a negation. -/
def negatedIf (whole negation operand body : Location) : Tree :=
  .ifNode (some whole) (.op (some negation) "!" (.null (some operand)) none)
    ⟨some body, [.null (some body)]⟩ none

theorem negatedIf_located (whole negation operand body : Location) :
    (negatedIf whole negation operand body).Located := by
  have hleaf : ∀ loc, (Tree.null (some loc)).Located := fun loc ↦
    Tree.located_iff.2 ⟨rfl, fun c hc ↦ absurd hc List.not_mem_nil⟩
  have hcondition := Tree.located_iff (t := .op (some negation) "!" (.null (some operand)) none)
    |>.2 ⟨rfl, List.forall_mem_singleton.2 (hleaf operand)⟩
  have hbody := Tree.located_iff (t := .block ⟨some body, [.null (some body)]⟩)
    |>.2 ⟨rfl, List.forall_mem_singleton.2 (hleaf body)⟩
  exact Tree.located_iff.2
    ⟨rfl, List.forall_mem_cons.2 ⟨hcondition, List.forall_mem_singleton.2 hbody⟩⟩

def twoStatements : Source :=
  ⟨['n', 'u', 'l', 'l', ' ', 'u', 'n', 'l', 'e', 's', 's', ' ', 'n', 'u', 'l', 'l', '\n',
    'n', 'u', 'l', 'l', ' ', 'i', 'f', ' ', '!', 'n', 'u', 'l', 'l'], Source.unnamed⟩

/-- The negation has the location of the whole statement. -/
def unlessStatement : Tree :=
  negatedIf ⟨⟨0, 0⟩, ⟨0, 15⟩⟩ ⟨⟨0, 0⟩, ⟨0, 15⟩⟩ ⟨⟨0, 12⟩, ⟨0, 15⟩⟩ ⟨⟨0, 0⟩, ⟨0, 3⟩⟩

/-- The negation is spelled out. -/
def ifStatement : Tree :=
  negatedIf ⟨⟨1, 0⟩, ⟨1, 12⟩⟩ ⟨⟨1, 8⟩, ⟨1, 12⟩⟩ ⟨⟨1, 9⟩, ⟨1, 12⟩⟩ ⟨⟨1, 0⟩, ⟨1, 3⟩⟩

def twoStatementsTree : Tree.Block Tree :=
  ⟨some ⟨⟨0, 0⟩, ⟨1, 12⟩⟩, [unlessStatement, ifStatement]⟩

theorem twoStatementsTree_located : (Tree.block twoStatementsTree).Located :=
  Tree.located_iff.2 ⟨rfl, List.forall_mem_cons.2
    ⟨negatedIf_located _ _ _ _, List.forall_mem_singleton.2 (negatedIf_located _ _ _ _)⟩⟩

/-- Of two negated conditions, the one that is spelled out is not virtual. -/
theorem program_virtual_two_statements :
    (∃ node, (program twoStatements twoStatementsTree).result = .ok node ∧
      node.virtual = false) ∧
    (∃ n, (expr twoStatements ["Block"] unlessStatement).result = .ok n ∧
      ∃ test consequent alternate, n.shape = .conditional test consequent alternate ∧
        test.virtual = true) ∧
    ∃ n, (expr twoStatements ["Block"] ifStatement).result = .ok n ∧
      ∃ test consequent alternate, n.shape = .conditional test consequent alternate ∧
        test.virtual = false := by
  obtain ⟨node, hnode⟩ : ∃ node, (program twoStatements twoStatementsTree).result = .ok node :=
    ⟨_, rfl⟩
  obtain ⟨hroot, -, -, hif⟩ := program_virtual twoStatementsTree_located hnode
  refine ⟨⟨node, hnode, hroot⟩, ?_, ?_⟩
  · obtain ⟨n, hn⟩ : ∃ n, (expr twoStatements ["Block"] unlessStatement).result = .ok n :=
      ⟨_, rfl⟩
    obtain ⟨test, consequent, alternate, hshape, hiff, -⟩ := hif _ _ n
      ⟨_, _, ["Block"], .head List.mem_cons_self (.refl _), hn⟩
    exact ⟨n, hn, test, consequent, alternate, hshape, hiff.2 ⟨_, _, rfl⟩⟩
  · obtain ⟨n, hn⟩ : ∃ n, (expr twoStatements ["Block"] ifStatement).result = .ok n := ⟨_, rfl⟩
    obtain ⟨test, consequent, alternate, hshape, hiff, -⟩ := hif _ _ n
      ⟨_, _, ["Block"], .head (List.mem_cons_of_mem _ List.mem_cons_self) (.refl _), hn⟩
    refine ⟨n, hn, test, consequent, alternate, hshape, Bool.eq_false_iff.2 fun hvirtual ↦ ?_⟩
    obtain ⟨first, second, hop⟩ := hiff.1 hvirtual
    have hlocations := (Tree.op.inj hop).1
    exact absurd hlocations (by decide)

end Convert

end CoffeeTree
