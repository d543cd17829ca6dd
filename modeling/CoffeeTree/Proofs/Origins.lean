import CoffeeTree.Proofs.Containment

/-!
# Where the nodes of the output come from

Every node of the output is built for a node of the tree: what the converter makes of a tree is
grown from it (`Convert.Grown`). So are the parts of every node in a program, up to the negations
that `unless` leaves in the tree (`Convert.part_of_program`). What is to be shown of every node in
the output has then to be shown of the sites alone, and of the conditionals.
-/

namespace CoffeeTree

namespace Convert

variable {source : Source} {root : Tree}

/-! ### Below a grown node -/

theorem mem_parts_conditional {test c : Node} {consequent alternate : Option Node}
    {field : FieldName × Field Node}
    (hfield : field ∈ (Shape.conditional test consequent alternate).fields)
    (hc : c ∈ field.2.parts) :
    (field.1 = .condition ∧ c = test) ∨ c ∈ consequent.toList ++ alternate.toList := by
  simp only [Shape.fields, List.mem_cons, List.not_mem_nil, or_false] at hfield
  rcases hfield with rfl | rfl | rfl
  · exact .inl ⟨rfl, List.mem_singleton.1 hc⟩
  · exact .inr (List.mem_append_left _ hc)
  · exact .inr (List.mem_append_right _ hc)

/-- **A part of a grown node is grown**, unless it is the negation in the condition of a
conditional. -/
theorem Grown.part {n c : Node} (h : Grown source root n) {field : FieldName × Field Node}
    (hfield : field ∈ n.shape.fields) (hc : c ∈ field.2.parts) :
    Grown source root c ∨
      (n.kind = .conditional ∧ field.1 = .condition ∧ Negation source root c) := by
  rcases h with ⟨-, -, hparts, hresult⟩ | ⟨-, -, htest, hparts, hresult⟩ |
    ⟨-, -, hoperand, hparts, hresult⟩
  all_goals have hshape := Node.shape_of_build hresult
  all_goals rw [hshape] at hfield
  · exact .inl (hparts c (List.mem_flatMap.2 ⟨field, hfield, hc⟩))
  · rcases mem_parts_conditional hfield hc with ⟨-, rfl⟩ | hc
    · exact .inl htest
    · exact .inl (hparts c hc)
  · rcases mem_parts_conditional hfield hc with ⟨hname, rfl⟩ | hc
    · exact .inr ⟨congrArg Shape.kind hshape, hname, _, rfl, hoperand⟩
    · exact .inl (hparts c hc)

/-- A grown conditional is the conversion of an `if`. -/
theorem Grown.fromIf {n : Node} (h : Grown source root n) (hkind : n.kind = .conditional) :
    ∃ location condition, FromIf source root location condition n := by
  rcases h with ⟨-, hsite, -, hresult⟩ | ⟨hfrom, -⟩ | ⟨hfrom, -⟩
  · have hne := hsite.kind_ne_conditional
    rw [← Node.shape_of_build hresult] at hne
    exact absurd hkind hne
  · exact ⟨_, _, hfrom⟩
  · exact ⟨_, _, hfrom⟩

/-- What stands below a grown node is grown, or it is such a negation. -/
theorem Grown.of_reaches {n m : Node} (h : Grown source root n) (hm : n.Reaches m) :
    Grown source root m ∨ Negation source root m := by
  refine hm.preserves (P := fun n ↦ Grown source root n ∨ Negation source root n) ?_ (.inl h)
  rintro n (hn | ⟨operand, rfl, hoperand⟩) c hc
  · obtain ⟨field, hfield, hc⟩ := List.mem_flatMap.1 hc
    exact (hn.part hfield hc).imp_right fun hnegation ↦ hnegation.2.2
  · obtain rfl : c = operand := List.mem_singleton.1 hc
    exact .inl hoperand

/-! ### Programs -/

/-- A program is a located root over a body that is grown, if there is one. -/
theorem exists_body_of_program {root : Tree.Block Tree} {node : Node}
    (h : (program source root).result = .ok node) :
    ∃ place body, node = .mk (some place) (.program body) ∧
      ∀ n ∈ body, Grown source (.block root) n := by
  by_cases hempty : source.text = []
  · rw [program, if_pos (List.isEmpty_iff.2 hempty)] at h
    obtain rfl := Except.ok.inj h
    exact ⟨_, none, rfl, fun n hn ↦ absurd hn (by simp)⟩
  · obtain ⟨body, hbody, rfl⟩ := exists_programBody hempty h
    refine ⟨_, some body, rfl, fun n hn ↦ ?_⟩
    obtain rfl := Option.some.inj hn
    exact (madeFor_of_programBody hbody).grown body List.mem_cons_self

/-- A node of a program is its root, or it is grown or a negation. -/
theorem grown_of_program_reaches {root : Tree.Block Tree} {node n : Node}
    (h : (program source root).result = .ok node) (hn : node.Reaches n) :
    n = node ∨ Grown source (.block root) n ∨ Negation source (.block root) n := by
  obtain ⟨place, body, rfl, hbody⟩ := exists_body_of_program h
  rcases Relation.ReflTransGen.cases_head hn with rfl | ⟨c, hc, hcn⟩
  · exact .inl rfl
  · have hmem : c ∈ body := by
      simpa [Node.children, Node.shape, Shape.children, Shape.fields, Field.parts] using hc
    exact .inr ((hbody c hmem).of_reaches hcn)

/-- **A part of any node in a program is grown**, unless it is the negation in the condition of a
conditional. -/
theorem part_of_program {root : Tree.Block Tree} {node n c : Node}
    (h : (program source root).result = .ok node) (hn : node.Reaches n)
    {field : FieldName × Field Node} (hfield : field ∈ n.shape.fields) (hc : c ∈ field.2.parts) :
    Grown source (.block root) c ∨
      (n.kind = .conditional ∧ field.1 = .condition ∧ Negation source (.block root) c) := by
  -- The root has its body as its only part, and a negation its operand.
  rcases grown_of_program_reaches h hn with rfl | hgrown | ⟨operand, rfl, hoperand⟩
  · obtain ⟨place, body, rfl, hbody⟩ := exists_body_of_program h
    obtain rfl := List.mem_singleton.1 hfield
    exact .inl (hbody c (Option.mem_toList.1 hc))
  · exact hgrown.part hfield hc
  · obtain rfl := List.mem_singleton.1 hfield
    obtain rfl := List.mem_singleton.1 hc
    exact .inl hoperand

/-- A conditional in a program is the conversion of an `if`. -/
theorem fromIf_of_program {root : Tree.Block Tree} {node n : Node}
    (h : (program source root).result = .ok node) (hn : node.Reaches n)
    (hkind : n.kind = .conditional) :
    ∃ location condition, FromIf source (.block root) location condition n := by
  rcases grown_of_program_reaches h hn with rfl | hgrown | ⟨operand, rfl, -⟩
  · obtain ⟨place, body, rfl, -⟩ := exists_body_of_program h
    exact Kind.noConfusion hkind
  · exact hgrown.fromIf hkind
  · exact Kind.noConfusion hkind

end Convert

end CoffeeTree
