import CoffeeTree.Proofs.Walk.Parts

/-!
# The converter on a walk

Each kind of node has one lemma, which puts the lemmas of the parts together in the order of the
equation for that kind. What it asks for is that the two runs have come to the node and that the
walk is known below it (`Walk.Enters`). By induction on the tree the walk goes through the whole
converter (`Walk.converts`), and with it through the body of a program (`Walk.programBody_walks`).
-/

namespace CoffeeTree

open CoffeeTree.Convert
open CoffeeTree.Tree (Visit)

namespace Walk

variable {source target : Source} {W : Walk source target} {ancestors ancestors' : List String}
  {location : Option Location}

variable (W) in
/-- The walk goes through the conversion of a tree as an expression. -/
abbrev RelatesExpr (ancestors ancestors' : List String) (t : Tree) : Prop :=
  W.Relates (Expresses source W.root t) W.onNode (expr source ancestors t)
    (expr target ancestors' (t.relocate W.onLocation))

/-! ### Building for an expression -/

/-- Building at a site of an expression. -/
theorem Enters.site_walks {t : Tree} {shape : Shape Node}
    (h : W.Enters ancestors ancestors' ⟨.expression, t⟩) (hunderstood : t.isUnderstood = true)
    (hsite : Site source t location shape.kind) (hlocation : W.Admissible location)
    (hkind : shape.kind ≠ .classConstructor)
    (hparts : MadeFor source W.root t.visits shape.children) :
    W.Relates (Expresses source W.root t) W.onNode (Node.build source location shape)
      (Node.build target (location.map W.onLocation) (shape.map W.onNode)) := by
  refine (relates_site h.reaches hsite hlocation hparts).mono fun n _ hn ↦ ?_
  obtain ⟨rfl, hmade⟩ := hn
  exact ⟨hunderstood, hmade.grown n List.mem_cons_self, hmade.keeps, hkind⟩

/-- Building at the location of an expression. -/
theorem Enters.own_walks {t : Tree} {shape : Shape Node}
    (h : W.Enters ancestors ancestors' ⟨.expression, t⟩) (hunderstood : t.isUnderstood = true)
    (hordinary : shape.kind.ordinary = true) (hkind : shape.kind ≠ .classConstructor)
    (hparts : MadeFor source W.root t.visits shape.children) :
    W.Relates (Expresses source W.root t) W.onNode (Node.build source t.location shape)
      (Node.build target (t.location.map W.onLocation) (shape.map W.onNode)) :=
  h.site_walks hunderstood (.own hordinary) h.location hkind hparts

/-- A shape that was decided on by the node alone has no parts. It is built, or given up on. -/
theorem Enters.buildOr_walks {t : Tree} {decided : Except Cause (Shape Node)}
    (h : W.Enters ancestors ancestors' ⟨.expression, t⟩)
    (hunderstood : t.isUnderstood = decided.toBool) (hvisits : t.visits = [])
    (hdecided : ∀ shape, decided = .ok shape →
      shape.kind.ordinary = true ∧ shape.children = []) :
    W.Relates (Expresses source W.root t) W.onNode
      (buildOr source ancestors t t.location decided)
      (buildOr target ancestors' (t.relocate W.onLocation) (t.location.map W.onLocation)
        decided) := by
  rcases decided with cause | shape
  · exact W.relates_unrecognized h.stands h.visits hunderstood
  · obtain ⟨hordinary, hchildren⟩ := hdecided shape rfl
    have hmap : shape.map W.onNode = shape :=
      Shape.map_eq_self fun c hc ↦ absurd (hchildren ▸ hc) List.not_mem_nil
    have hparts : MadeFor source W.root t.visits shape.children := by
      rw [hvisits, hchildren]
      exact .nil
    have hbuild := h.own_walks hunderstood hordinary (kind_ne_of_children_eq_nil hchildren) hparts
    rw [hmap] at hbuild
    exact hbuild

/-! ### Kinds of nodes -/

/-- A literal is decided on by its text. -/
theorem literal_walks {l : Tree.Literal}
    (h : W.Enters ancestors ancestors' ⟨.expression, .literal l⟩) :
    W.RelatesExpr ancestors ancestors' (.literal l) := by
  show W.Relates _ _ (expr source ancestors (.literal l))
    (expr target ancestors' (.literal (l.relocate W.onLocation)))
  rw [expr_literal, expr_literal]
  exact h.buildOr_walks (isUnderstood_literal l) rfl fun _ hshape ↦ ordinary_literalShape hshape

/-- So is a word for a truth value. -/
theorem bool_walks {val : String}
    (h : W.Enters ancestors ancestors' ⟨.expression, .bool location val⟩) :
    W.RelatesExpr ancestors ancestors' (.bool location val) := by
  show W.Relates _ _ (expr source ancestors (.bool location val))
    (expr target ancestors' (.bool (location.map W.onLocation) val))
  rw [expr_bool, expr_bool]
  exact h.buildOr_walks (isUnderstood_bool location val) rfl fun _ hshape ↦
    ordinary_boolShape hshape

/-- A null has no parts. -/
theorem null_walks (h : W.Enters ancestors ancestors' ⟨.expression, .null location⟩) :
    W.RelatesExpr ancestors ancestors' (.null location) := by
  show W.Relates _ _ (expr source ancestors (.null location))
    (expr target ancestors' (.null (location.map W.onLocation)))
  rw [expr_null, expr_null]
  exact h.own_walks rfl rfl Kind.noConfusion .nil

theorem arr_walks {objects : List Tree}
    (h : W.Enters ancestors ancestors' ⟨.expression, .arr location objects⟩) :
    W.RelatesExpr ancestors ancestors' (.arr location objects) := by
  have hobjects : ∀ t ∈ objects,
      W.Ready (ancestors ++ ["Arr"]) (ancestors' ++ ["Arr"]) ⟨.expression, t⟩ :=
    fun t ht ↦ h.child ht (List.mem_map_of_mem ht)
  show W.Relates _ _ (expr source ancestors (.arr location objects))
    (expr target ancestors'
      (.arr (location.map W.onLocation) (Tree.relocateList W.onLocation objects)))
  rw [expr_arr, expr_arr]
  refine W.relates_bind (exprs_walks hobjects) fun members _ hmembers ↦ ?_
  refine h.own_walks rfl rfl Kind.noConfusion (hmembers.congr (fun _ ↦ Iff.rfl) ?_)
  simp [Shape.children, Shape.fields, Field.parts]

theorem obj_walks {properties : List Tree}
    (h : W.Enters ancestors ancestors' ⟨.expression, .obj location properties⟩) :
    W.RelatesExpr ancestors ancestors' (.obj location properties) := by
  have hproperties : ∀ t ∈ properties,
      W.Ready (ancestors ++ ["Obj"]) (ancestors' ++ ["Obj"]) ⟨.expression, t⟩ :=
    fun t ht ↦ h.child ht (List.mem_map_of_mem ht)
  show W.Relates _ _ (expr source ancestors (.obj location properties))
    (expr target ancestors'
      (.obj (location.map W.onLocation) (Tree.relocateList W.onLocation properties)))
  rw [expr_obj, expr_obj]
  refine W.relates_bind (objectMembers_walks hproperties) fun members _ hmembers ↦ ?_
  refine h.own_walks rfl rfl Kind.noConfusion (hmembers.congr (fun _ ↦ Iff.rfl) ?_)
  simp [Shape.children, Shape.fields, Field.parts]

/-- The kind of an assignment is up to its context. -/
theorem assign_walks {left right : Tree} {context : Option String}
    (h : W.Enters ancestors ancestors' ⟨.expression, .assign location left right context⟩) :
    W.RelatesExpr ancestors ancestors' (.assign location left right context) := by
  have hleft : W.Ready (ancestors ++ ["Assign"]) (ancestors' ++ ["Assign"])
      ⟨.expression, left⟩ := h.child List.mem_cons_self List.mem_cons_self
  have hright : W.Ready (ancestors ++ ["Assign"]) (ancestors' ++ ["Assign"])
      ⟨.expression, right⟩ :=
    h.child (List.mem_cons_of_mem _ List.mem_cons_self)
      (List.mem_cons_of_mem _ List.mem_cons_self)
  show W.Relates _ _ (expr source ancestors (.assign location left right context))
    (expr target ancestors' (.assign (location.map W.onLocation) (left.relocate W.onLocation)
      (right.relocate W.onLocation) context))
  rw [expr_assign, expr_assign]
  refine W.relates_bind hleft.expr_walks fun key _ hkey ↦ ?_
  refine W.relates_bind hright.expr_walks fun expression _ hexpression ↦ ?_
  have hparts : MadeFor source W.root (Tree.assign location left right context).visits
      (assignShape context key expression).children := by
    rw [children_assignShape]
    exact hkey.append hexpression
  have hbuild := h.own_walks rfl (ordinary_assignShape context key expression)
    (kind_assignShape context key expression) hparts
  rw [onNode, map_assignShape] at hbuild
  exact hbuild

/-- A block that is taken as an expression has to hold something. -/
theorem block_walks {b : Tree.Block Tree}
    (h : W.Enters ancestors ancestors' ⟨.expression, .block b⟩) :
    W.RelatesExpr ancestors ancestors' (.block b) := by
  have hexpressions : ∀ t ∈ b.expressions,
      W.Ready (ancestors ++ ["Block"]) (ancestors' ++ ["Block"]) ⟨.expression, t⟩ :=
    fun t ht ↦ h.child ht (List.mem_map_of_mem ht)
  show W.Relates _ _ (expr source ancestors (.block b))
    (expr target ancestors' (.block (Tree.relocateBlock W.onLocation b)))
  rw [expr_block, expr_block]
  refine W.relates_bind (block?_walks h.stands hexpressions) fun node hresult hnode ↦ ?_
  have hsome := isSome_of_block? hresult
  rcases node with _ | n
  · exact W.relates_unrecognized h.stands h.visits hsome.symm
  · refine W.relates_pure ⟨hsome.symm, ?_, hnode.1.keeps, hnode.2 n rfl⟩
    exact hnode.1.grown n List.mem_cons_self

/-- A call was made for its function and for its arguments. -/
theorem call_walks {callee : Tree} {args : List Tree}
    (h : W.Enters ancestors ancestors' ⟨.expression, .call location callee args⟩) :
    W.RelatesExpr ancestors ancestors' (.call location callee args) := by
  have hcallee : W.Ready (ancestors ++ ["Call"]) (ancestors' ++ ["Call"]) ⟨.expression, callee⟩ :=
    h.child List.mem_cons_self List.mem_cons_self
  have hargs : ∀ t ∈ args,
      W.Ready (ancestors ++ ["Call"]) (ancestors' ++ ["Call"]) ⟨.expression, t⟩ :=
    fun t ht ↦ h.child (List.mem_cons_of_mem _ ht) (List.mem_cons_of_mem _ (List.mem_map_of_mem ht))
  show W.Relates _ _ (expr source ancestors (.call location callee args))
    (expr target ancestors' (.call (location.map W.onLocation) (callee.relocate W.onLocation)
      (Tree.relocateList W.onLocation args)))
  rw [expr_call, expr_call]
  refine W.relates_bind hcallee.expr_walks fun function _ hfunction ↦ ?_
  refine W.relates_bind (exprs_walks hargs) fun arguments _ harguments ↦ ?_
  refine h.own_walks rfl rfl Kind.noConfusion
    ((hfunction.append harguments).congr (fun _ ↦ Iff.rfl) ?_)
  simp [Shape.children, Shape.fields, Field.parts]

/-- The parts of a class. The title is held twice, and so are the bound members and the constructor,
which stand in the block as well. -/
theorem classNode_parts {root : Tree} {name parent : Option Tree}
    {body : Option (Tree.Block Tree)} {title parentNode : Option Node} {members : ClassBody}
    (htitle : MadeFor source root (name.toList.map (⟨.expression, ·⟩)) title.toList)
    (hparent : MadeFor source root (parent.toList.map (⟨.expression, ·⟩)) parentNode.toList)
    (hbody : MadeFor source root (bodyVisits body) members.block.toList)
    (hstatements : ∀ s ∈ members.statements, Grown source root s.statement) :
    MadeFor source root (Tree.classNode location name parent body).visits
      (Shape.classDefinition title title members.block (boundMembers members.statements)
        parentNode (constructorOf members.statements)).children where
  grown c hc := by
    simp only [Shape.children, Shape.fields, Field.parts, List.flatMap_cons, List.flatMap_nil,
      List.append_nil, List.mem_append, Option.mem_toList] at hc
    rcases hc with hc | hc | hc | hc | hc | hc
    · exact htitle.grown c (Option.mem_toList.2 hc)
    · exact htitle.grown c (Option.mem_toList.2 hc)
    · exact hbody.grown c (Option.mem_toList.2 hc)
    · obtain ⟨s, hs, rfl⟩ := exists_of_mem_boundMembers hc
      exact hstatements s hs
    · exact hparent.grown c (Option.mem_toList.2 hc)
    · obtain ⟨s, hs, rfl⟩ := exists_of_mem_constructorOf hc
      exact hstatements s hs
  -- Every visit is kept in the name, the parent or the body. The repeated parts are not needed.
  keeps w hw := by
    refine (((htitle.append hparent).append hbody).keeps w hw).subset fun c hc ↦ ?_
    simp only [Shape.children, Shape.fields, Field.parts, List.flatMap_cons, List.flatMap_nil,
      List.append_nil, List.mem_append] at hc ⊢
    rcases hc with (hc | hc) | hc
    · exact .inl hc
    · exact .inr (.inr (.inr (.inr (.inl hc))))
    · exact .inr (.inr (.inl hc))

/-- The name of a class is used twice, and so are some of its statements. So the class was made for
each visit once, although its parts are repeated. -/
theorem classNode_walks {name parent : Option Tree} {body : Option (Tree.Block Tree)}
    (h : W.Enters ancestors ancestors' ⟨.expression, .classNode location name parent body⟩) :
    W.RelatesExpr ancestors ancestors' (.classNode location name parent body) := by
  have hname : ∀ t ∈ name,
      W.Ready (ancestors ++ ["Class"]) (ancestors' ++ ["Class"]) ⟨.expression, t⟩ := by
    intro t ht
    refine h.child (List.mem_append_left _ (List.mem_append_left _ (Option.mem_toList.2 ht))) ?_
    exact List.mem_append_left _ (List.mem_append_left _
      (List.mem_map_of_mem (Option.mem_toList.2 ht)))
  have hparent : ∀ t ∈ parent,
      W.Ready (ancestors ++ ["Class"]) (ancestors' ++ ["Class"]) ⟨.expression, t⟩ := by
    intro t ht
    refine h.child (List.mem_append_left _ (List.mem_append_right _ (Option.mem_toList.2 ht))) ?_
    exact List.mem_append_left _ (List.mem_append_right _
      (List.mem_map_of_mem (Option.mem_toList.2 ht)))
  have hblock : ∀ b ∈ body, Tree.block b ∈ (Tree.classNode location name parent body).children :=
    fun b hb ↦ List.mem_append_right _ (Option.mem_toList.2 (Option.mem_map_of_mem _ hb))
  -- The block is passed over: its statements are visited from the class.
  have hbody : ∀ b ∈ body, ∀ t ∈ b.expressions,
      W.Ready (ancestors ++ ["Class"] ++ ["Block"]) (ancestors' ++ ["Class"] ++ ["Block"])
        ⟨.statement, t⟩ := by
    refine fun b hb t ht ↦ h.grandchild (hblock b hb) ht (List.mem_append_right _ ?_)
    exact List.mem_flatMap.2 ⟨b, Option.mem_toList.2 hb, List.mem_map_of_mem ht⟩
  show W.Relates _ _ (expr source ancestors (.classNode location name parent body))
    (expr target ancestors' (.classNode (location.map W.onLocation)
      (Tree.relocateOption W.onLocation name) (Tree.relocateOption W.onLocation parent)
      (Tree.relocateBlockOption W.onLocation body)))
  rw [expr_classNode, expr_classNode]
  refine W.relates_bind (expr?_walks hname) fun title _ htitle ↦ ?_
  refine W.relates_bind (classBody_walks (fun b hb ↦ W.stands_child h.stands (hblock b hb)) hbody)
    fun members _ hmembers ↦ ?_
  refine W.relates_bind (expr?_walks hparent) fun parentNode _ hparentNode ↦ ?_
  have hshape : Shape.classDefinition (title.map W.onNode) (title.map W.onNode)
      (W.onClassBody members).block (boundMembers (W.onClassBody members).statements)
      (parentNode.map W.onNode) (constructorOf (W.onClassBody members).statements) =
      (Shape.classDefinition title title members.block (boundMembers members.statements)
        parentNode (constructorOf members.statements)).map W.onNode := by
    rw [onClassBody, boundMembers_map, constructorOf_map]
    rfl
  rw [hshape]
  exact h.own_walks rfl rfl Kind.noConfusion
    (classNode_parts htitle hparentNode hmembers.1 hmembers.2)

/-- The body of a function comes before its parameters. -/
theorem code_walks {params : List (Tree.Param Tree)} {body : Option (Tree.Block Tree)}
    {bound : Bool}
    (h : W.Enters ancestors ancestors' ⟨.expression, .code location params body bound⟩) :
    W.RelatesExpr ancestors ancestors' (.code location params body bound) := by
  have hbody : ∀ b ∈ body,
      W.Ready (ancestors ++ ["Code"]) (ancestors' ++ ["Code"]) ⟨.branch, .block b⟩ := by
    refine fun b hb ↦ h.child (List.mem_append_right _ ?_) (List.mem_append_right _ ?_)
    · exact Option.mem_toList.2 (Option.mem_map_of_mem _ hb)
    · exact List.mem_map_of_mem (Option.mem_toList.2 hb)
  have hparams : ∀ p ∈ params,
      W.Ready (ancestors ++ ["Code"]) (ancestors' ++ ["Code"]) ⟨.expression, .param p⟩ :=
    fun p hp ↦ h.child (List.mem_append_left _ (List.mem_map_of_mem hp))
      (List.mem_append_left _ (List.mem_map_of_mem hp))
  show W.Relates _ _ (expr source ancestors (.code location params body bound))
    (expr target ancestors' (.code (location.map W.onLocation)
      (Tree.relocateParams W.onLocation params)
      (Tree.relocateBlockOption W.onLocation body) bound))
  rw [expr_code, expr_code]
  refine W.relates_bind (body?_walks hbody) fun statements _ hstatements ↦ ?_
  refine W.relates_bind (parameters_walks hparams) fun parameters _ hparameters ↦ ?_
  refine h.own_walks rfl (by cases bound <;> rfl) (by cases bound <;> exact Kind.noConfusion)
    ((hparameters.append hstatements).congr (fun _ ↦ Iff.rfl) ?_)
  -- The visits are in the order of the tree, and the parts in that of the conversion.
  simp [Shape.children, Shape.fields, Field.parts, or_comm]

/-- The parts of a converted `if`: its condition, and its branches. -/
structure IfMade (source : Source) (root : Tree) (location : Option Location) (condition : Tree)
    (visits : List Visit) (n : Node) : Prop where
  exists_parts : ∃ test consequent alternate, Tested source root location condition test ∧
    MadeFor source root visits (consequent.toList ++ alternate.toList) ∧
    KeptBy source [test] ⟨.expression, condition⟩ ∧
    (Node.build source location (.conditional test consequent alternate)).result = .ok n

/-- A conditional is grown, whether it was an `if` or an `unless`. -/
theorem IfMade.expresses {root condition : Tree} {body : Tree.Block Tree} {elseBody : Option Tree}
    {n : Node} (h : IfMade source root location condition
      (⟨.branch, .block body⟩ :: elseBody.toList.map (⟨.branch, ·⟩)) n)
    (hfrom : FromIf source root location condition n) :
    Expresses source root (.ifNode location condition body elseBody) n := by
  obtain ⟨test, consequent, alternate, htest, hparts, hkept, hresult⟩ := h
  have hshape := Node.shape_of_build hresult
  have hchildren : n.children = test :: (consequent.toList ++ alternate.toList) := by
    simp [Node.children, hshape, Shape.children, Shape.fields, Field.parts]
  refine ⟨rfl, ?_, List.forall_mem_cons.2 ⟨.of_children ?_, fun w hw ↦ .of_children ?_⟩, ?_⟩
  · rcases htest with ⟨hplain, htest⟩ | ⟨hnegates, operand, rfl, hoperand⟩
    · exact .conditional hfrom hplain htest hparts.grown hresult
    · exact .unless hfrom hnegates hoperand hparts.grown hresult
  · rw [hchildren]
    exact hkept.subset (List.cons_subset.2 ⟨List.mem_cons_self, List.nil_subset _⟩)
  · rw [hchildren]
    exact (hparts.keeps w hw).subset (List.subset_cons_self _ _)
  · rw [Node.kind, hshape]
    exact Kind.noConfusion

/-- An `if` is put together from its parts. -/
theorem ifNode_parts_walks {condition : Tree} {body : Tree.Block Tree} {elseBody : Option Tree}
    (h : W.Enters ancestors ancestors' ⟨.expression, .ifNode location condition body elseBody⟩) :
    W.Relates (IfMade source W.root location condition
        (⟨.branch, .block body⟩ :: elseBody.toList.map (⟨.branch, ·⟩))) W.onNode
      (expr source ancestors (.ifNode location condition body elseBody))
      (expr target ancestors'
        ((Tree.ifNode location condition body elseBody).relocate W.onLocation)) := by
  have hcondition : W.Ready (ancestors ++ ["If"]) (ancestors' ++ ["If"])
      ⟨.expression, condition⟩ := h.child List.mem_cons_self List.mem_cons_self
  have hbody : W.Ready (ancestors ++ ["If"]) (ancestors' ++ ["If"]) ⟨.branch, .block body⟩ :=
    h.child (List.mem_cons_of_mem _ List.mem_cons_self)
      (List.mem_cons_of_mem _ List.mem_cons_self)
  have helse : ∀ t ∈ elseBody,
      W.Ready (ancestors ++ ["If"]) (ancestors' ++ ["If"]) ⟨.branch, t⟩ := by
    refine fun t ht ↦ h.child (List.mem_cons_of_mem _ (List.mem_cons_of_mem _ ?_))
      (List.mem_cons_of_mem _ (List.mem_cons_of_mem _ ?_))
    · exact Option.mem_toList.2 ht
    · exact List.mem_map_of_mem (Option.mem_toList.2 ht)
  show W.Relates _ _ (expr source ancestors (.ifNode location condition body elseBody))
    (expr target ancestors' (.ifNode (location.map W.onLocation)
      (condition.relocate W.onLocation) (Tree.relocateBlock W.onLocation body)
      (Tree.relocateOption W.onLocation elseBody)))
  rw [expr_ifNode, expr_ifNode]
  refine W.relates_bind (condition_walks location hcondition) fun test _ htest ↦ ?_
  refine W.relates_bind hbody.block?_walks fun consequent _ hconsequent ↦ ?_
  refine W.relates_bind (alternative?_walks helse) fun alternate _ halternate ↦ ?_
  have hmade := hconsequent.append halternate
  -- The test may be a negation, which is not grown by itself but built.
  have hbuilt : ∀ c ∈ (Shape.conditional test consequent alternate).children,
      c.Built source := by
    intro c hc
    rcases mem_children_conditional hc with rfl | hc
    · exact htest.1.built
    · exact hmade.built c hc
  exact (relates_place h.location hbuilt).mono fun n hn _ ↦
    ⟨test, consequent, alternate, htest.1, hmade, htest.2, hn⟩

/-- A conditional, with the negation of an `unless` taken out. -/
theorem ifNode_walks {condition : Tree} {body : Tree.Block Tree} {elseBody : Option Tree}
    (h : W.Enters ancestors ancestors' ⟨.expression, .ifNode location condition body elseBody⟩) :
    W.RelatesExpr ancestors ancestors' (.ifNode location condition body elseBody) :=
  (ifNode_parts_walks h).mono fun _ hn hmade ↦
    hmade.expresses ⟨body, elseBody, ancestors, h.reaches, hn⟩

/-- An operation whose operator is not known is given up on before its operands are converted. -/
theorem op_walks {operator : String} {first : Tree} {second : Option Tree}
    (h : W.Enters ancestors ancestors' ⟨.expression, .op location operator first second⟩) :
    W.RelatesExpr ancestors ancestors' (.op location operator first second) := by
  show W.Relates _ _ (expr source ancestors (.op location operator first second))
    (expr target ancestors' (.op (location.map W.onLocation) operator
      (first.relocate W.onLocation) (Tree.relocateOption W.onLocation second)))
  rw [expr_op, expr_op]
  refine (operation_walks h h.location).mono fun n _ hn ↦ ?_
  obtain ⟨hunderstood, shape, hresult, hordinary, hkind, hparts, -⟩ := hn
  have hshape := Node.shape_of_build hresult
  refine ⟨hunderstood, .step h.reaches (.own hordinary) hparts.grown hresult,
    fun w hw ↦ .of_children ?_, ?_⟩
  · rw [Node.children, hshape]
    exact hparts.keeps w hw
  · rw [Node.kind, hshape]
    exact hkind

/-- A parameter without default is what its name becomes. -/
theorem param_walks {p : Tree.Param Tree}
    (h : W.Enters ancestors ancestors' ⟨.expression, .param p⟩) :
    W.RelatesExpr ancestors ancestors' (.param p) := by
  have hname : W.Ready (ancestors ++ ["Param"]) (ancestors' ++ ["Param"]) ⟨.expression, p.name⟩ :=
    h.child List.mem_cons_self List.mem_cons_self
  obtain ⟨location, name, _ | value⟩ := p
  · refine W.relates_bind (hname.walks (Visit.plain_expression name)) fun param _ hparam ↦ ?_
    exact W.relates_pure ⟨rfl, hparam.1.grown, hparam.2.keeps, hparam.1.kind_ne⟩
  · have hvalue : W.Ready (ancestors ++ ["Param"]) (ancestors' ++ ["Param"])
        ⟨.expression, value⟩ :=
      h.child (List.mem_cons_of_mem _ List.mem_cons_self)
        (List.mem_cons_of_mem _ List.mem_cons_self)
    show W.Relates _ _ (parameter source ancestors ⟨location, name, some value⟩)
      (parameter target ancestors' ⟨location.map W.onLocation, name.relocate W.onLocation,
        some (value.relocate W.onLocation)⟩)
    rw [parameter_some, parameter_some]
    refine W.relates_bind hname.expr_walks fun param _ hparam ↦ ?_
    refine W.relates_bind hvalue.expr_walks fun fallback _ hfallback ↦ ?_
    exact h.own_walks rfl rfl Kind.noConfusion (hparam.append hfallback)

/-- Parentheses around a block are passed over together with the block. -/
theorem parens_block_walks {b : Tree.Block Tree}
    (h : W.Enters ancestors ancestors' ⟨.expression, .parens location (.block b)⟩) :
    W.RelatesExpr ancestors ancestors' (.parens location (.block b)) := by
  obtain ⟨inner, _ | ⟨first, rest⟩⟩ := b
  · exact W.relates_unrecognized h.stands h.visits rfl
  · have hblock : Tree.block ⟨inner, first :: rest⟩ ∈
        (Tree.parens location (.block ⟨inner, first :: rest⟩)).children := List.mem_cons_self
    have hfirst : W.Ready (ancestors ++ ["Parens", "Block"]) (ancestors' ++ ["Parens", "Block"])
        ⟨.expression, first⟩ :=
      (h.grandchild hblock List.mem_cons_self List.mem_cons_self).of_append
    show W.Relates _ _ (expr source ancestors (.parens location (.block ⟨inner, first :: rest⟩)))
      (expr target ancestors' (.parens (location.map W.onLocation)
        (.block ⟨inner.map W.onLocation,
          first.relocate W.onLocation :: Tree.relocateList W.onLocation rest⟩)))
    rw [expr_parens_cons, expr_parens_cons]
    refine (hfirst.walks (Visit.plain_expression first)).mono fun n _ hn ↦ ?_
    exact ⟨rfl, hn.1.grown, hn.2.keeps, hn.1.kind_ne⟩

/-- Parentheses are what they hold. -/
theorem parens_walks {body : Tree}
    (h : W.Enters ancestors ancestors' ⟨.expression, .parens location body⟩) :
    W.RelatesExpr ancestors ancestors' (.parens location body) := by
  by_cases hblock : ∃ b, body = .block b
  · obtain ⟨b, rfl⟩ := hblock
    exact parens_block_walks h
  · have hbody : ∀ b, body ≠ .block b := fun b hb ↦ hblock ⟨b, hb⟩
    obtain ⟨hunderstood, hvisits⟩ := Tree.parens_of_not_block location hbody
    have hready : W.Ready (ancestors ++ ["Parens"]) (ancestors' ++ ["Parens"])
        ⟨.expression, body⟩ := by
      refine h.child List.mem_cons_self ?_
      show _ ∈ (Tree.parens location body).visits
      rw [hvisits]
      exact List.mem_cons_self
    show W.Relates _ _ (expr source ancestors (.parens location body))
      (expr target ancestors' (.parens (location.map W.onLocation) (body.relocate W.onLocation)))
    rw [expr_parens_of_not_block _ _ _ hbody,
      expr_parens_of_not_block _ _ _ (Tree.relocate_ne_block _ hbody)]
    refine (hready.walks (Visit.plain_expression body)).mono fun n _ hn ↦ ?_
    exact ⟨hunderstood, hn.1.grown, hvisits ▸ hn.2.keeps, hn.1.kind_ne⟩

theorem switch_walks {subject : Option Tree} {cases : List (Tree.Case Tree)}
    {otherwise : Option (Tree.Block Tree)}
    (h : W.Enters ancestors ancestors'
      ⟨.expression, .switch location subject cases otherwise⟩) :
    W.RelatesExpr ancestors ancestors' (.switch location subject cases otherwise) := by
  have hsubject : ∀ t ∈ subject,
      W.Ready (ancestors ++ ["Switch"]) (ancestors' ++ ["Switch"]) ⟨.expression, t⟩ := by
    intro t ht
    refine h.child (List.mem_append_left _ (List.mem_append_left _ (Option.mem_toList.2 ht))) ?_
    exact List.mem_append_left _ (List.mem_append_left _
      (List.mem_map_of_mem (Option.mem_toList.2 ht)))
  -- The conditions and the bodies of the cases are children of the switch itself.
  have hcase : ∀ case ∈ cases, ∀ (role : Tree.Role) (t : Tree),
      t ∈ case.conditions.toList ++ [.block case.body] → ⟨role, t⟩ ∈ caseVisits case →
      W.Ready (ancestors ++ ["Switch"]) (ancestors' ++ ["Switch"]) ⟨role, t⟩ :=
    fun case hcase role t ht hw ↦ h.child
      (List.mem_append_left _ (List.mem_append_right _ (List.mem_flatMap.2 ⟨case, hcase, ht⟩)))
      (List.mem_append_left _ (List.mem_append_right _ (List.mem_flatMap.2 ⟨case, hcase, hw⟩)))
  have hcases := fun case (hmem : case ∈ cases) ↦
    And.intro (fun t ht ↦ hcase case hmem .expression t (List.mem_append_left _ ht)
        (List.mem_append_left _ (List.mem_map_of_mem ht)))
      (hcase case hmem .branch _ (List.mem_append_right _ List.mem_cons_self)
        (List.mem_append_right _ List.mem_cons_self))
  have hotherwise : ∀ b ∈ otherwise,
      W.Ready (ancestors ++ ["Switch"]) (ancestors' ++ ["Switch"]) ⟨.branch, .block b⟩ := by
    refine fun b hb ↦ h.child (List.mem_append_right _ ?_) (List.mem_append_right _ ?_)
    · exact Option.mem_toList.2 (Option.mem_map_of_mem _ hb)
    · exact List.mem_map_of_mem (Option.mem_toList.2 hb)
  show W.Relates _ _ (expr source ancestors (.switch location subject cases otherwise))
    (expr target ancestors' (.switch (location.map W.onLocation)
      (Tree.relocateOption W.onLocation subject) (Tree.relocateCases W.onLocation cases)
      (Tree.relocateBlockOption W.onLocation otherwise)))
  rw [expr_switch, expr_switch]
  refine W.relates_bind (switchCases_walks h.reaches (List.Subset.refl cases) hcases)
    fun branches _ hbranches ↦ ?_
  refine W.relates_bind (expr?_walks hsubject) fun expression _ hexpression ↦ ?_
  refine W.relates_bind (body?_walks hotherwise) fun alternate _ halternate ↦ ?_
  refine h.own_walks rfl rfl Kind.noConfusion
    (((hexpression.append hbranches).append halternate).congr (fun _ ↦ Iff.rfl) ?_)
  simp [Shape.children, Shape.fields, Field.parts]

/-- A value was made for its base and for its accesses. -/
theorem value_walks {base : Tree} {properties : List Tree}
    (h : W.Enters ancestors ancestors' ⟨.expression, .value location base properties⟩) :
    W.RelatesExpr ancestors ancestors' (.value location base properties) := by
  have hbase : W.Ready (ancestors ++ ["Value"]) (ancestors' ++ ["Value"]) ⟨.expression, base⟩ :=
    h.child List.mem_cons_self List.mem_cons_self
  have hproperties : ∀ t ∈ properties,
      W.Ready (ancestors ++ ["Value"]) (ancestors' ++ ["Value"]) ⟨.access, t⟩ :=
    fun t ht ↦ h.child (List.mem_cons_of_mem _ ht) (List.mem_cons_of_mem _ (List.mem_map_of_mem ht))
  have hchain := accesses_walks h.reaches (List.Subset.refl properties) hbase.location hproperties
  show W.Relates _ _ (expr source ancestors (.value location base properties))
    (expr target ancestors' (.value (location.map W.onLocation) (base.relocate W.onLocation)
      (Tree.relocateList W.onLocation properties)))
  rw [expr_value, expr_value, Tree.location_relocate]
  refine W.relates_bind (hbase.walks (Visit.plain_expression base)) fun start _ hstart ↦ ?_
  refine (hchain hstart.1.grown hstart.1.kind_ne).mono fun n hn hmade ↦ ?_
  have hgrown := hmade.1.grown n List.mem_cons_self
  -- What the base was made for is in the last node, behind all accesses.
  have hall := (hstart.2.of_reaches hgrown (reaches_of_accesses hn)).append hmade.1
  exact ⟨rfl, hgrown, (hall.congr (fun _ ↦ Iff.rfl) (by simp)).keeps, hmade.2⟩

/-- A loop is built at the hull of its location, its condition and its body. -/
theorem whileNode_walks {condition : Tree} {body : Tree.Block Tree}
    (h : W.Enters ancestors ancestors' ⟨.expression, .whileNode location condition body⟩) :
    W.RelatesExpr ancestors ancestors' (.whileNode location condition body) := by
  have hcondition : W.Ready (ancestors ++ ["While"]) (ancestors' ++ ["While"])
      ⟨.expression, condition⟩ := h.child List.mem_cons_self List.mem_cons_self
  have hbody : W.Ready (ancestors ++ ["While"]) (ancestors' ++ ["While"])
      ⟨.branch, .block body⟩ :=
    h.child (List.mem_cons_of_mem _ List.mem_cons_self)
      (List.mem_cons_of_mem _ List.mem_cons_self)
  -- The loop is built at a hull, and the hull of changed locations is the changed hull.
  have hhull : Extent.hull [location.map W.onLocation, condition.location.map W.onLocation,
      body.location.map W.onLocation] = _ :=
    W.hull_map [location, condition.location, body.location]
  have hadmissible : W.Admissible (Extent.hull [location, condition.location, body.location]) :=
    admissible_hull (List.forall_mem_cons.2 ⟨h.location, List.forall_mem_cons.2
      ⟨hcondition.location, List.forall_mem_singleton.2 hbody.location⟩⟩)
  show W.Relates _ _ (expr source ancestors (.whileNode location condition body))
    (expr target ancestors' (.whileNode (location.map W.onLocation)
      (condition.relocate W.onLocation) (Tree.relocateBlock W.onLocation body)))
  rw [expr_whileNode, expr_whileNode, Tree.location_relocate, Tree.location_relocateBlock, hhull]
  refine W.relates_bind hcondition.expr_walks fun test _ htest ↦ ?_
  refine W.relates_bind hbody.block?_walks fun statements _ hstatements ↦ ?_
  refine h.site_walks rfl .loop hadmissible Kind.noConfusion
    ((htest.append hstatements).congr (fun _ ↦ Iff.rfl) ?_)
  simp [Shape.children, Shape.fields, Field.parts]

/-! ### The whole converter -/

/-- One step of the induction: the walk goes through a node when it is known below it. -/
theorem Enters.expr_walks {t : Tree} (h : W.Enters ancestors ancestors' ⟨.expression, t⟩) :
    W.RelatesExpr ancestors ancestors' t := by
  cases t with
  -- None of these three is an expression.
  | access location name => exact W.relates_unrecognized h.stands h.visits rfl
  | index location i => exact W.relates_unrecognized h.stands h.visits rfl
  | unknown location type payload => exact W.relates_unrecognized h.stands h.visits rfl
  | arr location objects => exact arr_walks h
  | assign location left right context => exact assign_walks h
  | block b => exact block_walks h
  | bool location val => exact bool_walks h
  | call location callee args => exact call_walks h
  | classNode location name parent body => exact classNode_walks h
  | code location params body bound => exact code_walks h
  | ifNode location condition body elseBody => exact ifNode_walks h
  | literal l => exact literal_walks h
  | null location => exact null_walks h
  | obj location properties => exact obj_walks h
  | op location operator first second => exact op_walks h
  | param p => exact param_walks h
  | parens location body => exact parens_walks h
  | switch location subject cases otherwise => exact switch_walks h
  | value location base properties => exact value_walks h
  | whileNode location condition body => exact whileNode_walks h

variable (W) in
/-- **The walk goes through the whole converter**, from every node that the two runs meet. -/
theorem converts (t : Tree) : ∀ u, t.Reaches u → W.Converts u := by
  -- The hypothesis is about all ancestors, so it serves children below longer lists of them.
  induction t using Tree.induction_children with
  | hstep t ih =>
    rw [Tree.forall_reaches_iff]
    exact ⟨fun hstands hvisits ↦ Enters.expr_walks ⟨hstands, hvisits, ih⟩, ih⟩

/-- Wherever the two runs meet a node that is visited, it is ready. -/
theorem ready {v : Visit} (hstands : W.Stands ancestors ancestors' v.node)
    (hvisits : W.Visits v) : W.Ready ancestors ancestors' v :=
  ready_of hstands hvisits (W.converts v.node)

/-- **The walk goes through the body of a program**, whose statements are met below the root. -/
theorem programBody_walks {root : Tree.Block Tree} (hreaches : W.root.Reaches (.block root))
    (hlocation : W.Admissible root.location)
    (hstands : ∀ t ∈ root.expressions, W.Stands ["Block"] ["Block"] t)
    (hvisits : W.Visits ⟨.branch, .block root⟩) :
    W.Relates (fun n ↦ MadeFor source W.root [⟨.branch, .block root⟩] [n]) W.onNode
      (programBody source root)
      (programBody target (Tree.relocateBlock W.onLocation root)) := by
  obtain ⟨location, expressions⟩ := root
  have hexpressions : ∀ t ∈ expressions, W.Ready ["Block"] ["Block"] ⟨.expression, t⟩ :=
    fun t ht ↦ ready (hstands t ht) (W.visits_next hvisits (List.mem_map_of_mem ht))
  refine W.relates_bind (exprs_walks hexpressions) fun statements _ hstatements ↦ ?_
  have hparts : MadeFor source W.root (expressions.map (⟨.expression, ·⟩))
      (Shape.block statements).children :=
    hstatements.congr (fun _ ↦ Iff.rfl) (by simp [Shape.children, Shape.fields, Field.parts])
  exact (relates_site hreaches (.own rfl) hlocation hparts).mono fun _ _ hn ↦ hn.2.block

end Walk

end CoffeeTree
