import CoffeeTree.Proofs.Walk.Basic

/-!
# The parts of the converter on a walk

Lists, blocks, operators, conditions, accesses, members, parameters, bodies of classes and cases:
each part of the converter has one lemma, which follows its equation and says for which visits the
nodes were made. What it asks of the trees in it is that they are `Ready`: a node stands where the
two runs meet it, its visit is made, and the walk is known from there and from everything below.
Being ready passes from a node to its children, and the ancestors grow by the type of the node on
both sides. So a part that passes over a node, as the body of a class does with an object, takes two
steps at once.
-/

namespace CoffeeTree

open CoffeeTree.Convert
open CoffeeTree.Tree (Visit)

/-! ### Words, operators and literals that are not accepted -/

namespace Convert

/-- The words for truth values are those of the table. -/
theorem truthValue?_isSome_iff (val : String) :
    (truthValue? val).isSome ↔ Tree.truthWords.contains val := by
  unfold truthValue?
  split <;> simp_all [Tree.truthWords]

theorem binaryOperator?_isSome_iff (operator : String) :
    (binaryOperator? operator).isSome ↔ Tree.binaryOperators.contains operator := by
  unfold binaryOperator?
  split <;> simp_all [Tree.binaryOperators]

theorem unaryOperator?_isSome_iff (operator : String) :
    (unaryOperator? operator).isSome ↔ Tree.unaryOperators.contains operator := by
  unfold unaryOperator?
  split <;> simp_all [Tree.unaryOperators]

/-- A literal has a shape exactly when it is understood. -/
theorem isUnderstood_literal (l : Tree.Literal) :
    (Tree.literal l).isUnderstood = (literalShape l.value).toBool := by
  rw [Tree.isUnderstood, literalShape]
  by_cases hnumeric : Literal.looksNumeric l.value.toList = true
  · rw [if_pos hnumeric, hnumeric]
    cases Literal.number? l.value.toList with
    | none => rfl
    | some number => cases number <;> rfl
  · rw [if_neg hnumeric, Bool.eq_false_iff.2 hnumeric]
    split
    · rfl
    · split <;> rfl

/-- So has a word for a truth value. -/
theorem isUnderstood_bool (location : Option Location) (val : String) :
    (Tree.bool location val).isUnderstood = (boolShape val).toBool := by
  have hsome := truthValue?_isSome_iff val
  rw [Tree.isUnderstood, boolShape]
  generalize truthValue? val = found at hsome ⊢
  cases found with
  | none => exact Bool.eq_false_iff.2 fun h ↦ absurd (hsome.2 h) Bool.false_ne_true
  | some b => exact hsome.1 rfl

/-- A block becomes a node unless it is empty. -/
theorem isSome_of_block? {source : Source} {b : Tree.Block Tree} {ancestors : List String}
    {node : Option Node} (h : (block? source ancestors b).result = .ok node) :
    node.isSome = !b.expressions.isEmpty := by
  obtain ⟨location, _ | ⟨first, rest⟩⟩ := b
  · obtain rfl : none = node := Except.ok.inj h
    rfl
  · rw [block?_cons] at h
    obtain ⟨head, -, h⟩ := Traced.result_bind_eq_ok.1 h
    obtain ⟨tail, -, h⟩ := Traced.result_bind_eq_ok.1 h
    obtain ⟨block, -, h⟩ := Traced.result_bind_eq_ok.1 h
    obtain rfl : some block = node := Except.ok.inj h
    rfl

/-- The last node of a chain of accesses holds the first one. -/
theorem reaches_of_accesses {source : Source} {ancestors : List String} {base : Option Location}
    {expression n : Node} {properties : List Tree}
    (h : (accesses source ancestors base expression properties).result = .ok n) :
    n.Reaches expression := by
  -- Each access is built around what came before.
  induction properties generalizing expression with
  | nil =>
    obtain rfl := Except.ok.inj h
    exact .refl _
  | cons t rest ih =>
    cases t with
    | access inner name =>
      rw [accesses_access] at h
      obtain ⟨node, hnode, h⟩ := Traced.result_bind_eq_ok.1 h
      have hpart : expression ∈ node.children := by
        simp [Node.children, Node.shape_of_build hnode, Shape.children, Shape.fields, Field.parts]
      exact (ih h).trans (.head hpart (.refl _))
    | index inner i =>
      rw [accesses_index] at h
      obtain ⟨wider, -, h⟩ := Traced.result_bind_eq_ok.1 h
      obtain ⟨indexing, -, h⟩ := Traced.result_bind_eq_ok.1 h
      obtain ⟨node, hnode, h⟩ := Traced.result_bind_eq_ok.1 h
      have hpart : expression ∈ node.children := by
        simp [Node.children, Node.shape_of_build hnode, Shape.children, Shape.fields, Field.parts]
      exact (ih h).trans (.head hpart (.refl _))
    | _ => exact absurd h (by simp [accesses, unrecognized, Traced.fail])

end Convert

namespace Walk

variable {source target : Source} {W : Walk source target}

/-! ### Nodes that are ready -/

variable (W) in
/-- The walk is known for a tree that is taken as an expression, wherever the two runs meet it. -/
def Converts (t : Tree) : Prop :=
  ∀ {ancestors ancestors' : List String}, W.Stands ancestors ancestors' t →
    W.Visits ⟨.expression, t⟩ →
      W.Relates (Expresses source W.root t) W.onNode (expr source ancestors t)
        (expr target ancestors' (t.relocate W.onLocation))

variable (W) in
/-- The two runs meet a node below these ancestors, and the walk is known below the node. -/
structure Enters (ancestors ancestors' : List String) (v : Visit) : Prop where
  stands : W.Stands ancestors ancestors' v.node
  visits : W.Visits v
  below : ∀ c ∈ v.node.children, ∀ u, c.Reaches u → W.Converts u

variable (W) in
/-- The two runs meet a node below these ancestors, and the walk is known from there on. -/
structure Ready (ancestors ancestors' : List String) (v : Visit) : Prop extends
    Enters W ancestors ancestors' v where
  converts : W.Converts v.node

variable {ancestors ancestors' : List String}

/-- A node that is entered belongs to the tree that is walked through. -/
theorem Enters.reaches {v : Visit} (h : W.Enters ancestors ancestors' v) :
    W.root.Reaches v.node :=
  W.reaches_of_stands h.stands

theorem Enters.location {v : Visit} (h : W.Enters ancestors ancestors' v) :
    W.Admissible v.node.location :=
  W.admits_of_stands h.stands

/-- A node is ready if all nodes below it can be walked through, itself included. -/
theorem ready_of {v : Visit} (hstands : W.Stands ancestors ancestors' v.node)
    (hvisits : W.Visits v) (hbelow : ∀ u, v.node.Reaches u → W.Converts u) :
    W.Ready ancestors ancestors' v where
  stands := hstands
  visits := hvisits
  below _ hc u hu := hbelow u (.head hc hu)
  converts := hbelow v.node (.refl v.node)

/-- A child in its role is ready. -/
theorem Enters.child {v : Visit} {role : Tree.Role} {c : Tree}
    (h : W.Enters ancestors ancestors' v) (hc : c ∈ v.node.children) (hnext : ⟨role, c⟩ ∈ v.next) :
    W.Ready (ancestors ++ [v.node.typeName]) (ancestors' ++ [v.node.typeName]) ⟨role, c⟩ :=
  ready_of (W.stands_child h.stands hc) (W.visits_next h.visits hnext) (h.below c hc)

/-- So is a child of a child, where the node between them is passed over. -/
theorem Enters.grandchild {v : Visit} {role : Tree.Role} {d c : Tree}
    (h : W.Enters ancestors ancestors' v) (hd : d ∈ v.node.children) (hc : c ∈ d.children)
    (hnext : ⟨role, c⟩ ∈ v.next) :
    W.Ready (ancestors ++ [v.node.typeName] ++ [d.typeName])
      (ancestors' ++ [v.node.typeName] ++ [d.typeName]) ⟨role, c⟩ :=
  ready_of (W.stands_child (W.stands_child h.stands hd) hc) (W.visits_next h.visits hnext)
    fun u hu ↦ h.below d hd u (.head hc hu)

/-- Two types that are passed at once. -/
theorem Ready.of_append {type type' : String} {v : Visit}
    (h : W.Ready (ancestors ++ [type] ++ [type']) (ancestors' ++ [type] ++ [type']) v) :
    W.Ready (ancestors ++ [type, type']) (ancestors' ++ [type, type']) v := by
  rw [List.append_assoc, List.append_assoc] at h
  exact h

/-- A node that is visited as an expression is converted as one. -/
theorem Ready.walks {v : Visit} (h : W.Ready ancestors ancestors' v) (hplain : v.Plain) :
    W.Relates (fun n ↦ Expresses source W.root v.node n ∧ MadeFor source W.root [v] [n]) W.onNode
      (expr source ancestors v.node) (expr target ancestors' (v.node.relocate W.onLocation)) :=
  (h.converts h.stands (W.visits_plain hplain h.visits)).mono fun _ hn hexpresses ↦
    ⟨hexpresses, hexpresses.madeFor hplain hn⟩

/-- An expression is converted as one. -/
theorem Ready.expr_walks {t : Tree} (h : W.Ready ancestors ancestors' ⟨.expression, t⟩) :
    W.Relates (fun n ↦ MadeFor source W.root [⟨.expression, t⟩] [n]) W.onNode
      (expr source ancestors t) (expr target ancestors' (t.relocate W.onLocation)) :=
  (h.walks (Visit.plain_expression t)).mono fun _ _ hn ↦ hn.2

/-! ### Lists and blocks -/

/-- A list of expressions gives a node for each. -/
theorem exprs_walks {trees : List Tree}
    (h : ∀ t ∈ trees, W.Ready ancestors ancestors' ⟨.expression, t⟩) :
    W.RelatesNodes (trees.map (⟨.expression, ·⟩)) (exprs source ancestors trees)
      (exprs target ancestors' (Tree.relocateList W.onLocation trees)) := by
  induction trees with
  | nil => exact W.relates_pure (a := []) .nil
  | cons t rest ih =>
    have hrest := ih fun u hu ↦ h u (List.mem_cons_of_mem _ hu)
    show W.RelatesNodes _ (exprs source ancestors (t :: rest)) (exprs target ancestors'
      (t.relocate W.onLocation :: Tree.relocateList W.onLocation rest))
    rw [exprs_cons, exprs_cons]
    refine W.relates_bind (h t List.mem_cons_self).expr_walks fun node _ hnode ↦ ?_
    refine W.relates_bind hrest fun nodes _ hnodes ↦ ?_
    exact W.relates_pure (a := node :: nodes) (hnode.append hnodes)

/-- An expression that may be missing. -/
theorem expr?_walks {tree : Option Tree}
    (h : ∀ t ∈ tree, W.Ready ancestors ancestors' ⟨.expression, t⟩) :
    W.RelatesOption (tree.toList.map (⟨.expression, ·⟩)) (expr? source ancestors tree)
      (expr? target ancestors' (Tree.relocateOption W.onLocation tree)) := by
  rcases tree with _ | t
  · exact W.relates_pure (a := none) .nil
  · exact relates_some (h t rfl).expr_walks

/-- A block that holds something is built at its own location. -/
theorem block?_walks {b : Tree.Block Tree} (hstands : W.Stands ancestors ancestors' (.block b))
    (h : ∀ t ∈ b.expressions,
      W.Ready (ancestors ++ ["Block"]) (ancestors' ++ ["Block"]) ⟨.expression, t⟩) :
    W.Relates (fun o ↦ MadeFor source W.root (b.expressions.map (⟨.expression, ·⟩)) o.toList ∧
        ∀ n ∈ o, n.kind ≠ .classConstructor) (Option.map W.onNode)
      (block? source ancestors b)
      (block? target ancestors' (Tree.relocateBlock W.onLocation b)) := by
  have hreaches := W.reaches_of_stands hstands
  have hlocation : W.Admissible b.location := W.admits_of_stands hstands
  -- An empty block gives no node, so no location is needed for it.
  obtain ⟨location, _ | ⟨first, rest⟩⟩ := b
  · exact W.relates_pure (a := none) ⟨.nil, fun _ hn ↦ absurd hn (by simp)⟩
  · have hrest := exprs_walks fun t ht ↦ h t (List.mem_cons_of_mem _ ht)
    show W.Relates _ _ (block? source ancestors ⟨location, first :: rest⟩)
      (block? target ancestors' ⟨location.map W.onLocation,
        first.relocate W.onLocation :: Tree.relocateList W.onLocation rest⟩)
    rw [block?_cons, block?_cons]
    refine W.relates_bind (h first List.mem_cons_self).expr_walks fun head _ hhead ↦ ?_
    refine W.relates_bind hrest fun tail _ htail ↦ ?_
    have hparts : MadeFor source W.root ((first :: rest).map (⟨.expression, ·⟩))
        (Shape.block (head :: tail)).children :=
      (hhead.append htail).congr (fun _ ↦ Iff.rfl)
        (by simp [Shape.children, Shape.fields, Field.parts])
    refine W.relates_bind (relates_site hreaches (.own rfl) hlocation hparts)
      fun node _ hnode ↦ W.relates_pure (a := some node) ⟨hnode.2, fun n hn ↦ ?_⟩
    obtain rfl := Option.some.inj hn
    rw [Node.kind, hnode.1]
    exact Kind.noConfusion

/-- A block that is a body. -/
theorem Ready.block?_walks {b : Tree.Block Tree}
    (h : W.Ready ancestors ancestors' ⟨.branch, .block b⟩) :
    W.RelatesOption [⟨.branch, .block b⟩] (block? source ancestors b)
      (block? target ancestors' (Tree.relocateBlock W.onLocation b)) := by
  have hexpressions : ∀ t ∈ b.expressions,
      W.Ready (ancestors ++ ["Block"]) (ancestors' ++ ["Block"]) ⟨.expression, t⟩ :=
    fun t ht ↦ h.child ht (List.mem_map_of_mem ht)
  exact (Walk.block?_walks h.stands hexpressions).mono fun _ _ ho ↦ ho.1.block

/-- A body that may be missing, or empty. -/
theorem body?_walks {body : Option (Tree.Block Tree)}
    (h : ∀ b ∈ body, W.Ready ancestors ancestors' ⟨.branch, .block b⟩) :
    W.RelatesOption (body.toList.map (⟨.branch, .block ·⟩)) (body? source ancestors body)
      (body? target ancestors' (Tree.relocateBlockOption W.onLocation body)) := by
  rcases body with _ | b
  · exact W.relates_pure (a := none) .nil
  · exact (h b rfl).block?_walks

/-- A branch is a block or an expression. -/
theorem node?_walks {t : Tree} (h : W.Ready ancestors ancestors' ⟨.branch, t⟩) :
    W.RelatesOption [⟨.branch, t⟩] (node? source ancestors t)
      (node? target ancestors' (t.relocate W.onLocation)) := by
  by_cases hblock : ∃ b, t = .block b
  · obtain ⟨b, rfl⟩ := hblock
    exact h.block?_walks
  · have ht : ∀ b, t ≠ .block b := fun b hb ↦ hblock ⟨b, hb⟩
    rw [node?_of_not_block _ _ ht, node?_of_not_block _ _ (Tree.relocate_ne_block _ ht)]
    exact relates_some ((h.walks (Visit.plain_branch ht)).mono fun _ _ hn ↦ hn.2)

/-- A branch that may be missing. -/
theorem alternative?_walks {tree : Option Tree}
    (h : ∀ t ∈ tree, W.Ready ancestors ancestors' ⟨.branch, t⟩) :
    W.RelatesOption (tree.toList.map (⟨.branch, ·⟩)) (alternative? source ancestors tree)
      (alternative? target ancestors' (Tree.relocateOption W.onLocation tree)) := by
  rcases tree with _ | t
  · exact W.relates_pure (a := none) .nil
  · show W.RelatesOption _ (alternative? source ancestors (some t))
      (alternative? target ancestors' (some (t.relocate W.onLocation)))
    rw [alternative?_some, alternative?_some]
    exact node?_walks (h t rfl)

/-! ### Operators and conditions -/

/-- What an operator becomes at a location: a node that is built from its operands, which are in
order for the operator. -/
structure OperationMade (source : Source) (root : Tree) (location : Option Location)
    (operator : String) (self : Tree) (n : Node) : Prop where
  understood : self.isUnderstood = true
  exists_shape : ∃ shape : Shape Node, (Node.build source location shape).result = .ok n ∧
    shape.kind.ordinary = true ∧ shape.kind ≠ .classConstructor ∧
    MadeFor source root self.visits shape.children ∧
    (operator = "!" → ∃ operand, shape = .unary .not operand)

/-- An operator with one operand. One that is not known fails before its operand is looked at. -/
theorem unary_walks {own location : Option Location} {operator : String} {first : Tree}
    (h : W.Enters ancestors ancestors' ⟨.expression, .op own operator first none⟩)
    (hlocation : W.Admissible location) :
    W.Relates (OperationMade source W.root location operator (.op own operator first none))
      W.onNode
      (operation source ancestors (.op own operator first none) location operator
        (expr source (ancestors ++ ["Op"]) first) none)
      (operation target ancestors'
        (.op (own.map W.onLocation) operator (first.relocate W.onLocation) none)
        (location.map W.onLocation) operator
        (expr target (ancestors' ++ ["Op"]) (first.relocate W.onLocation)) none) := by
  have hfirst : W.Ready (ancestors ++ ["Op"]) (ancestors' ++ ["Op"]) ⟨.expression, first⟩ :=
    h.child List.mem_cons_self List.mem_cons_self
  have hsome := unaryOperator?_isSome_iff operator
  rw [operation, operation]
  -- The operator is looked up before the operand is converted.
  rcases hop : unaryOperator? operator with _ | op
  · rw [hop] at hsome
    exact W.relates_unrecognized h.stands h.visits
      (Bool.eq_false_iff.2 fun hknown ↦ Bool.false_ne_true (hsome.2 hknown))
  · rw [hop] at hsome
    refine W.relates_bind hfirst.expr_walks fun operand _ hoperand ↦ ?_
    have hparts : MadeFor source W.root _ (Shape.unary op operand).children := hoperand
    refine (relates_place hlocation hparts.built).mono fun n hn _ ↦
      ⟨hsome.1 rfl, _, hn, rfl, Kind.noConfusion, hparts, ?_⟩
    rintro rfl
    exact ⟨operand, by rw [← Option.some.inj hop]⟩

/-- An operator with two operands. -/
theorem binary_walks {own location : Option Location} {operator : String} {first right : Tree}
    (h : W.Enters ancestors ancestors' ⟨.expression, .op own operator first (some right)⟩)
    (hlocation : W.Admissible location) :
    W.Relates
      (OperationMade source W.root location operator (.op own operator first (some right)))
      W.onNode
      (operation source ancestors (.op own operator first (some right)) location operator
        (expr source (ancestors ++ ["Op"]) first)
        (some (expr source (ancestors ++ ["Op"]) right)))
      (operation target ancestors'
        (.op (own.map W.onLocation) operator (first.relocate W.onLocation)
          (some (right.relocate W.onLocation)))
        (location.map W.onLocation) operator
        (expr target (ancestors' ++ ["Op"]) (first.relocate W.onLocation))
        (some (expr target (ancestors' ++ ["Op"]) (right.relocate W.onLocation)))) := by
  have hfirst : W.Ready (ancestors ++ ["Op"]) (ancestors' ++ ["Op"]) ⟨.expression, first⟩ :=
    h.child List.mem_cons_self List.mem_cons_self
  have hright : W.Ready (ancestors ++ ["Op"]) (ancestors' ++ ["Op"]) ⟨.expression, right⟩ :=
    h.child (List.mem_cons_of_mem _ List.mem_cons_self)
      (List.mem_cons_of_mem _ List.mem_cons_self)
  have hsome := binaryOperator?_isSome_iff operator
  rw [operation, operation]
  rcases hop : binaryOperator? operator with _ | op
  · rw [hop] at hsome
    exact W.relates_unrecognized h.stands h.visits
      (Bool.eq_false_iff.2 fun hknown ↦ Bool.false_ne_true (hsome.2 hknown))
  · rw [hop] at hsome
    refine W.relates_bind hfirst.expr_walks fun l _ hl ↦ ?_
    refine W.relates_bind hright.expr_walks fun r _ hr ↦ ?_
    have hparts : MadeFor source W.root _ (Shape.binary op l r).children := hl.append hr
    refine (relates_place hlocation hparts.built).mono fun n hn _ ↦
      ⟨hsome.1 rfl, _, hn, rfl, Kind.noConfusion, hparts, ?_⟩
    -- There is no such operator with two operands.
    rintro rfl
    exact absurd hop (by simp [binaryOperator?])

/-- An operator, with its own location or with another one. -/
theorem operation_walks {own location : Option Location} {operator : String} {first : Tree}
    {second : Option Tree}
    (h : W.Enters ancestors ancestors' ⟨.expression, .op own operator first second⟩)
    (hlocation : W.Admissible location) :
    W.Relates (OperationMade source W.root location operator (.op own operator first second))
      W.onNode
      (operation source ancestors (.op own operator first second) location operator
        (expr source (ancestors ++ ["Op"]) first) (operand? source (ancestors ++ ["Op"]) second))
      (operation target ancestors' ((Tree.op own operator first second).relocate W.onLocation)
        (location.map W.onLocation) operator
        (expr target (ancestors' ++ ["Op"]) (first.relocate W.onLocation))
        (operand? target (ancestors' ++ ["Op"])
          (Tree.relocateOption W.onLocation second))) := by
  rcases second with _ | right
  · exact unary_walks h hlocation
  · exact binary_walks h hlocation

/-- The condition of an `if`. The negation of an `unless` is converted as if it had no location, so
it is virtual; it is stepped through, and its operand is in the virtual node. -/
theorem condition_walks {condition : Tree} (location : Option Location)
    (h : W.Ready ancestors ancestors' ⟨.expression, condition⟩) :
    W.Relates (fun test ↦ Tested source W.root location condition test ∧
        KeptBy source [test] ⟨.expression, condition⟩) W.onNode
      ((negation? source ancestors location condition).getD (expr source ancestors condition))
      ((negation? target ancestors' (location.map W.onLocation)
        (condition.relocate W.onLocation)).getD
          (expr target ancestors' (condition.relocate W.onLocation))) := by
  have hplain : ¬ NegatesWhole location condition →
      W.Relates (fun test ↦ Tested source W.root location condition test ∧
          KeptBy source [test] ⟨.expression, condition⟩) W.onNode
        (expr source ancestors condition)
        (expr target ancestors' (condition.relocate W.onLocation)) := by
    refine fun hnot ↦ h.expr_walks.mono fun test _ htest ↦ ?_
    exact ⟨.inl ⟨hnot, htest.grown test List.mem_cons_self⟩, htest.keeps _ List.mem_cons_self⟩
  cases condition with
  | op inner operator first second =>
    show W.Relates _ _ ((if isUnless location inner operator then some _ else none).getD _)
      ((if isUnless (location.map W.onLocation) (inner.map W.onLocation) operator
        then some _ else none).getD _)
    -- Both runs take out the negation, or neither does.
    rw [isUnless_map]
    by_cases hunless : isUnless location inner operator = true
    · rw [if_pos hunless, if_pos hunless]
      refine (operation_walks h.toEnters admissible_none).mono fun test _ htest ↦ ?_
      obtain ⟨hunderstood, shape, hresult, -, -, hparts, hnot⟩ := htest
      obtain ⟨operand, rfl⟩ := hnot (isUnless_iff.1 hunless).1
      obtain rfl := Except.ok.inj hresult
      refine ⟨.inr ⟨negatesWhole_op_iff.2 hunless, operand, rfl, ?_⟩, ?_⟩
      · exact hparts.grown operand List.mem_cons_self
      · exact .of_next rfl hunderstood fun w hw ↦ (hparts.keeps w hw).of_children
    · rw [if_neg hunless, if_neg hunless]
      exact hplain (mt negatesWhole_op_iff.1 hunless)
  | _ => exact hplain fun ⟨_, _, _, heq⟩ ↦ Tree.noConfusion heq

/-! ### Accesses, members and parameters -/

variable (W) in
/-- From any grown node on, the walk goes through the accesses. -/
def Chains (ancestors ancestors' : List String) (base : Option Location) (rest : List Tree) :
    Prop :=
  ∀ ⦃expression : Node⦄, Grown source W.root expression → expression.kind ≠ .classConstructor →
    W.Relates (fun n ↦ MadeFor source W.root (rest.map (⟨.access, ·⟩)) [n] ∧
        n.kind ≠ .classConstructor) W.onNode
      (accesses source ancestors base expression rest)
      (accesses target ancestors' (base.map W.onLocation) (W.onNode expression)
        (Tree.relocateList W.onLocation rest))

/-- An access by name is built at the hull of the base and the access. -/
theorem Chains.access {location inner : Option Location} {base : Tree} {name : Tree.Literal}
    {properties rest : List Tree} (h : W.Chains ancestors ancestors' base.location rest)
    (hvalue : W.root.Reaches (.value location base properties))
    (hmem : .access inner name ∈ properties)
    (hadmissible : W.Admissible (Extent.hull [base.location, inner])) :
    W.Chains ancestors ancestors' base.location (.access inner name :: rest) := by
  intro expression hexpression _
  show W.Relates _ _
    (accesses source ancestors base.location expression (.access inner name :: rest))
    (accesses target ancestors' (base.location.map W.onLocation) (W.onNode expression)
      (.access (inner.map W.onLocation) (name.relocate W.onLocation) ::
        Tree.relocateList W.onLocation rest))
  have hhull : Extent.hull [base.location.map W.onLocation, inner.map W.onLocation] = _ :=
    W.hull_map [base.location, inner]
  rw [accesses_access, accesses_access, hhull]
  have hparts : MadeFor source W.root [] (Shape.memberAccess expression name.value).children :=
    .of_grown hexpression
  refine W.relates_bind (relates_site hvalue (.access hmem) hadmissible hparts)
    fun node _ hnode ↦ ?_
  have hkind : node.kind ≠ .classConstructor := by
    rw [Node.kind, hnode.1]
    exact Kind.noConfusion
  refine (h (hnode.2.grown node List.mem_cons_self) hkind).mono fun n _ hn ↦
    ⟨⟨hn.1.grown, List.forall_mem_cons.2 ⟨?_, hn.1.keeps⟩⟩, hn.2⟩
  -- An access visits nothing from where it stands, so nothing is left to keep.
  exact .of_next rfl rfl fun w hw ↦ absurd hw List.not_mem_nil

/-- An index is built at that hull, expanded to its bracket. -/
theorem Chains.index {location inner : Option Location} {base i : Tree}
    {properties rest : List Tree} (h : W.Chains ancestors ancestors' base.location rest)
    (hvalue : W.root.Reaches (.value location base properties))
    (hmem : .index inner i ∈ properties)
    (hadmissible : W.Admissible (Extent.hull [base.location, inner]))
    (hi : W.Ready (ancestors ++ ["Index"]) (ancestors' ++ ["Index"]) ⟨.expression, i⟩) :
    W.Chains ancestors ancestors' base.location (.index inner i :: rest) := by
  intro expression hexpression _
  show W.Relates _ _
    (accesses source ancestors base.location expression (.index inner i :: rest))
    (accesses target ancestors' (base.location.map W.onLocation) (W.onNode expression)
      (.index (inner.map W.onLocation) (i.relocate W.onLocation) ::
        Tree.relocateList W.onLocation rest))
  have hhull : Extent.hull [base.location.map W.onLocation, inner.map W.onLocation] = _ :=
    W.hull_map [base.location, inner]
  rw [accesses_index, accesses_index, hhull]
  refine W.relates_bind (relates_expand W.relates_expandRight hadmissible)
    fun wider hwider hadmits ↦ ?_
  refine W.relates_bind hi.expr_walks fun indexing _ hindexing ↦ ?_
  have hparts : MadeFor source W.root [⟨.expression, i⟩]
      (Shape.dynamicMemberAccess expression indexing).children :=
    (MadeFor.of_grown hexpression).append hindexing
  refine W.relates_bind (relates_site hvalue (.index hmem hwider) hadmits hparts)
    fun node _ hnode ↦ ?_
  have hkind : node.kind ≠ .classConstructor := by
    rw [Node.kind, hnode.1]
    exact Kind.noConfusion
  refine (h (hnode.2.grown node List.mem_cons_self) hkind).mono fun n hn hmade ↦
    ⟨⟨hmade.1.grown, List.forall_mem_cons.2 ⟨?_, hmade.1.keeps⟩⟩, hmade.2⟩
  -- The index is in the node that was just built, and that one is in the last one.
  exact .of_next rfl rfl fun w hw ↦ (hnode.2.keeps w hw).of_reaches (reaches_of_accesses hn)

/-- Accesses, one after another. Those that are left are among those of the value. -/
theorem accesses_walks {location : Option Location} {base : Tree} {properties rest : List Tree}
    (hvalue : W.root.Reaches (.value location base properties)) (hrest : rest ⊆ properties)
    (hbase : W.Admissible base.location)
    (h : ∀ t ∈ rest, W.Ready ancestors ancestors' ⟨.access, t⟩) :
    W.Chains ancestors ancestors' base.location rest := by
  induction rest with
  | nil => exact fun _ hexpression hkind ↦ W.relates_pure ⟨.of_grown hexpression, hkind⟩
  | cons t rest ih =>
    have ht : W.Ready ancestors ancestors' ⟨.access, t⟩ := h t List.mem_cons_self
    have hmem : t ∈ properties := hrest List.mem_cons_self
    have hlater := ih (fun u hu ↦ hrest (List.mem_cons_of_mem _ hu))
      fun u hu ↦ h u (List.mem_cons_of_mem _ hu)
    have hadmissible : W.Admissible (Extent.hull [base.location, t.location]) :=
      admissible_hull (List.forall_mem_cons.2 ⟨hbase, List.forall_mem_singleton.2 ht.location⟩)
    cases t with
    | access inner name => exact hlater.access hvalue hmem hadmissible
    | index inner i =>
      exact hlater.index hvalue hmem hadmissible (ht.child List.mem_cons_self List.mem_cons_self)
    | _ => exact fun _ _ _ ↦ W.relates_unrecognized ht.stands ht.visits rfl

/-- A value alone is key and value of a member. -/
theorem objectMember_walks {t : Tree} (h : W.Ready ancestors ancestors' ⟨.expression, t⟩)
    {node : Node} (hnode : MadeFor source W.root [⟨.expression, t⟩] [node]) :
    W.Relates (fun member ↦ MadeFor source W.root [⟨.expression, t⟩] [member]) W.onNode
      (objectMember source t node)
      (objectMember target (t.relocate W.onLocation) (W.onNode node)) := by
  cases t with
  | value location base properties =>
    have hparts : MadeFor source W.root _ (Shape.objectInitialiserMember node node).children :=
      hnode.congr (fun _ ↦ Iff.rfl) (by simp [Shape.children, Shape.fields, Field.parts])
    exact (relates_site h.reaches (.own rfl) h.location hparts).mono fun _ _ hn ↦ hn.2
  | _ => exact W.relates_pure hnode

/-- The members of an object, one after the other. -/
theorem objectMembers_walks {properties : List Tree}
    (h : ∀ t ∈ properties, W.Ready ancestors ancestors' ⟨.expression, t⟩) :
    W.RelatesNodes (properties.map (⟨.expression, ·⟩)) (objectMembers source ancestors properties)
      (objectMembers target ancestors' (Tree.relocateList W.onLocation properties)) := by
  induction properties with
  | nil => exact W.relates_pure (a := []) .nil
  | cons t rest ih =>
    have ht := h t List.mem_cons_self
    have hrest := ih fun u hu ↦ h u (List.mem_cons_of_mem _ hu)
    show W.RelatesNodes _ (objectMembers source ancestors (t :: rest))
      (objectMembers target ancestors'
        (t.relocate W.onLocation :: Tree.relocateList W.onLocation rest))
    rw [objectMembers_cons, objectMembers_cons]
    refine W.relates_bind ht.expr_walks fun node _ hnode ↦ ?_
    refine W.relates_bind (objectMember_walks ht hnode) fun member _ hmember ↦ ?_
    refine W.relates_bind hrest fun members _ hmembers ↦ ?_
    exact W.relates_pure (a := member :: members) (hmember.append hmembers)

/-- The parameters of a function, one after the other. -/
theorem parameters_walks {params : List (Tree.Param Tree)}
    (h : ∀ p ∈ params, W.Ready ancestors ancestors' ⟨.expression, .param p⟩) :
    W.RelatesNodes (params.map (⟨.expression, .param ·⟩)) (parameters source ancestors params)
      (parameters target ancestors' (Tree.relocateParams W.onLocation params)) := by
  induction params with
  | nil => exact W.relates_pure (a := []) .nil
  | cons p rest ih =>
    have hp := h p List.mem_cons_self
    have hrest := ih fun q hq ↦ h q (List.mem_cons_of_mem _ hq)
    show W.RelatesNodes _ (parameters source ancestors (p :: rest)) (parameters target ancestors'
      (Tree.relocateParam W.onLocation p :: Tree.relocateParams W.onLocation rest))
    rw [parameters_cons, parameters_cons]
    refine W.relates_bind hp.expr_walks fun node _ hnode ↦ ?_
    refine W.relates_bind hrest fun nodes _ hnodes ↦ ?_
    exact W.relates_pure (a := node :: nodes) (hnode.append hnodes)

/-! ### Bodies of classes -/

variable (W) in
/-- Both runs give statements of a class that were made for these visits. -/
abbrev RelatesStatements (visits : List Visit) (c d : Conversion (List ClassStatement)) : Prop :=
  W.Relates (fun l ↦ MadeFor source W.root visits (l.map (·.statement)))
    (List.map (ClassStatement.mapPlaces W.onPlace)) c d

/-- The statement for a member of a class is built at the location of the member. -/
theorem memberShape_walks {t : Tree} (hreaches : W.root.Reaches t)
    (hlocation : W.Admissible t.location) {visits : List Visit} {key value : Node}
    (hparts : MadeFor source W.root visits (memberShape key value).children) :
    W.Relates (fun n ↦ MadeFor source W.root visits [n]) W.onNode
      (Node.build source t.location (memberShape key value))
      (Node.build target (t.location.map W.onLocation)
        (memberShape (W.onNode key) (W.onNode value))) := by
  have hsite : Site source t t.location (memberShape key value).kind :=
    .own (ordinary_memberShape key value)
  rw [onNode, ← map_memberShape]
  exact (relates_site hreaches hsite hlocation hparts).mono fun _ _ hn ↦ hn.2

/-- A member that is key and value at once. -/
theorem shorthand_parts {v : Visit} {both : Node} (h : MadeFor source W.root [v] [both]) :
    MadeFor source W.root [v] (memberShape both both).children where
  grown c hc := by
    rcases mem_children_memberShape hc with rfl | rfl
    · exact h.grown _ List.mem_cons_self
    · exact h.grown _ List.mem_cons_self
  keeps w hw := (h.keeps w hw).subset
    (List.cons_subset.2 ⟨value_mem_memberShape both both, List.nil_subset _⟩)

/-- A member with a key and a value. The key may name the constructor. -/
theorem member_parts (location : Option Location) {left right : Tree} (context : Option String)
    {types : List String} {key value : Node} (hkey : Expresses source W.root left key)
    (hresult : (expr source types left).result = .ok key)
    (hvalue : MadeFor source W.root [⟨.expression, right⟩] [value]) :
    MadeFor source W.root [⟨.member, .assign location left right context⟩]
      (memberShape key value).children where
  grown c hc := by
    rcases mem_children_memberShape hc with rfl | rfl
    · exact hkey.grown
    · exact hvalue.grown _ List.mem_cons_self
  keeps := by
    refine List.forall_mem_singleton.2 (.of_next rfl rfl (List.forall_mem_cons.2 ⟨?_, ?_⟩))
    · exact key_kept value hkey.understood hresult
    · exact fun w hw ↦ (hvalue.keeps w hw).subset
        (List.cons_subset.2 ⟨value_mem_memberShape key value, List.nil_subset _⟩)

/-- One member that is key and value at once, and the members behind it. -/
theorem classMembers_value_walks {location : Option Location} {base : Tree}
    {accesses rest : List Tree}
    (h : W.Ready ancestors ancestors' ⟨.member, .value location base accesses⟩)
    (hrest : W.RelatesStatements (rest.map (⟨.member, ·⟩)) (classMembers source ancestors rest)
      (classMembers target ancestors' (Tree.relocateList W.onLocation rest))) :
    W.RelatesStatements (⟨.member, .value location base accesses⟩ :: rest.map (⟨.member, ·⟩))
      (classMembers source ancestors (.value location base accesses :: rest))
      (classMembers target ancestors' (.value (location.map W.onLocation)
        (base.relocate W.onLocation) (Tree.relocateList W.onLocation accesses) ::
          Tree.relocateList W.onLocation rest)) := by
  rw [classMembers_value, classMembers_value]
  refine W.relates_bind (h.walks (Visit.plain_member location base accesses))
    fun both _ hboth ↦ ?_
  refine W.relates_bind (memberShape_walks h.reaches h.location (shorthand_parts hboth.2))
    fun statement _ hstatement ↦ ?_
  refine W.relates_bind hrest fun statements _ hstatements ↦ ?_
  refine W.relates_pure (a := ClassStatement.mk statement (some both) :: statements) ?_
  exact hstatement.append hstatements

/-- One member with a key and a value, and the members behind it. -/
theorem classMembers_assign_walks {location : Option Location} {left right : Tree}
    {context : Option String} {rest : List Tree}
    (h : W.Ready ancestors ancestors' ⟨.member, .assign location left right context⟩)
    (hrest : W.RelatesStatements (rest.map (⟨.member, ·⟩)) (classMembers source ancestors rest)
      (classMembers target ancestors' (Tree.relocateList W.onLocation rest))) :
    W.RelatesStatements
      (⟨.member, .assign location left right context⟩ :: rest.map (⟨.member, ·⟩))
      (classMembers source ancestors (.assign location left right context :: rest))
      (classMembers target ancestors' (.assign (location.map W.onLocation)
        (left.relocate W.onLocation) (right.relocate W.onLocation) context ::
          Tree.relocateList W.onLocation rest)) := by
  have hleft : W.Ready (ancestors ++ ["Assign"]) (ancestors' ++ ["Assign"])
      ⟨.expression, left⟩ := h.child List.mem_cons_self List.mem_cons_self
  have hright : W.Ready (ancestors ++ ["Assign"]) (ancestors' ++ ["Assign"])
      ⟨.expression, right⟩ :=
    h.child (List.mem_cons_of_mem _ List.mem_cons_self)
      (List.mem_cons_of_mem _ List.mem_cons_self)
  rw [classMembers_assign, classMembers_assign]
  -- A key that names the constructor is left out, so it is kept by its own conversion.
  refine W.relates_bind (hleft.walks (Visit.plain_expression left)) fun key hresult hkey ↦ ?_
  refine W.relates_bind hright.expr_walks fun value _ hvalue ↦ ?_
  have hparts := member_parts location context hkey.1 hresult hvalue
  refine W.relates_bind (memberShape_walks h.reaches h.location hparts)
    fun statement _ hstatement ↦ ?_
  refine W.relates_bind hrest fun statements _ hstatements ↦ ?_
  refine W.relates_pure (a := ClassStatement.mk statement (some value) :: statements) ?_
  exact hstatement.append hstatements

/-- A member is a value or an assignment, and anything else is given up on. -/
theorem classMembers_walks {properties : List Tree}
    (h : ∀ t ∈ properties, W.Ready ancestors ancestors' ⟨.member, t⟩) :
    W.RelatesStatements (properties.map (⟨.member, ·⟩)) (classMembers source ancestors properties)
      (classMembers target ancestors' (Tree.relocateList W.onLocation properties)) := by
  induction properties with
  | nil => exact W.relates_pure (a := []) .nil
  | cons t rest ih =>
    have ht : W.Ready ancestors ancestors' ⟨.member, t⟩ := h t List.mem_cons_self
    have hrest := ih fun u hu ↦ h u (List.mem_cons_of_mem _ hu)
    cases t with
    | value location base accesses => exact classMembers_value_walks ht hrest
    | assign location left right context => exact classMembers_assign_walks ht hrest
    | _ => exact W.relates_unrecognized ht.stands ht.visits rfl

/-- An object that stands as a statement is passed over, and its members are met below the value and
the object. -/
theorem object_ready {t : Tree} {properties : List Tree}
    (hobject : classObject? t = some properties)
    (h : W.Ready ancestors ancestors' ⟨.statement, t⟩) :
    ∀ u ∈ properties, W.Ready (ancestors ++ ["Value", "Obj"]) (ancestors' ++ ["Value", "Obj"])
      ⟨.member, u⟩ := by
  obtain ⟨location, inner, accesses, rfl⟩ := exists_of_classObject? hobject
  intro u hu
  have hobj : Tree.obj inner properties ∈
      (Tree.value location (.obj inner properties) accesses).children := List.mem_cons_self
  exact (h.grandchild hobj hu (List.mem_map_of_mem hu)).of_append

/-- The statement of such an object was made for its members. -/
theorem MadeFor.object {t : Tree} {properties : List Tree} {nodes : List Node}
    (hobject : classObject? t = some properties)
    (h : MadeFor source W.root (properties.map (⟨.member, ·⟩)) nodes) :
    MadeFor source W.root [⟨.statement, t⟩] nodes := by
  obtain ⟨location, inner, accesses, rfl⟩ := exists_of_classObject? hobject
  exact ⟨h.grown, List.forall_mem_singleton.2 (.of_next rfl rfl h.keeps)⟩

/-- A statement of a class is an object, which gives its members, or an expression. -/
theorem classStatements_walks {trees : List Tree}
    (h : ∀ t ∈ trees, W.Ready ancestors ancestors' ⟨.statement, t⟩) :
    W.RelatesStatements (trees.map (⟨.statement, ·⟩)) (classStatements source ancestors trees)
      (classStatements target ancestors' (Tree.relocateList W.onLocation trees)) := by
  induction trees with
  | nil => exact W.relates_pure (a := []) .nil
  | cons t rest ih =>
    have ht : W.Ready ancestors ancestors' ⟨.statement, t⟩ := h t List.mem_cons_self
    have hrest := ih fun u hu ↦ h u (List.mem_cons_of_mem _ hu)
    have hrelocated := Tree.classObject?_relocate W.onLocation t
    show W.RelatesStatements _ (classStatements source ancestors (t :: rest))
      (classStatements target ancestors'
        (t.relocate W.onLocation :: Tree.relocateList W.onLocation rest))
    -- Both runs find an object here, or neither does.
    rcases hobject : classObject? t with _ | properties
    · rw [hobject, Option.map_none] at hrelocated
      rw [classStatements_of_not_object _ _ hobject, classStatements_of_not_object _ _ hrelocated]
      refine W.relates_bind (ht.walks (Visit.plain_statement hobject)) fun node _ hnode ↦ ?_
      refine W.relates_bind hrest fun statements _ hstatements ↦ ?_
      refine W.relates_pure (a := ClassStatement.mk node none :: statements) ?_
      exact hnode.2.append hstatements
    · rw [hobject, Option.map_some] at hrelocated
      rw [classStatements_object _ _ hobject, classStatements_object _ _ hrelocated]
      refine W.relates_bind (classMembers_walks (object_ready hobject ht))
        fun members _ hmembers ↦ ?_
      refine W.relates_bind hrest fun statements _ hstatements ↦ ?_
      have hall := (MadeFor.object hobject hmembers).append hstatements
      rw [← List.map_append] at hall ⊢
      exact W.relates_pure hall

variable (W) in
/-- What becomes of the body of a class in the second run. -/
def onClassBody (body : ClassBody) : ClassBody :=
  ⟨body.block.map W.onNode, body.statements.map (ClassStatement.mapPlaces W.onPlace)⟩

/-- The visits from the body of a class. -/
abbrev bodyVisits (body : Option (Tree.Block Tree)) : List Visit :=
  body.toList.flatMap fun b ↦ b.expressions.map (⟨.statement, ·⟩)

/-- The body of a class was made for its statements, and each of them is grown by itself: some are
repeated outside the body. -/
theorem classBody_walks {body : Option (Tree.Block Tree)}
    (hstands : ∀ b ∈ body, W.Stands ancestors ancestors' (.block b))
    (h : ∀ b ∈ body, ∀ t ∈ b.expressions,
      W.Ready (ancestors ++ ["Block"]) (ancestors' ++ ["Block"]) ⟨.statement, t⟩) :
    W.Relates (fun made ↦ MadeFor source W.root (bodyVisits body) made.block.toList ∧
        ∀ s ∈ made.statements, Grown source W.root s.statement) W.onClassBody
      (classBody source ancestors body)
      (classBody target ancestors' (Tree.relocateBlockOption W.onLocation body)) := by
  have hempty : MadeFor source W.root [] (none : Option Node).toList ∧
      ∀ s ∈ ([] : List ClassStatement), Grown source W.root s.statement :=
    ⟨.nil, fun s hs ↦ absurd hs List.not_mem_nil⟩
  rcases body with _ | ⟨location, _ | ⟨first, rest⟩⟩
  · exact W.relates_pure (a := ClassBody.mk none []) hempty
  · exact W.relates_pure (a := ClassBody.mk none []) hempty
  · have hblock : W.Stands ancestors ancestors' (.block ⟨location, first :: rest⟩) :=
      hstands _ rfl
    show W.Relates _ W.onClassBody (classBody source ancestors (some ⟨location, first :: rest⟩))
      (classBody target ancestors' (some ⟨location.map W.onLocation,
        first.relocate W.onLocation :: Tree.relocateList W.onLocation rest⟩))
    rw [classBody_cons, classBody_cons]
    refine W.relates_bind (classStatements_walks (h _ rfl)) fun statements _ hstatements ↦ ?_
    have hshape : Shape.block ((statements.map (ClassStatement.mapPlaces W.onPlace)).map
        (·.statement)) = (Shape.block (statements.map (·.statement))).map W.onNode := by
      rw [Shape.map, List.map_map, List.map_map]
      rfl
    have hvisits : bodyVisits (some ⟨location, first :: rest⟩) =
        (first :: rest).map (⟨.statement, ·⟩) := List.flatMap_singleton _ _
    have hparts : MadeFor source W.root (bodyVisits (some ⟨location, first :: rest⟩))
        (Shape.block (statements.map (·.statement))).children :=
      hstatements.congr (by simp only [hvisits, implies_true])
        (by simp [Shape.children, Shape.fields, Field.parts])
    rw [hshape]
    refine W.relates_bind (relates_site (W.reaches_of_stands hblock) (.own rfl)
      (W.admits_of_stands hblock) hparts) fun node _ hnode ↦ ?_
    refine W.relates_pure (a := ClassBody.mk (some node) statements) ⟨hnode.2, fun s hs ↦ ?_⟩
    exact hstatements.grown s.statement (List.mem_map_of_mem hs)

/-! ### Cases of a switch -/

/-- The conditions of a case, one or several. -/
theorem tests_walks {conditions : Tree.Conditions Tree}
    (h : ∀ t ∈ conditions.toList, W.Ready ancestors ancestors' ⟨.expression, t⟩) :
    W.RelatesNodes (conditions.toList.map (⟨.expression, ·⟩)) (tests source ancestors conditions)
      (tests target ancestors' (Tree.relocateConditions W.onLocation conditions)) := by
  rcases conditions with condition | conditions
  · have hcondition := h condition (List.mem_singleton_self _)
    exact W.relates_bind hcondition.expr_walks fun node _ hnode ↦ W.relates_pure (a := [node]) hnode
  · exact exprs_walks h

/-- The visits from a case. -/
abbrev caseVisits (case : Tree.Case Tree) : List Visit :=
  case.conditions.toList.map (⟨.expression, ·⟩) ++ [⟨.branch, .block case.body⟩]

/-- A case is built at the hull of its conditions and its body, expanded to its word. The cases that
are left are among those of the switch. -/
theorem switchCases_walks {location : Option Location} {subject : Option Tree}
    {cases rest : List (Tree.Case Tree)} {otherwise : Option (Tree.Block Tree)}
    (hswitch : W.root.Reaches (.switch location subject cases otherwise)) (hrest : rest ⊆ cases)
    (h : ∀ case ∈ rest, (∀ t ∈ case.conditions.toList,
        W.Ready ancestors ancestors' ⟨.expression, t⟩) ∧
      W.Ready ancestors ancestors' ⟨.branch, .block case.body⟩) :
    W.RelatesNodes (rest.flatMap caseVisits) (switchCases source ancestors rest)
      (switchCases target ancestors' (Tree.relocateCases W.onLocation rest)) := by
  -- The sites are those of the whole switch, so the list of all cases stays fixed.
  induction rest with
  | nil => exact W.relates_pure (a := []) .nil
  | cons case rest ih =>
    obtain ⟨hconditions, hbody⟩ := h case List.mem_cons_self
    have hmem : case ∈ cases := hrest List.mem_cons_self
    have hlater := ih (fun other hother ↦ hrest (List.mem_cons_of_mem _ hother))
      fun other hother ↦ h other (List.mem_cons_of_mem _ hother)
    obtain ⟨conditions, body⟩ := case
    show W.RelatesNodes _ (switchCases source ancestors (⟨conditions, body⟩ :: rest))
      (switchCases target ancestors' (⟨Tree.relocateConditions W.onLocation conditions,
        Tree.relocateBlock W.onLocation body⟩ :: Tree.relocateCases W.onLocation rest))
    have hhull := W.hull_map (conditions.toList.map (·.location) ++ [body.location])
    rw [List.map_append, ← Tree.location_relocateList, List.map_singleton] at hhull
    have hadmissible : W.Admissible
        (Extent.hull (conditions.toList.map (·.location) ++ [body.location])) := by
      refine admissible_hull (List.forall_mem_append.2 ⟨?_, ?_⟩)
      · exact List.forall_mem_map.2 fun t ht ↦ (hconditions t ht).location
      · exact List.forall_mem_singleton.2 hbody.location
    rw [switchCases_cons, switchCases_cons, Tree.toList_relocateConditions,
      Tree.location_relocateBlock, hhull]
    refine W.relates_bind (relates_expand W.relates_expandLeft hadmissible)
      fun wider hwider hadmits ↦ ?_
    refine W.relates_bind (tests_walks hconditions) fun tests _ htests ↦ ?_
    refine W.relates_bind hbody.block?_walks fun consequent _ hconsequent ↦ ?_
    have hparts : MadeFor source W.root (caseVisits ⟨conditions, body⟩)
        (Shape.switchCase tests consequent).children :=
      (htests.append hconsequent).congr (fun _ ↦ Iff.rfl)
        (by simp [Shape.children, Shape.fields, Field.parts])
    refine W.relates_bind (relates_site hswitch (.case hmem hwider) hadmits hparts)
      fun node _ hnode ↦ ?_
    refine W.relates_bind hlater fun nodes _ hnodes ↦ ?_
    exact W.relates_pure (a := node :: nodes) (hnode.2.append hnodes)

end Walk

end CoffeeTree
