import CoffeeTree.Proofs.AnchoredRanges

/-!
# Chains of accesses

A value is a base with accesses behind it, and it becomes as many nodes, each around the one before
it. These are the *layers* of the chain. The first layer is what the base becomes, and the last one
is the result.

What a layer is depends on its own access alone, and so does its place, up to the base: the location
of a layer is the hull of the base and of that access, not of what came before. So a layer is
virtual when neither of the two is located, whatever it holds, and its line and column are those of
the one that starts first. Only the range knows the layer before it, as ranges are widened by the
parts. `Convert.Layer` says all of this about one layer, and `Convert.value_layers` about all of
them.
-/

namespace CoffeeTree

namespace Convert

variable {source : Source} {ancestors : List String} {base : Option Location}

/-- What an access becomes around a node. -/
inductive AccessShape (source : Source) (ancestors : List String) (inner : Node) :
    Tree → Shape Node → Prop where
  | member {location : Option Location} {name : Tree.Literal} :
      AccessShape source ancestors inner (.access location name) (.memberAccess inner name.value)
  | index {location : Option Location} {i : Tree} {indexing : Node}
      (result : (expr source (ancestors ++ ["Index"]) i).result = .ok indexing) :
      AccessShape source ancestors inner (.index location i) (.dynamicMemberAccess inner indexing)

/-- The second node is the layer that an access puts around the first one, behind a base with the
given location. -/
structure Layer (source : Source) (ancestors : List String) (base : Option Location)
    (property : Tree) (inner outer : Node) : Prop where
  shape : AccessShape source ancestors inner property outer.shape
  virtual_iff : outer.virtual = true ↔ base = none ∧ property.location = none
  starts : ∀ place ∈ outer.place, ∃ first,
    IsLeast (Extent.first '' Extent.present [base, property.location]) first ∧
      place.line = first.line + 1 ∧ place.column = first.column + 1
  nested : ∀ r ∈ outer.range?, ∀ q ∈ inner.range?, r.Contains q

/-! ### One access -/

/-- What is accessed is a part of the access. -/
theorem AccessShape.inner_mem {inner : Node} {property : Tree} {shape : Shape Node}
    (h : AccessShape source ancestors inner property shape) : inner ∈ shape.children := by
  cases h with
  | member => exact List.mem_cons_self
  | index result => exact List.mem_cons_self

/-- The locations start alike, or there is none of them. -/
def StartsLike (location other : Option Location) : Prop :=
  location.map Extent.first = other.map Extent.first

/-- An expansion to the right leaves the start where it is. -/
theorem startsLike_of_expandRight {location wider : Option Location}
    (h : (expand (Location.expandRight source "]") location).result = .ok wider) :
    StartsLike wider location := by
  rcases location with _ | loc
  · obtain rfl := Except.ok.inj h
    rfl
  · obtain ⟨found, hfound, rfl⟩ := exists_of_expand h
    obtain ⟨-, -, -, -, rfl⟩ := Location.exists_isLeast_of_expandRight hfound
    rfl

/-- **One access.** It builds a layer at a location that starts with the hull of the base and the
access, and the accesses behind it go on from there. -/
theorem accesses_cons_yields {inner : Node} {property : Tree} {rest : List Tree} :
    Yields (fun n ↦ ∃ location shape outer, AccessShape source ancestors inner property shape ∧
        StartsLike location (Extent.hull [base, property.location]) ∧
        (Node.build source location shape).result = .ok outer ∧
        (accesses source ancestors base outer rest).result = .ok n)
      (accesses source ancestors base inner (property :: rest)) := by
  cases property with
  | access location name =>
    intro n h
    obtain ⟨outer, houter, hrest⟩ := Traced.result_bind_eq_ok.1 h
    exact ⟨_, _, outer, .member, rfl, houter, hrest⟩
  | index location i =>
    intro n h
    obtain ⟨wider, hwider, h⟩ := Traced.result_bind_eq_ok.1 h
    obtain ⟨indexing, hindexing, h⟩ := Traced.result_bind_eq_ok.1 h
    obtain ⟨outer, houter, hrest⟩ := Traced.result_bind_eq_ok.1 h
    exact ⟨wider, _, outer, .index hindexing, startsLike_of_expandRight hwider, houter, hrest⟩
  | _ => exact .of_unrecognized

theorem StartsLike.eq_none_iff {location other : Option Location} (h : StartsLike location other) :
    location = none ↔ other = none := by
  rw [← Option.map_eq_none_iff, h, Option.map_eq_none_iff]

/-- **What one access builds is a layer.** -/
theorem layer_of_build {inner outer : Node} {property : Tree} {location : Option Location}
    {shape : Shape Node} (hshape : AccessShape source ancestors inner property shape)
    (hstarts : StartsLike location (Extent.hull [base, property.location]))
    (hresult : (Node.build source location shape).result = .ok outer)
    (hbuilt : outer.Built source) : Layer source ancestors base property inner outer where
  shape := (Node.shape_of_build hresult).symm ▸ hshape
  virtual_iff := by
    have hnone : location = none ↔ base = none ∧ property.location = none := by
      rw [hstarts.eq_none_iff, Extent.hull_eq_none_iff]
      simp
    rw [← hnone]
    rcases Node.build_eq_ok_cases hresult with ⟨rfl, rfl⟩ | ⟨loc, own, rfl, -, rfl⟩
    · simp [Node.virtual, Node.place]
    · simp [Node.virtual, Node.place]
  starts := by
    rcases Node.build_eq_ok_cases hresult with ⟨-, rfl⟩ | ⟨loc, own, rfl, -, rfl⟩
    · exact fun place hplace ↦ absurd hplace (by simp [Node.place])
    · intro place hplace
      obtain rfl := Option.some.inj hplace
      -- The expansion to the right kept the start of the hull.
      obtain ⟨c, hhull, hfirst⟩ := Option.map_eq_some_iff.1 hstarts.symm
      refine ⟨c.first, (Extent.hull_eq_some_iff.1 hhull).first, ?_, ?_⟩
      · exact congrArg (·.line + 1) hfirst.symm
      · exact congrArg (·.column + 1) hfirst.symm
  nested r hr q hq := by
    have hmem := hshape.inner_mem
    rw [← Node.shape_of_build hresult] at hmem
    exact hbuilt.contains_child hr hmem hq

/-! ### All accesses -/

/-- The layers of a chain, from the first one to the result. Each access of the value puts a layer
around the one before it. -/
structure Layers (source : Source) (ancestors : List String) (base : Option Location)
    (properties : List Tree) (layers : List Node) : Prop where
  length_eq : layers.length = properties.length + 1
  layer : ∀ (i : Nat) (property : Tree) (inner outer : Node), properties[i]? = some property →
    layers[i]? = some inner → layers[i + 1]? = some outer →
    Layer source ancestors base property inner outer

/-- **The accesses build the layers, one after the other.** -/
theorem exists_layers_of_accesses {start n : Node} {properties : List Tree}
    (h : (accesses source ancestors base start properties).result = .ok n)
    (hbuilt : n.Built source) :
    ∃ layers, Layers source ancestors base properties layers ∧ layers.head? = some start ∧
      layers.getLast? = some n := by
  induction properties generalizing start with
  | nil =>
    obtain rfl := Except.ok.inj h
    refine ⟨[start], ⟨rfl, fun i property inner outer hproperty ↦ ?_⟩, rfl, rfl⟩
    exact absurd hproperty (by simp)
  | cons property rest ih =>
    obtain ⟨location, shape, outer, hshape, hstarts, hresult, hrest⟩ := accesses_cons_yields n h
    -- The result holds every layer, so each of them is built as the result is.
    have houter : outer.Built source := hbuilt.of_reaches (reaches_of_accesses hrest)
    have hlayer := layer_of_build hshape hstarts hresult houter
    obtain ⟨layers, hlayers, hhead, hlast⟩ := ih hrest
    refine ⟨start :: layers, ⟨by simp [hlayers.length_eq], ?_⟩, rfl, ?_⟩
    · rintro (_ | i) property' inner' outer' hproperty hinner houter'
      · obtain rfl := Option.some.inj hproperty
        obtain rfl := Option.some.inj hinner
        rw [List.getElem?_cons_succ, ← List.head?_eq_getElem?, hhead] at houter'
        obtain rfl := Option.some.inj houter'
        exact hlayer
      · exact hlayers.layer i property' inner' outer' hproperty hinner houter'
    · rw [List.getLast?_cons, hlast]
      rfl

/-- What a value becomes is built. -/
theorem built_of_expr_value {location : Option Location} {base : Tree} {properties : List Tree}
    {n : Node} (h : (expr source ancestors (.value location base properties)).result = .ok n) :
    n.Built source := by
  have hnode : (node? source ancestors (.value location base properties)).result =
      .ok (some n) := by
    rw [node?_of_not_block _ _ fun b ↦ Tree.noConfusion]
    exact Traced.result_bind_eq_ok.2 ⟨n, h, rfl⟩
  exact built_of_node? hnode

/-- **The accesses of a value fold from left to right.** What a value becomes is the last of as many
layers as it has accesses, around what its base becomes. -/
theorem value_layers {location : Option Location} {base : Tree} {properties : List Tree} {n : Node}
    (h : (expr source ancestors (.value location base properties)).result = .ok n) :
    ∃ start layers, (expr source (ancestors ++ ["Value"]) base).result = .ok start ∧
      Layers source (ancestors ++ ["Value"]) base.location properties layers ∧
      layers.head? = some start ∧ layers.getLast? = some n := by
  obtain ⟨start, hstart, haccesses⟩ := expr_value_eq_ok_iff.1 h
  obtain ⟨layers, hlayers⟩ := exists_layers_of_accesses haccesses (built_of_expr_value h)
  exact ⟨start, layers, hstart, hlayers⟩

def chainText : Source :=
  ⟨['n', 'u', 'l', 'l', '.', 'a', '[', 'n', 'u', 'l', 'l', ']', '.', 'b'], Source.unnamed⟩

/-- Three accesses behind a base without location. The index has none either, although what it holds
is located. -/
def chainAccesses : List Tree :=
  [.access (some ⟨⟨0, 4⟩, ⟨0, 5⟩⟩) ⟨none, "a"⟩, .index none (.null (some ⟨⟨0, 7⟩, ⟨0, 10⟩⟩)),
    .access (some ⟨⟨0, 12⟩, ⟨0, 13⟩⟩) ⟨none, "b"⟩]

def chainInner : Node :=
  .mk (some ⟨1, 5, ⟨4, 6⟩, ".a"⟩) (.memberAccess (.mk none .null) "a")

def chainMiddle : Node :=
  .mk none (.dynamicMemberAccess chainInner (.mk (some ⟨1, 8, ⟨7, 11⟩, "null"⟩) .null))

def chainOuter : Node := .mk (some ⟨1, 13, ⟨12, 14⟩, ".b"⟩) (.memberAccess chainMiddle "b")

/-- The layer of the index is virtual, and the two others are located by their own accesses. Neither
of their ranges contains the other, as the layer between them has none. -/
theorem value_layers_chain :
    (expr chainText [] (.value none (.null none) chainAccesses)).result = .ok chainOuter ∧
      ∃ start layers, (expr chainText ["Value"] (.null none)).result = .ok start ∧
        Layers chainText ["Value"] none chainAccesses layers ∧
        layers.head? = some start ∧ layers.getLast? = some chainOuter := by
  have hresult : (expr chainText [] (.value none (.null none) chainAccesses)).result =
      .ok chainOuter := by rfl
  exact ⟨hresult, value_layers hresult⟩

end Convert

end CoffeeTree
