import CoffeeTree.Proofs.Outside
import Mathlib.Data.List.Chain

/-!
# The ancestors that an error names

An error about a node without counterpart names the types of the nodes around it. The converter
grows this list by hand on its way down, by one type at most places, by two where it passes over a
node, and nowhere reads it. So two things have to be shown:

* the list is the types of the nodes on a way through the tree, from the root to the parent of the
  node that the error is about (`Convert.exists_leads_of_unrecognized`);
* ancestors that are put in front of the list change nothing but the list (`Convert.node?_below`).

Both are runs side by side that have the source in common. Every error that is not about a node is
then the same in both, and what is left to say is where the nodes are met (`Parallel.ofAncestors`).
-/

namespace CoffeeTree

open CoffeeTree.Convert

theorem ConversionError.ofAnchor_ne_unrecognized (e : AnchorError) (u : Unrecognized) :
    ofAnchor e ≠ .unrecognized u := by
  rcases e with ⟨side, line, column, anchor⟩ | refusal
  · simp [ofAnchor]
  · simp [ofAnchor]

/-! ### Runs that differ in their ancestors -/

section OfAncestors

variable {source : Source} {Fails : ConversionError → ConversionError → Prop}

/-- Expansions do not see the ancestors. -/
theorem Location.agree_of_other (hother : ∀ e, (∀ u, e ≠ .unrecognized u) → Fails e e)
    (wider : Except AnchorError Location) :
    Agree (fun _ ↦ True) (fun e e' ↦ Fails (.ofAnchor e) (.ofAnchor e')) wider wider :=
  .refl (fun _ _ ↦ trivial) fun e _ ↦ hother _ (ConversionError.ofAnchor_ne_unrecognized e)

/-- Nor does building. -/
theorem Node.build_of_other (hother : ∀ e, (∀ u, e ≠ .unrecognized u) → Fails e e)
    (loc : Location) (shape : Shape Node) :
    Alongside (fun _ ↦ True) Fails (fun _ ↦ True) (build source (some loc) shape)
      (build source (some loc) shape) := by
  refine ⟨rfl, fun _ _ ↦ trivial, .refl (fun _ _ ↦ trivial) fun e he ↦ ?_⟩
  obtain ⟨p, rfl, -⟩ := exists_of_build_error he
  exact hother _ fun u hu ↦ absurd hu (by simp)

/-- Two runs on one source, below ancestors that belong together. -/
def Parallel.ofAncestors (source : Source) (Stands : List String → List String → Tree → Prop)
    (Fails : ConversionError → ConversionError → Prop)
    (hchild : ∀ {ancestors ancestors' : List String} {t c : Tree}, Stands ancestors ancestors' t →
      c ∈ t.children → Stands (ancestors ++ [t.typeName]) (ancestors' ++ [t.typeName]) c)
    (hunrecognized : ∀ {ancestors ancestors' : List String} {t : Tree} (cause : Cause),
      Stands ancestors ancestors' t →
        Fails (.unrecognized ⟨t, ancestors, cause⟩) (.unrecognized ⟨t, ancestors', cause⟩))
    (hother : ∀ e, (∀ u, e ≠ .unrecognized u) → Fails e e) : Parallel source source where
  Stands := Stands
  Admits _ := True
  Records _ := True
  Fails := Fails
  stands_child := hchild
  admits_of_stands _ _ _ := trivial
  admits_merge _ _ := trivial
  unrecognized := hunrecognized
  expandRight _ := Location.agree_of_other hother _
  expandLeft _ := Location.agree_of_other hother _
  build _ _ := Node.build_of_other hother _ _

end OfAncestors

/-! ### More ancestors -/

/-- The error below more ancestors. Only an error about a node tells where it is. -/
def ConversionError.below (outer : List String) : ConversionError → ConversionError
  | unrecognized e => unrecognized { e with ancestors := outer ++ e.ancestors }
  | anchorNotFound side line column anchor => anchorNotFound side line column anchor
  | outside error => outside error

/-- Only giving up on a node has ancestors in its error. -/
theorem ConversionError.eq_below {e : ConversionError} (h : ∀ u, e ≠ .unrecognized u)
    (outer : List String) : e = e.below outer := by
  rcases e with u | ⟨side, line, column, anchor⟩ | p
  · exact absurd rfl (h u)
  · rfl
  · rfl

theorem ConversionError.stands_below {outer ancestors ancestors' : List String}
    (h : ancestors' = outer ++ ancestors) (type : String) :
    ancestors' ++ [type] = outer ++ (ancestors ++ [type]) := by
  rw [h, List.append_assoc]

theorem ConversionError.unrecognized_below {outer ancestors ancestors' : List String} {t : Tree}
    {cause : Cause} (h : ancestors' = outer ++ ancestors) :
    unrecognized ⟨t, ancestors', cause⟩ = below outer (unrecognized ⟨t, ancestors, cause⟩) := by
  rw [h]
  rfl

/-- The second run is below more ancestors than the first one. -/
def Parallel.below (source : Source) (outer : List String) : Parallel source source :=
  .ofAncestors source (fun ancestors ancestors' _ ↦ ancestors' = outer ++ ancestors)
    (fun e e' ↦ e' = e.below outer) (fun h _ ↦ ConversionError.stands_below h _)
    (fun _ h ↦ ConversionError.unrecognized_below h) fun _ h ↦ ConversionError.eq_below h outer

/-- If errors belong together by a function then one result is the image of the other. -/
theorem Agree.eq_mapError {ε α : Type} {Good : α → Prop} {f : ε → ε} {x y : Except ε α}
    (h : Agree Good (fun e e' ↦ e' = f e) x y) : y = x.mapError f := by
  rcases h with _ | rfl
  · rfl
  · rfl

/-- **More ancestors in front change nothing but the ancestors of an error.** -/
theorem Convert.node?_below (source : Source) (outer ancestors : List String) (t : Tree) :
    node? source (outer ++ ancestors) t = ⟨(node? source ancestors t).events,
      (node? source ancestors t).result.mapError (.below outer)⟩ := by
  have hstands : (Parallel.below source outer).Stands ancestors (outer ++ ancestors) t := rfl
  have hruns := Parallel.node?_runs hstands
  have hevents := hruns.events_eq
  have hresult := hruns.results.eq_mapError
  rw [hevents, ← hresult]

/-- A node that comes out below some ancestors comes out below any others. -/
theorem Convert.expr_eq_ok_of_ancestors {source : Source} {ancestors : List String} {t : Tree}
    {node : Node} (h : (expr source ancestors t).result = .ok node) (ancestors' : List String) :
    (expr source ancestors' t).result = .ok node := by
  have hbelow : ∀ outer : List String,
      (expr source outer t).result = (expr source [] t).result.mapError (.below outer) := by
    intro outer
    have hstands : (Parallel.below source outer).Stands [] outer t := (List.append_nil outer).symm
    exact (Parallel.expr_runs hstands).results.eq_mapError
  rw [hbelow] at h ⊢
  rcases hresult : (expr source [] t).result with e | found
  · rw [hresult] at h
    have herror : Except.error (e.below ancestors) = .ok node := h
    exact absurd herror (by simp)
  · rw [hresult] at h
    exact h

/-! ### A way through the tree -/

/-- The nodes of the path lead from the root to the parent of the node. -/
structure Tree.Leads (root : Tree) (path : List Tree) (t : Tree) : Prop where
  head?_eq : path.head? = some root
  isChain : path.IsChain fun parent child ↦ child ∈ parent.children
  exists_last : ∃ last ∈ path.getLast?, t ∈ last.children

namespace Tree.Leads

variable {root t c : Tree} {path : List Tree}

/-- The way to a child of the root. -/
theorem of_child (h : t ∈ root.children) : root.Leads [root] t :=
  ⟨rfl, List.isChain_singleton root, root, rfl, h⟩

/-- The node itself is the next one on the way to its children. -/
theorem child (h : root.Leads path t) (hc : c ∈ t.children) : root.Leads (path ++ [t]) c := by
  obtain ⟨hhead, hchain, last, hlast, ht⟩ := h
  refine ⟨?_, List.isChain_append.2 ⟨hchain, List.isChain_singleton t, ?_⟩, t, ?_, hc⟩
  · rw [List.head?_append, hhead]
    rfl
  · intro x hx y hy
    obtain rfl : last = x := Option.some.inj (hlast.symm.trans hx)
    obtain rfl : t = y := Option.some.inj hy
    exact ht
  · exact List.getLast?_concat

/-- The node is met below the types of the nodes on a way to it. -/
def Types (root : Tree) (ancestors : List String) (t : Tree) : Prop :=
  ∃ path, root.Leads path t ∧ path.map typeName = ancestors

/-- The way goes on to a child, and so do the ancestors. -/
theorem Types.child {ancestors : List String} (h : Types root ancestors t)
    (hc : c ∈ t.children) : Types root (ancestors ++ [t.typeName]) c := by
  obtain ⟨path, hpath, rfl⟩ := h
  exact ⟨path ++ [t], hpath.child hc, List.map_append⟩

end Tree.Leads

/-- The nodes that a run gives up on are met below the types on a way to them. -/
def Parallel.ancestry (source : Source) (root : Tree) : Parallel source source :=
  .ofAncestors source (fun ancestors _ t ↦ Tree.Leads.Types root ancestors t)
    (fun e _ ↦ ∀ u, e = .unrecognized u → Tree.Leads.Types root u.ancestors u.node)
    (fun h hc ↦ h.child hc) (fun _ h _ hu ↦ ConversionError.unrecognized.inj hu ▸ h)
    fun _ h u hu ↦ absurd hu (h u)

namespace Convert

/-- **The ancestors of an error are a way through the tree.** The error carries the node that it is
about, and with it the type, the location and the structure of that node. There are nodes from the
root to the parent of this node, each directly below the one before, and their types are the
ancestors that the error names. -/
theorem exists_leads_of_unrecognized {source : Source} {root : Tree.Block Tree}
    {e : Unrecognized} (h : (program source root).result = .error (.unrecognized e)) :
    ∃ (path : List Tree) (n : Tree), path.head? = some (.block root) ∧
      (path.IsChain fun parent child ↦ child ∈ parent.children) ∧
      (∃ last ∈ path.getLast?, n ∈ last.children) ∧
      path.map Tree.typeName = e.ancestors ∧ e.node = n := by
  have hstands : ∀ t ∈ root.expressions,
      (Parallel.ancestry source (.block root)).Stands ["Block"] ["Block"] t :=
    fun t ht ↦ ⟨[.block root], .of_child ht, rfl⟩
  have hruns := Parallel.programBody_runs_of_expressions (fun _ _ ↦ trivial) hstands
  obtain ⟨path, hpath, htypes⟩ :=
    hruns.results.fails (programBody_of_program_error h) e rfl
  exact ⟨path, e.node, hpath.head?_eq, hpath.isChain, hpath.exists_last, htypes, rfl⟩

/-- A statement that the converter does not know. -/
def throwNode : Tree := .unknown (some ⟨⟨0, 5⟩, ⟨0, 9⟩⟩) "Throw" []

/-- The statement in an index, which is the value of a member of a class. -/
def throwInMember : Tree.Block Tree :=
  ⟨none, [.classNode none none none (some ⟨none, [.value none (.obj none [.assign none
    (.null none) (.value none (.null none) [.index none (.parens none
      (.block ⟨none, [throwNode]⟩))]) none]) []]⟩)]⟩

def throwAncestors : List String :=
  ["Block", "Class", "Block", "Value", "Obj", "Assign", "Value", "Index", "Parens", "Block"]

/-- Ten nodes lead to the statement. Three of them are passed over by the converter. -/
theorem exists_leads_of_unrecognized_throw :
    (program ⟨['n', 'u', 'l', 'l'], Source.unnamed⟩ throwInMember).result =
        .error (.unrecognized ⟨throwNode, throwAncestors, .unknownType⟩) ∧
      ∃ path : List Tree, path.head? = some (.block throwInMember) ∧
        (path.IsChain fun parent child ↦ child ∈ parent.children) ∧
        (∃ last ∈ path.getLast?, throwNode ∈ last.children) ∧
        path.map Tree.typeName = throwAncestors := by
  have hresult : (program ⟨['n', 'u', 'l', 'l'], Source.unnamed⟩ throwInMember).result =
      .error (.unrecognized ⟨throwNode, throwAncestors, .unknownType⟩) := by
    rfl
  obtain ⟨path, n, hhead, hchain, hlast, htypes, rfl⟩ := exists_leads_of_unrecognized hresult
  exact ⟨hresult, path, hhead, hchain, hlast, htypes⟩

end Convert

end CoffeeTree
