import CoffeeTree.Proofs.Kept
import CoffeeTree.Proofs.Relocation
import CoffeeTree.Proofs.Sites
import Mathlib.Logic.Function.Basic

/-!
# Walks through the converter

Whatever is to be shown of the converter is shown by going through its equations. That is done once.
A *walk* goes through two runs side by side: one on a source, and one on another source of the same
tree with its locations changed. It is given by a relation between the steps of the two runs, with
one rule for each way in which the converter takes or combines steps: returning a value, going on
after a step, giving up on a node, expanding a location to the right or to the left, and building a
node. From these rules alone the whole converter is related (`Walk.converts`).

The relation carries what is known of the results of the first run, which is the same for all walks
(`Convert.Expresses`): the nodes are grown from the tree, they keep the visits that they were made
for, and an expression does not become a constructor. The rules may ask for some of this in return;
a node is built from built parts only.

A run by itself is a walk whose relation does not look at the second run.
-/

namespace CoffeeTree

open CoffeeTree.Convert
open CoffeeTree.Tree (Visit)

/-! ### What is known of results -/

namespace Convert

/-- The nodes were made for these visits: they are grown from the tree, and they keep the visits. -/
structure MadeFor (source : Source) (root : Tree) (visits : List Visit) (nodes : List Node) :
    Prop where
  grown : ∀ n ∈ nodes, Grown source root n
  keeps : KeepsAll source nodes visits

/-- What an expression becomes: a grown node that keeps what is visited from the expression, and
never a constructor. -/
structure Expresses (source : Source) (root t : Tree) (n : Node) : Prop where
  understood : t.isUnderstood = true
  grown : Grown source root n
  keeps : KeepsAll source [n] t.visits
  kind_ne : n.kind ≠ .classConstructor

namespace MadeFor

variable {source : Source} {root : Tree} {visits others : List Visit} {nodes more : List Node}

theorem nil : MadeFor source root [] [] :=
  ⟨fun _ hn ↦ absurd hn List.not_mem_nil, fun _ hw ↦ absurd hw List.not_mem_nil⟩

/-- What is grown is built. -/
theorem built (h : MadeFor source root visits nodes) : ∀ n ∈ nodes, n.Built source :=
  fun n hn ↦ (h.grown n hn).built

/-- Nodes that were made for visits, one after the other. -/
theorem append (h : MadeFor source root visits nodes) (h' : MadeFor source root others more) :
    MadeFor source root (visits ++ others) (nodes ++ more) where
  grown := List.forall_mem_append.2 ⟨h.grown, h'.grown⟩
  keeps := List.forall_mem_append.2
    ⟨fun w hw ↦ (h.keeps w hw).subset (List.subset_append_left _ _),
      fun w hw ↦ (h'.keeps w hw).subset (List.subset_append_right _ _)⟩

/-- A grown node that was made for no visit in particular. -/
theorem of_grown {n : Node} (h : Grown source root n) : MadeFor source root [] [n] :=
  ⟨List.forall_mem_singleton.2 h, fun _ hw ↦ absurd hw List.not_mem_nil⟩

/-- Neither the order of the visits matters nor that of the nodes. -/
theorem congr (h : MadeFor source root visits nodes) (hvisits : ∀ w, w ∈ others ↔ w ∈ visits)
    (hnodes : ∀ n, n ∈ more ↔ n ∈ nodes) : MadeFor source root others more where
  grown n hn := h.grown n ((hnodes n).1 hn)
  keeps w hw := (h.keeps w ((hvisits w).1 hw)).subset fun n hn ↦ (hnodes n).2 hn

/-- A part of a node keeps what it was made for inside the node. -/
theorem of_reaches {n m : Node} (h : MadeFor source root visits [m])
    (hgrown : Grown source root n) (hm : n.Reaches m) : MadeFor source root visits [n] where
  grown := List.forall_mem_singleton.2 hgrown
  keeps w hw := (h.keeps w hw).of_reaches hm

/-- A block that is a body was made for what it holds. -/
theorem block {b : Tree.Block Tree}
    (h : MadeFor source root (b.expressions.map (⟨.expression, ·⟩)) nodes) :
    MadeFor source root [⟨.branch, .block b⟩] nodes :=
  ⟨h.grown, List.forall_mem_singleton.2 (.block h.keeps)⟩

end MadeFor

/-- What a plain visit becomes was made for it. -/
theorem Expresses.madeFor {source : Source} {root : Tree} {v : Visit} {n : Node}
    {ancestors : List String} (h : Expresses source root v.node n) (hplain : v.Plain)
    (hresult : (expr source ancestors v.node).result = .ok n) :
    MadeFor source root [v] [n] :=
  ⟨List.forall_mem_singleton.2 h.grown,
    List.forall_mem_singleton.2 (.of_result hplain h.understood hresult)⟩

end Convert

/-! ### Walks -/

/-- Locations that are not changed are merged as they are. -/
theorem Location.id_merge (a b : Location) : id (a.merge b) = (id a).merge (id b) := rfl

/-- A walk through the conversions of a tree, on one source and on another one. -/
structure Walk (source target : Source) where
  /-- The tree that is walked through. -/
  root : Tree
  /-- What becomes of the locations of the tree in the second run. -/
  onLocation : Location → Location
  /-- What becomes of the places of nodes in the second run. -/
  onPlace : Place → Place
  /-- The node is met below the first ancestors in one run, and below the second ones in the
  other. -/
  Stands : List String → List String → Tree → Prop
  /-- The visits that the walk makes. -/
  Visits : Visit → Prop
  /-- The locations at which nodes are built. -/
  Admits : Location → Prop
  /-- Two steps belong together: what the first one gives is as described, and what the second one
  gives is the image of it. -/
  Relates : ∀ {α β : Type}, (α → Prop) → (α → β) → Conversion α → Conversion β → Prop
  injective : Function.Injective onLocation
  onLocation_merge : ∀ a b : Location,
    onLocation (a.merge b) = (onLocation a).merge (onLocation b)
  reaches_of_stands : ∀ {ancestors ancestors' : List String} {t : Tree},
    Stands ancestors ancestors' t → root.Reaches t
  admits_of_stands : ∀ {ancestors ancestors' : List String} {t : Tree},
    Stands ancestors ancestors' t → ∀ loc ∈ t.location, Admits loc
  stands_child : ∀ {ancestors ancestors' : List String} {t c : Tree},
    Stands ancestors ancestors' t → c ∈ t.children →
      Stands (ancestors ++ [t.typeName]) (ancestors' ++ [t.typeName]) c
  visits_next : ∀ {v w : Visit}, Visits v → w ∈ v.next → Visits w
  visits_plain : ∀ {v : Visit}, v.Plain → Visits v → Visits ⟨.expression, v.node⟩
  admits_merge : ∀ {a b : Location}, Admits a → Admits b → Admits (a.merge b)
  /-- Returning a value. -/
  relates_pure : ∀ {α β : Type} {Good : α → Prop} {f : α → β} {a : α}, Good a →
    Relates Good f (pure a) (pure (f a))
  /-- Going on after a step. -/
  relates_bind : ∀ {α β γ δ : Type} {Good : α → Prop} {f : α → β} {Good' : γ → Prop} {g : γ → δ}
    {c : Conversion α} {d : Conversion β} {next : α → Conversion γ} {next' : β → Conversion δ},
    Relates Good f c d →
    (∀ a, c.result = .ok a → Good a → Relates Good' g (next a) (next' (f a))) →
      Relates Good' g (c >>= next) (d >>= next')
  /-- Giving up on a node, which the role of its visit does not accept. -/
  relates_unrecognized : ∀ {α β : Type} {Good : α → Prop} {f : α → β}
    {ancestors ancestors' : List String} {v : Visit} {cause : Cause},
    Stands ancestors ancestors' v.node → Visits v → v.accepts = false →
      Relates Good f (unrecognized ancestors v.node cause)
        (unrecognized ancestors' (v.node.relocate onLocation) cause)
  /-- Expansion to the bracket that closes an index. -/
  relates_expandRight : ∀ {loc : Location}, Admits loc →
    Relates (fun wider ↦ ∀ loc ∈ wider, Admits loc) (Option.map onLocation)
      (expand (Location.expandRight source "]") (some loc))
      (expand (Location.expandRight target "]") (some (onLocation loc)))
  /-- Expansion to the word that opens a case. -/
  relates_expandLeft : ∀ {loc : Location}, Admits loc →
    Relates (fun wider ↦ ∀ loc ∈ wider, Admits loc) (Option.map onLocation)
      (expand (Location.expandLeft source "when ") (some loc))
      (expand (Location.expandLeft target "when ") (some (onLocation loc)))
  /-- Building from built parts. -/
  relates_build : ∀ {loc : Location} {shape : Shape Node}, Admits loc →
    (∀ c ∈ shape.children, c.Built source) →
      Relates (fun _ ↦ True) (Node.mapPlaces onPlace) (Node.build source (some loc) shape)
        (Node.build target (some (onLocation loc)) (shape.map (Node.mapPlaces onPlace)))

namespace Walk

variable {source target : Source} (W : Walk source target)

/-- What becomes of the nodes of the first run. -/
def onNode : Node → Node := Node.mapPlaces W.onPlace

/-- A location that is missing, or one at which nodes are built. -/
def Admissible (location : Option Location) : Prop := ∀ loc ∈ location, W.Admits loc

/-- Both runs give nodes that were made for these visits. -/
abbrev RelatesNodes (visits : List Visit) (c d : Conversion (List Node)) : Prop :=
  W.Relates (MadeFor source W.root visits) (List.map W.onNode) c d

/-- Both runs give a node that was made for these visits, or none if there are no visits. -/
abbrev RelatesOption (visits : List Visit) (c d : Conversion (Option Node)) : Prop :=
  W.Relates (fun o ↦ MadeFor source W.root visits o.toList) (Option.map W.onNode) c d

variable {W}

/-- More is known of what a step gives, once it is known that it does. -/
theorem Relates.mono {α β : Type} {Good Good' : α → Prop} {f : α → β} {c : Conversion α}
    {d : Conversion β} (h : W.Relates Good f c d)
    (hgood : ∀ a, c.result = .ok a → Good a → Good' a) : W.Relates Good' f c d := by
  have hstep := W.relates_bind h fun a ha hgoodA ↦ W.relates_pure (hgood a ha hgoodA)
  rw [Traced.bind_pure, Traced.bind_pure] at hstep
  exact hstep

/-- A node that is always there, as one that may be missing. -/
theorem relates_some {visits : List Visit} {c d : Conversion Node}
    (h : W.Relates (fun n ↦ MadeFor source W.root visits [n]) W.onNode c d) :
    W.RelatesOption visits (do let node ← c; pure (some node))
      (do let node ← d; pure (some node)) :=
  W.relates_bind h fun node _ hnode ↦ W.relates_pure (a := some node) hnode

/-! ### Locations -/

theorem admissible_none : W.Admissible none := fun _ hloc ↦ absurd hloc (by simp)

/-- A hull is made by merging, which stays within the locations where nodes are built. -/
theorem admissible_hull {locations : List (Option Location)}
    (h : ∀ location ∈ locations, W.Admissible location) :
    W.Admissible (Extent.hull locations) :=
  Extent.forall_mem_hull W.admits_merge h

variable (W) in
/-- The hull of the changed locations is the changed hull. -/
theorem hull_map (locations : List (Option Location)) :
    Extent.hull (locations.map (Option.map W.onLocation)) =
      (Extent.hull locations).map W.onLocation := by
  induction locations with
  | nil => rfl
  | cons location rest ih =>
    cases location with
    | none => exact ih
    | some a =>
      rw [List.map_cons, Option.map_some, Extent.hull, ih, Extent.hull]
      cases Extent.hull rest with
      | none => rfl
      | some b =>
        show some ((W.onLocation a).merge (W.onLocation b)) = some (W.onLocation (a.merge b))
        rw [W.onLocation_merge]

/-- The equality of two locations is all that an `unless` is told by, which is where a walk has to
be injective. -/
theorem isUnless_map (statement negation : Option Location) (operator : String) :
    isUnless (statement.map W.onLocation) (negation.map W.onLocation) operator =
      isUnless statement negation operator := by
  have hinj : negation.map W.onLocation = statement.map W.onLocation ↔ negation = statement :=
    (Option.map_injective W.injective).eq_iff
  rw [isUnless, isUnless, Option.isSome_map]
  simp only [hinj]

/-! ### Steps that see the source -/

/-- Expansion, where there is a location. -/
theorem relates_expand {f g : Location → Except AnchorError Location}
    (hstep : ∀ {loc : Location}, W.Admits loc →
      W.Relates W.Admissible (Option.map W.onLocation) (expand f (some loc))
        (expand g (some (W.onLocation loc))))
    {location : Option Location} (hlocation : W.Admissible location) :
    W.Relates W.Admissible (Option.map W.onLocation) (expand f location)
      (expand g (location.map W.onLocation)) := by
  rcases location with _ | loc
  · exact W.relates_pure hlocation
  · exact hstep (hlocation loc rfl)

/-- Building, with a location or without. -/
theorem relates_place {location : Option Location} {shape : Shape Node}
    (hlocation : W.Admissible location) (hparts : ∀ c ∈ shape.children, c.Built source) :
    W.Relates (fun _ ↦ True) W.onNode (Node.build source location shape)
      (Node.build target (location.map W.onLocation) (shape.map W.onNode)) := by
  rcases location with _ | loc
  · have hnode : W.onNode (.mk none shape) = .mk none (shape.map W.onNode) :=
      Node.mapPlaces_mk W.onPlace none shape
    show W.Relates _ _ (pure (Node.mk none shape)) (pure (Node.mk none (shape.map W.onNode)))
    rw [← hnode]
    exact W.relates_pure trivial
  · exact W.relates_build (hlocation loc rfl) hparts

/-- **Building at a site.** The node was made for whatever its parts were made for. -/
theorem relates_site {t : Tree} {location : Option Location} {shape : Shape Node}
    {visits : List Visit} (hreaches : W.root.Reaches t)
    (hsite : Site source t location shape.kind) (hlocation : W.Admissible location)
    (hparts : MadeFor source W.root visits shape.children) :
    W.Relates (fun n ↦ n.shape = shape ∧ MadeFor source W.root visits [n]) W.onNode
      (Node.build source location shape)
      (Node.build target (location.map W.onLocation) (shape.map W.onNode)) := by
  refine (relates_place hlocation hparts.built).mono fun n hn _ ↦ ?_
  have hshape := Node.shape_of_build hn
  refine ⟨hshape, List.forall_mem_singleton.2 (.step hreaches hsite hparts.grown hn), ?_⟩
  intro w hw
  have hkept := hparts.keeps w hw
  rw [← hshape] at hkept
  exact hkept.of_children

end Walk

end CoffeeTree
