import CoffeeTree.Proofs.Walk.Converter

/-!
# Simulations between sources

The converter sees its source in three places only: where it builds a node, and where it expands a
location to the right or to the left. A *simulation* from one source to another says that each of
these three steps carries over, with every location and every place changed in a given way; then
the whole converter carries over (`Simulation.programBody_follows`). Whatever it makes of a tree on
the first source, it makes the changed result of the relocated tree on the second one, and it
records the changed locations.

The statement is about runs that succeed. `Follows` is the relation between two runs, and a
simulation is a walk with this relation (`Simulation.walk`). Every node that comes up on the way is
built, so the step that builds a node may count on its parts.

A simulation may restrict the locations that it is about (`Admits`) and the runs that it follows, by
the locations that they clamp (`Allows`).
-/

namespace CoffeeTree

open CoffeeTree.Convert

/-- How the conversion on one source carries over to another one. -/
structure Simulation (source target : Source) where
  /-- What becomes of the locations of a tree. -/
  onLocation : Location → Location
  /-- What becomes of the places of nodes. -/
  onPlace : Place → Place
  /-- The locations that the simulation is about. -/
  Admits : Location → Prop
  /-- The locations that a run may clamp. -/
  Allows : Location → Prop
  injective : Function.Injective onLocation
  admits_merge : ∀ {a b : Location}, Admits a → Admits b → Admits (a.merge b)
  onLocation_merge : ∀ a b : Location,
    onLocation (a.merge b) = (onLocation a).merge (onLocation b)
  /-- Expansion to the bracket that closes an index. -/
  expandRight : ∀ {loc wider : Location}, Admits loc →
    Location.expandRight source "]" loc = .ok wider →
      Admits wider ∧ Location.expandRight target "]" (onLocation loc) = .ok (onLocation wider)
  /-- Expansion to the word that opens a case. -/
  expandLeft : ∀ {loc wider : Location}, Admits loc →
    Location.expandLeft source "when " loc = .ok wider →
      Admits wider ∧ Location.expandLeft target "when " (onLocation loc) = .ok (onLocation wider)
  /-- Building from built parts. -/
  build : ∀ {loc : Location} {shape : Shape Node} {node : Node}, Admits loc →
    (∀ c ∈ shape.children, c.Built source) →
    (Node.build source (some loc) shape).result = .ok node →
    (∀ e ∈ (Node.build source (some loc) shape).events, Allows e) →
      Node.build target (some (onLocation loc)) (shape.map (Node.mapPlaces onPlace)) =
        ⟨(Node.build source (some loc) shape).events.map onLocation,
          .ok (node.mapPlaces onPlace)⟩

namespace Simulation

variable {source target : Source} (S : Simulation source target)

/-- What becomes of nodes. -/
def onNode : Node → Node := Node.mapPlaces S.onPlace

/-- Every location of a tree is one that the simulation is about. -/
def AdmitsTree (t : Tree) : Prop := ∀ u, t.Reaches u → ∀ loc ∈ u.location, S.Admits loc

/-! ### Runs that follow each other -/

/-- Whatever the first run gives, it is good, and the second run gives its image under `f`. The
second run records what the first one does, with the locations changed. -/
def Follows {α β : Type} (Good : α → Prop) (f : α → β) (c : Conversion α) (d : Conversion β) :
    Prop :=
  ∀ a, c.result = .ok a → (∀ loc ∈ c.events, S.Allows loc) →
    Good a ∧ d.result = .ok (f a) ∧ d.events = c.events.map S.onLocation

variable {S}

theorem Follows.of_pure {α β : Type} {Good : α → Prop} {f : α → β} {a : α} (h : Good a) :
    S.Follows Good f (pure a) (pure (f a)) := by
  intro b hb _
  obtain rfl : a = b := Except.ok.inj hb
  exact ⟨h, rfl, rfl⟩

/-- A run that fails is followed by every other one. -/
theorem Follows.of_error {α β : Type} {Good : α → Prop} {f : α → β} {c : Conversion α}
    {d : Conversion β} {e : ConversionError} (h : c.result = .error e) :
    S.Follows Good f c d := by
  intro a ha _
  rw [h] at ha
  exact absurd ha (by simp)

/-- **Sequences follow each other when their steps do.** -/
theorem Follows.bind {α β γ δ : Type} {Good : α → Prop} {f : α → β} {Good' : γ → Prop}
    {g : γ → δ} {c : Conversion α} {d : Conversion β} {next : α → Conversion γ}
    {next' : β → Conversion δ} (h : S.Follows Good f c d)
    (hnext : ∀ a, c.result = .ok a → Good a → S.Follows Good' g (next a) (next' (f a))) :
    S.Follows Good' g (c >>= next) (d >>= next') := by
  intro b hb hallowed
  -- Both halves of a run that may be followed may be followed.
  obtain ⟨a, ha, hb⟩ := Traced.result_bind_eq_ok.1 hb
  rw [Traced.events_bind_of_ok ha] at hallowed
  obtain ⟨hgood, hd, hevents⟩ := h a ha fun loc hloc ↦
    hallowed loc (List.mem_append_left _ hloc)
  obtain ⟨hgood', hd', hevents'⟩ := hnext a ha hgood b hb fun loc hloc ↦
    hallowed loc (List.mem_append_right _ hloc)
  refine ⟨hgood', Traced.result_bind_eq_ok.2 ⟨f a, hd, hd'⟩, ?_⟩
  rw [Traced.events_bind_of_ok hd, Traced.events_bind_of_ok ha, hevents, hevents',
    List.map_append]

/-- An expansion that succeeds carries over. -/
theorem expand_follows {f g : Location → Except AnchorError Location} {loc : Location}
    (hstep : ∀ {wider : Location}, f loc = .ok wider →
      S.Admits wider ∧ g (S.onLocation loc) = .ok (S.onLocation wider)) :
    S.Follows (fun wider ↦ ∀ loc ∈ wider, S.Admits loc) (Option.map S.onLocation)
      (expand f (some loc)) (expand g (some (S.onLocation loc))) := by
  cases hwider : f loc with
  | error e =>
    refine .of_error (e := .ofAnchor e) ?_
    rw [expand, hwider]
    rfl
  | ok wider =>
    obtain ⟨hadmits, htarget⟩ := hstep hwider
    rw [expand, hwider, expand, htarget]
    exact .of_pure (a := some wider) fun _ hloc ↦ Option.some.inj hloc ▸ hadmits

/-- So does a step that builds. -/
theorem build_follows {loc : Location} {shape : Shape Node} (hloc : S.Admits loc)
    (hparts : ∀ c ∈ shape.children, c.Built source) :
    S.Follows (fun _ ↦ True) (Node.mapPlaces S.onPlace) (Node.build source (some loc) shape)
      (Node.build target (some (S.onLocation loc)) (shape.map (Node.mapPlaces S.onPlace))) := by
  intro node hnode hallowed
  rw [S.build hloc hparts hnode hallowed]
  exact ⟨trivial, rfl, rfl⟩

/-! ### The whole converter -/

variable (S) in
/-- **A simulation is a walk.** Giving up on a node is no success, so nothing is asked of the
ancestors. -/
def walk (root : Tree) : Walk source target where
  root := root
  onLocation := S.onLocation
  onPlace := S.onPlace
  Stands _ _ t := root.Reaches t ∧ S.AdmitsTree t
  Visits _ := True
  Admits := S.Admits
  Relates := S.Follows
  injective := S.injective
  onLocation_merge := S.onLocation_merge
  reaches_of_stands h := h.1
  admits_of_stands h := h.2 _ (.refl _)
  stands_child h hc := ⟨h.1.tail hc, fun u hu ↦ h.2 u (.head hc hu)⟩
  visits_next _ _ := trivial
  visits_plain _ _ := trivial
  admits_merge := S.admits_merge
  relates_pure h := .of_pure h
  relates_bind h hnext := h.bind hnext
  relates_unrecognized _ _ _ := .of_error rfl
  relates_expandRight h := expand_follows (S.expandRight h)
  relates_expandLeft h := expand_follows (S.expandLeft h)
  relates_build := build_follows

/-- **The converter carries over.** Whatever it makes of the body of a program on the source, it
makes the changed result of the relocated body on the target. -/
theorem programBody_follows {root : Tree.Block Tree} (h : S.AdmitsTree (.block root)) :
    S.Follows (Node.Built source) S.onNode (programBody source root)
      (programBody target (Tree.relocateBlock S.onLocation root)) := by
  have hstands : ∀ t ∈ root.expressions,
      (S.walk (.block root)).Stands ["Block"] ["Block"] t := by
    intro t ht
    have hc : t ∈ (Tree.block root).children := ht
    exact ⟨.head hc (.refl t), fun u hu ↦ h u (.head hc hu)⟩
  have hwalks : S.Follows _ S.onNode _ _ :=
    (S.walk (.block root)).programBody_walks (.refl _) (h _ (.refl _)) hstands trivial
  intro body hbody hallowed
  obtain ⟨hmade, hsame⟩ := hwalks body hbody hallowed
  exact ⟨hmade.built body List.mem_cons_self, hsame⟩

end Simulation

end CoffeeTree
