import CoffeeTree.Proofs.Walk.Converter

/-!
# Two runs side by side

Two runs of the converter on one tree, on two sources and below two lists of ancestors. They take
the same steps as long as the steps that see the source or the ancestors go alike, and there are few
of them: building a node, expanding a location to the right or to the left, and giving up on a node.
A `Parallel` says for each what the two runs have in common. It is a walk (`Parallel.walk`), so the
whole converter has it in common (`Parallel.expr_runs`, `Parallel.programBody_runs`): both runs
record the same locations, and they give the same result or fail with errors that belong together.

A single run is a run beside itself. So a `Parallel` from a source to itself is an invariant: it
says which locations are recorded and which errors can come up, of runs that fail as well as of runs
that succeed.
-/

namespace CoffeeTree

open CoffeeTree.Convert

/-! ### Results -/

/-- Both results are the same and good, or both are errors that belong together. -/
inductive Agree {ε α : Type} (Good : α → Prop) (Fails : ε → ε → Prop) :
    Except ε α → Except ε α → Prop where
  | ok {a : α} (h : Good a) : Agree Good Fails (.ok a) (.ok a)
  | error {e e' : ε} (h : Fails e e') : Agree Good Fails (.error e) (.error e')

namespace Agree

variable {ε α : Type} {Good Good' : α → Prop} {Fails : ε → ε → Prop} {x y : Except ε α}

/-- A result agrees with itself when it is good, or an error that belongs to itself. -/
theorem refl (hok : ∀ a, x = .ok a → Good a) (herror : ∀ e, x = .error e → Fails e e) :
    Agree Good Fails x x := by
  cases x with
  | ok a => exact .ok (hok a rfl)
  | error e => exact .error (herror e rfl)

/-- A result agrees with itself when nothing is asked of it. -/
theorem self (x : Except ε α) : Agree (fun _ ↦ True) (fun _ _ ↦ True) x x :=
  refl (fun _ _ ↦ trivial) fun _ _ ↦ trivial

/-- An error that agrees with itself belongs to itself. -/
theorem fails (h : Agree Good Fails x x) {e : ε} (hx : x = .error e) : Fails e e := by
  subst hx
  cases h with
  | error he => exact he

theorem imp (h : Agree Good Fails x y) (hgood : ∀ a, Good a → Good' a) :
    Agree Good' Fails x y := by
  rcases h with ha | he
  · exact .ok (hgood _ ha)
  · exact .error he

/-- If errors belong together only when they are equal, then so are the results. -/
theorem eq (h : Agree Good Fails x y) (heq : ∀ e e', Fails e e' → e = e') : x = y := by
  cases h with
  | ok _ => rfl
  | error he => rw [heq _ _ he]

/-- A success on one side is the same success on the other. -/
theorem of_ok (h : Agree Good Fails x y) {a : α} (hx : x = .ok a) : Good a ∧ y = .ok a := by
  subst hx
  cases h with
  | ok ha => exact ⟨ha, rfl⟩

/-- An error on one side comes with one on the other. -/
theorem of_error (h : Agree Good Fails x y) {e : ε} (hx : x = .error e) :
    ∃ e', y = .error e' ∧ Fails e e' := by
  subst hx
  cases h with
  | error he => exact ⟨_, rfl, he⟩

end Agree

/-- Both conversions record the same locations, and their results agree. -/
structure Alongside {α : Type} (Records : Location → Prop)
    (Fails : ConversionError → ConversionError → Prop) (Good : α → Prop) (c d : Conversion α) :
    Prop where
  events_eq : c.events = d.events
  records : ∀ loc ∈ c.events, Records loc
  results : Agree Good Fails c.result d.result

theorem Alongside.imp {α : Type} {Records : Location → Prop}
    {Fails : ConversionError → ConversionError → Prop} {Good Good' : α → Prop}
    {c d : Conversion α} (h : Alongside Records Fails Good c d) (hgood : ∀ a, Good a → Good' a) :
    Alongside Records Fails Good' c d :=
  ⟨h.events_eq, h.records, h.results.imp hgood⟩

/-! ### What two runs have in common -/

/-- How two runs of the converter go alike. -/
structure Parallel (source target : Source) where
  /-- The node is met below the first ancestors in one run, and below the second ones in the
  other. -/
  Stands : List String → List String → Tree → Prop
  /-- The locations at which nodes are built. -/
  Admits : Location → Prop
  /-- The locations that are recorded. -/
  Records : Location → Prop
  /-- The errors with which both runs end. -/
  Fails : ConversionError → ConversionError → Prop
  stands_child : ∀ {ancestors ancestors' : List String} {t c : Tree},
    Stands ancestors ancestors' t → c ∈ t.children →
      Stands (ancestors ++ [t.typeName]) (ancestors' ++ [t.typeName]) c
  admits_of_stands : ∀ {ancestors ancestors' : List String} {t : Tree},
    Stands ancestors ancestors' t → ∀ loc ∈ t.location, Admits loc
  admits_merge : ∀ {a b : Location}, Admits a → Admits b → Admits (a.merge b)
  /-- Giving up on a node. -/
  unrecognized : ∀ {ancestors ancestors' : List String} {t : Tree} (cause : Cause),
    Stands ancestors ancestors' t →
      Fails (.unrecognized ⟨t, ancestors, cause⟩) (.unrecognized ⟨t, ancestors', cause⟩)
  /-- Expansion to the bracket that closes an index. -/
  expandRight : ∀ {loc : Location}, Admits loc →
    Agree Admits (fun e e' ↦ Fails (.ofAnchor e) (.ofAnchor e'))
      (Location.expandRight source "]" loc) (Location.expandRight target "]" loc)
  /-- Expansion to the word that opens a case. -/
  expandLeft : ∀ {loc : Location}, Admits loc →
    Agree Admits (fun e e' ↦ Fails (.ofAnchor e) (.ofAnchor e'))
      (Location.expandLeft source "when " loc) (Location.expandLeft target "when " loc)
  /-- Building from built parts. -/
  build : ∀ {loc : Location} {shape : Shape Node}, Admits loc →
    (∀ c ∈ shape.children, c.Built source) →
      Alongside Records Fails (fun _ ↦ True) (Node.build source (some loc) shape)
        (Node.build target (some loc) shape)

namespace Parallel

variable {source target : Source} (P : Parallel source target)

/-! ### Steps that go alike -/

/-- Two conversions go alike: they record the same locations, the second one gives the image of what
the first one gives, and they fail together. -/
structure Runs {α β : Type} (Good : α → Prop) (f : α → β) (c : Conversion α) (d : Conversion β) :
    Prop where
  events_eq : c.events = d.events
  records : ∀ loc ∈ c.events, P.Records loc
  of_ok : ∀ a, c.result = .ok a → Good a ∧ d.result = .ok (f a)
  of_error : ∀ e, c.result = .error e → ∃ e', d.result = .error e' ∧ P.Fails e e'

variable {P}

theorem Runs.of_pure {α β : Type} {Good : α → Prop} {f : α → β} {a : α} (h : Good a) :
    P.Runs Good f (pure a) (pure (f a)) where
  events_eq := rfl
  records _ hloc := absurd hloc List.not_mem_nil
  of_ok b hb := by
    obtain rfl : a = b := Except.ok.inj hb
    exact ⟨h, rfl⟩
  of_error e he := absurd he (by simp)

/-- Two steps that fail at once. -/
theorem Runs.of_fail {α β : Type} {Good : α → Prop} {f : α → β} {e e' : ConversionError}
    (h : P.Fails e e') : P.Runs Good f (.fail e) (.fail e') where
  events_eq := rfl
  records _ hloc := absurd hloc List.not_mem_nil
  of_ok a ha := absurd ha (by simp [Traced.fail])
  of_error found hfound := ⟨e', rfl, Except.error.inj hfound ▸ h⟩

/-- **Sequences go alike when their steps do.** -/
theorem Runs.bind {α β γ δ : Type} {Good : α → Prop} {f : α → β} {Good' : γ → Prop} {g : γ → δ}
    {c : Conversion α} {d : Conversion β} {next : α → Conversion γ} {next' : β → Conversion δ}
    (h : P.Runs Good f c d)
    (hnext : ∀ a, c.result = .ok a → Good a → P.Runs Good' g (next a) (next' (f a))) :
    P.Runs Good' g (c >>= next) (d >>= next') := by
  obtain ⟨events, result⟩ := c
  obtain ⟨events', result'⟩ := d
  obtain ⟨hevents, hrecords, hok, herror⟩ := h
  rcases result with e | a
  · obtain ⟨e', he', hfails⟩ := herror e rfl
    obtain rfl : result' = .error e' := he'
    refine ⟨hevents, hrecords, fun a ha ↦ absurd ha (by simp [Traced.bind_def, Traced.andThen]), ?_⟩
    exact fun found hfound ↦ ⟨e', rfl, Except.error.inj hfound ▸ hfails⟩
  · -- The second run goes on from the image of the value.
    obtain ⟨hgood, hb⟩ := hok a rfl
    obtain rfl : result' = .ok (f a) := hb
    obtain ⟨hevents', hrecords', hok', herror'⟩ := hnext a rfl hgood
    refine ⟨congrArg₂ (· ++ ·) hevents hevents', fun loc hloc ↦ ?_, hok', herror'⟩
    rcases List.mem_append.1 hloc with hloc | hloc
    · exact hrecords loc hloc
    · exact hrecords' loc hloc

/-- Expansions that agree go alike. -/
theorem Runs.of_expand {f g : Location → Except AnchorError Location} {loc : Location}
    (h : Agree P.Admits (fun e e' ↦ P.Fails (.ofAnchor e) (.ofAnchor e')) (f loc) (g loc)) :
    P.Runs (fun wider ↦ ∀ loc ∈ wider, P.Admits loc) (Option.map id) (expand f (some loc))
      (expand g (some loc)) := by
  rw [expand, expand]
  generalize f loc = wider at h ⊢
  generalize g loc = wider' at h ⊢
  rcases h with hadmits | herror
  · exact .of_pure (a := some _) fun _ hloc ↦ Option.some.inj hloc ▸ hadmits
  · exact .of_fail herror

/-- Conversions that go alongside go alike. -/
theorem Runs.of_alongside {α : Type} {Good : α → Prop} {f : α → α} (hf : ∀ a, f a = a)
    {c d : Conversion α} (h : Alongside P.Records P.Fails Good c d) : P.Runs Good f c d where
  events_eq := h.events_eq
  records := h.records
  of_ok a ha := by
    obtain ⟨hgood, hd⟩ := h.results.of_ok ha
    exact ⟨hgood, hd.trans (congrArg _ (hf a).symm)⟩
  of_error _ he := h.results.of_error he

/-- And they go alongside if the results are not changed. -/
theorem Runs.alongside {α : Type} {Good : α → Prop} {f : α → α} (hf : ∀ a, f a = a)
    {c d : Conversion α} (h : P.Runs Good f c d) : Alongside P.Records P.Fails Good c d := by
  refine ⟨h.events_eq, h.records, ?_⟩
  rcases hc : c.result with e | a
  · obtain ⟨e', he', hfails⟩ := h.of_error e hc
    rw [he']
    exact .error hfails
  · obtain ⟨hgood, hd⟩ := h.of_ok a hc
    rw [hd, hf]
    exact .ok hgood

/-! ### The whole converter -/

variable (P) in
/-- **Runs that go alike are a walk**, on which nothing is changed. -/
def walk (root : Tree) : Walk source target where
  root := root
  onLocation := id
  onPlace := id
  Stands ancestors ancestors' t := root.Reaches t ∧ P.Stands ancestors ancestors' t
  Visits _ := True
  Admits := P.Admits
  Relates := P.Runs
  injective := Function.injective_id
  onLocation_merge := Location.id_merge
  reaches_of_stands h := h.1
  admits_of_stands h := P.admits_of_stands h.2
  stands_child h hc := ⟨h.1.tail hc, P.stands_child h.2 hc⟩
  visits_next _ _ := trivial
  visits_plain _ _ := trivial
  admits_merge := P.admits_merge
  relates_pure h := .of_pure h
  relates_bind h hnext := h.bind hnext
  relates_unrecognized {_ _ _ _ _ _ _ cause} h _ _ := by
    rw [Tree.relocate_id]
    exact .of_fail (P.unrecognized cause h.2)
  relates_expandRight h := .of_expand (P.expandRight h)
  relates_expandLeft h := .of_expand (P.expandLeft h)
  relates_build h hparts := by
    rw [Shape.map_mapPlaces_id]
    exact .of_alongside Node.mapPlaces_id (P.build h hparts)

variable {ancestors ancestors' : List String} {t : Tree}

/-- Every node that the two runs meet is ready on that walk. -/
theorem walk_ready (h : P.Stands ancestors ancestors' t) (role : Tree.Role) :
    (P.walk t).Ready ancestors ancestors' ⟨role, t⟩ :=
  have hstands : (P.walk t).Stands ancestors ancestors' t := ⟨.refl t, h⟩
  Walk.ready hstands trivial

/-- **The conversions of an expression go alike**, wherever the two runs meet it. -/
theorem expr_runs (h : P.Stands ancestors ancestors' t) :
    Alongside P.Records P.Fails (Node.Built source) (expr source ancestors t)
      (expr target ancestors' t) := by
  have hruns : P.Runs _ (Node.mapPlaces id) (expr source ancestors t)
      (expr target ancestors' (t.relocate id)) := (walk_ready h .expression).expr_walks
  rw [Tree.relocate_id] at hruns
  refine (hruns.alongside Node.mapPlaces_id).imp fun n hn ↦ ?_
  exact hn.built n List.mem_cons_self

/-- So do the conversions of a branch. -/
theorem node?_runs (h : P.Stands ancestors ancestors' t) :
    Alongside P.Records P.Fails (fun o ↦ ∀ n ∈ o, n.Built source) (node? source ancestors t)
      (node? target ancestors' t) := by
  have hruns : P.Runs _ (Option.map (Node.mapPlaces id)) (node? source ancestors t)
      (node? target ancestors' (t.relocate id)) := Walk.node?_walks (walk_ready h .branch)
  have hid : ∀ o : Option Node, o.map (Node.mapPlaces id) = o := by
    rintro (_ | n)
    · rfl
    · exact congrArg some (Node.mapPlaces_id n)
  rw [Tree.relocate_id] at hruns
  exact (hruns.alongside hid).imp fun o ho n hn ↦ ho.built n (Option.mem_toList.2 hn)

/-- **The bodies of programs go alike**, if their statements are met below the root. -/
theorem programBody_runs_of_expressions {root : Tree.Block Tree}
    (hlocation : ∀ loc ∈ root.location, P.Admits loc)
    (h : ∀ t ∈ root.expressions, P.Stands ["Block"] ["Block"] t) :
    Alongside P.Records P.Fails (Node.Built source) (programBody source root)
      (programBody target root) := by
  have hstands : ∀ t ∈ root.expressions, (P.walk (.block root)).Stands ["Block"] ["Block"] t :=
    fun t ht ↦ ⟨.head (show t ∈ (Tree.block root).children from ht) (.refl t), h t ht⟩
  have hruns : P.Runs _ (Node.mapPlaces id) (programBody source root)
      (programBody target (Tree.relocateBlock id root)) :=
    (P.walk (.block root)).programBody_walks (.refl _) hlocation hstands trivial
  rw [Tree.relocateBlock_id] at hruns
  refine (hruns.alongside Node.mapPlaces_id).imp fun n hn ↦ ?_
  exact hn.built n List.mem_cons_self

/-- The root itself has no ancestors. -/
theorem programBody_runs {root : Tree.Block Tree} (h : P.Stands [] [] (.block root)) :
    Alongside P.Records P.Fails (Node.Built source) (programBody source root)
      (programBody target root) :=
  programBody_runs_of_expressions (P.admits_of_stands h) fun _ ht ↦ P.stands_child h ht

end Parallel

end CoffeeTree
