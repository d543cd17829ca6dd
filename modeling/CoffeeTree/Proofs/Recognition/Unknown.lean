import CoffeeTree.Proofs.Recognition.Converter

/-!
# Unknown nodes that vanish

A node of an unknown type has no counterpart, so a tree that holds one should not convert. Of a
block in parentheses only the first expression counts, and what stands behind it is passed over; all
other nodes of a tree are *held* by it (`Tree.Holds`).

One place is forgotten. An object in the body of a class gives its members, and the accesses that
follow the object are not looked at, where every other value has its accesses folded or refused. An
unknown node among them is held by the tree and vanishes from the program
(`not_forall_holds_ne_unknown`).

There is no other such place. A tree holds a node *openly* if the way to it does not lead through an
access of that kind (`Tree.HoldsOpenly`); a tree that was converted holds no unknown node openly, so
the unknown nodes that it holds are in such accesses (`program_unknown`).

The proof goes through recognition. What is held openly is visited, apart from the names in
accesses, which are literals; and no role accepts an unknown node.
-/

namespace CoffeeTree

namespace Tree

/-! ### Held nodes -/

/-- The children of a node, apart from those that are passed over: of a block in parentheses only
the first expression counts. -/
@[simp] def counted : Tree → List Tree
  | parens _ (block b) => b.expressions.head?.toList
  | t => t.children

/-- The second node is the first one or stands somewhere below it, not passed over. -/
def Holds : Tree → Tree → Prop := Relation.ReflTransGen fun t u ↦ u ∈ t.counted

theorem Holds.refl (t : Tree) : t.Holds t := Relation.ReflTransGen.refl

theorem Holds.head {t c u : Tree} (hc : c ∈ t.counted) (h : c.Holds u) : t.Holds u :=
  Relation.ReflTransGen.head hc h

/-- A node that is another one than the held node holds it below. -/
theorem Holds.exists_counted {t u : Tree} (h : t.Holds u) (hne : t ≠ u) :
    ∃ c ∈ t.counted, c.Holds u :=
  (Relation.ReflTransGen.cases_head h).resolve_left hne

/-- What stands openly in a statement of a class: the members of an object, or the statement. -/
def members (t : Tree) : List Tree := (Convert.classObject? t).getD [t]

/-- What a node counts openly. Of the body of a class this leaves out the accesses to objects; the
body itself, its objects and the values that hold them are stepped over. -/
def countedOpenly : Tree → List Tree
  | classNode _ name parent body =>
    name.toList ++ parent.toList ++ body.toList.flatMap fun b ↦ b.expressions.flatMap members
  | t => t.counted

/-- The second node is held by the first one along nodes that are counted openly. -/
def HoldsOpenly : Tree → Tree → Prop := Relation.ReflTransGen fun t u ↦ u ∈ t.countedOpenly

theorem HoldsOpenly.refl (t : Tree) : t.HoldsOpenly t := Relation.ReflTransGen.refl

theorem HoldsOpenly.head {t c u : Tree} (hc : c ∈ t.countedOpenly) (h : c.HoldsOpenly u) :
    t.HoldsOpenly u :=
  Relation.ReflTransGen.head hc h

/-- Somewhere in the first node there is a class, in its body an object stands as a statement, and
the second node is held by an access that follows the object. -/
def HoldsInObjectAccess (t u : Tree) : Prop :=
  ∃ location name parent body, t.Holds (classNode location name parent (some body)) ∧
    ∃ outer inner properties accesses,
      value outer (obj inner properties) accesses ∈ body.expressions ∧
        ∃ a ∈ accesses, a.Holds u

/-- The way to the class may be longer. -/
theorem HoldsInObjectAccess.head {t c u : Tree} (hc : c ∈ t.counted)
    (h : c.HoldsInObjectAccess u) : t.HoldsInObjectAccess u := by
  obtain ⟨location, name, parent, body, hclass, hobject⟩ := h
  exact ⟨location, name, parent, body, .head hc hclass, hobject⟩

/-! ### Openly, or in an access to an object -/

section Ways

variable {own : Option Location} {type : String} {payload : Json.Entries}

variable (own type payload) in
/-- The unknown node is held openly or in an access to an object. -/
def HoldsEither (t : Tree) : Prop :=
  t.Holds (unknown own type payload) →
    t.HoldsOpenly (unknown own type payload) ∨ t.HoldsInObjectAccess (unknown own type payload)

/-- What is counted stands below, one level or two. -/
theorem reaches_of_mem_counted {t c : Tree} (h : c ∈ t.counted) :
    ∃ d ∈ t.children, d.Reaches c := by
  cases t with
  | parens location body =>
    cases body with
    | block b =>
      have hc : c ∈ b.expressions := List.mem_of_mem_head? (Option.mem_toList.1 h)
      exact ⟨block b, List.mem_singleton_self _, .head hc (.refl c)⟩
    | _ => exact ⟨c, h, .refl c⟩
  | _ => exact ⟨c, h, .refl c⟩

/-- Only classes have something to hide. -/
theorem countedOpenly_of_not_class {t : Tree}
    (hclass : ∀ location name parent body, t ≠ classNode location name parent body) :
    t.countedOpenly = t.counted := by
  cases t with
  | classNode location name parent body => exact absurd rfl (hclass location name parent body)
  | _ => rfl

/-- A statement of a class holds the unknown node in one of its members, or in an access to the
object that it is. -/
theorem statement_holds {t : Tree} (h : t.Holds (unknown own type payload)) :
    (∃ p ∈ t.members, t.Reaches p ∧ p.Holds (unknown own type payload) ∧
      (p.HoldsInObjectAccess (unknown own type payload) →
        t.HoldsInObjectAccess (unknown own type payload))) ∨
      ∃ outer inner properties accesses, t = value outer (obj inner properties) accesses ∧
        ∃ a ∈ accesses, a.Holds (unknown own type payload) := by
  cases hobject : Convert.classObject? t with
  | none =>
    have hself : t ∈ t.members := by
      rw [members, hobject]
      exact List.mem_singleton_self t
    exact .inl ⟨t, hself, .refl t, h, id⟩
  | some properties =>
    obtain ⟨outer, inner, accesses, rfl⟩ := Convert.exists_of_classObject? hobject
    obtain ⟨c, hc, hcu⟩ := h.exists_counted nofun
    rcases List.mem_cons.1 hc with rfl | ha
    · obtain ⟨p, hp, hpu⟩ := hcu.exists_counted nofun
      exact .inl ⟨p, hp, .head List.mem_cons_self (.head hp (.refl p)), hpu,
        fun hin ↦ (hin.head hp).head List.mem_cons_self⟩
    · exact .inr ⟨outer, inner, properties, accesses, rfl, c, ha, hcu⟩

/-- In a class: the name and the parent are counted openly, and so are the statements up to the
accesses to objects. -/
theorem holdsEither_classNode {location : Option Location} {name parent : Option Tree}
    {body : Option (Block Tree)}
    (ih : ∀ c ∈ (classNode location name parent body).children, ∀ u, c.Reaches u →
      u.HoldsEither own type payload) :
    (classNode location name parent body).HoldsEither own type payload := by
  intro h
  obtain ⟨c, hc, hcu⟩ := h.exists_counted nofun
  rcases List.mem_append.1 hc with hhead | hbody
  · rcases ih c hc c (.refl c) hcu with hopen | hin
    · exact .inl (.head (List.mem_append_left _ hhead) hopen)
    · exact .inr (hin.head hc)
  · obtain ⟨b, rfl, rfl⟩ := Option.map_eq_some_iff.1 (Option.mem_toList.1 hbody)
    obtain ⟨e, he, heu⟩ := hcu.exists_counted nofun
    -- In the body it matters whether the node is in a member or in an access to an object.
    rcases statement_holds heu with ⟨p, hp, hreaches, hpu, hlift⟩ | hobject
    · rcases ih (block b) hc p (.head he hreaches) hpu with hopen | hin
      · have hp' : p ∈ b.expressions.flatMap members := List.mem_flatMap.2 ⟨e, he, hp⟩
        have hp'' : p ∈ (some b).toList.flatMap fun b ↦ b.expressions.flatMap members :=
          List.mem_flatMap.2 ⟨b, List.mem_singleton_self b, hp'⟩
        exact .inl (.head (List.mem_append_right _ hp'') hopen)
      · exact .inr (((hlift hin).head he).head hc)
    · obtain ⟨outer, inner, properties, accesses, rfl, haccess⟩ := hobject
      exact .inr
        ⟨location, name, parent, b, .refl _, outer, inner, properties, accesses, he, haccess⟩

/-- One step of the induction. All other nodes count openly what they count. -/
theorem holdsEither_of_children {t : Tree}
    (ih : ∀ c ∈ t.children, ∀ u, c.Reaches u → u.HoldsEither own type payload) :
    t.HoldsEither own type payload := by
  by_cases hclass : ∃ location name parent body, t = classNode location name parent body
  · obtain ⟨location, name, parent, body, rfl⟩ := hclass
    exact holdsEither_classNode ih
  · intro h
    by_cases hself : t = unknown own type payload
    · exact .inl (hself ▸ .refl t)
    · obtain ⟨c, hc, hcu⟩ := h.exists_counted hself
      obtain ⟨d, hd, hdc⟩ := reaches_of_mem_counted hc
      have hopenly : c ∈ t.countedOpenly := by
        rw [countedOpenly_of_not_class fun location name parent body ht ↦
          hclass ⟨location, name, parent, body, ht⟩]
        exact hc
      rcases ih d hd c hdc hcu with hopen | hin
      · exact .inl (.head hopenly hopen)
      · exact .inr (hin.head hc)

/-- **An unknown node is held openly or in an access to an object.** There is no third way. -/
theorem holdsEither (t : Tree) : t.HoldsEither own type payload := by
  have hall : ∀ u, t.Reaches u → u.HoldsEither own type payload := by
    induction t using Tree.induction_children with
    | hstep t ih => exact forall_reaches_iff.2 ⟨holdsEither_of_children ih, ih⟩
  exact hall t (.refl t)

end Ways

/-! ### Openly held nodes are visited -/

/-- **The nodes that a node counts are visited from it**, in the same order, unless it is an access
or a class. -/
theorem map_node_visits {t : Tree} (haccess : ∀ location name, t ≠ access location name)
    (hclass : ∀ location name parent body, t ≠ classNode location name parent body) :
    t.visits.map (·.node) = t.counted := by
  cases t with
  | access location name => exact absurd rfl (haccess location name)
  | classNode location name parent body => exact absurd rfl (hclass location name parent body)
  | parens location body => cases body <;> simp [children, Function.comp_def]
  | code location params body bound => cases body <;> simp [children, Function.comp_def]
  | switch location subject cases otherwise =>
    cases otherwise <;> simp [children, Function.comp_def, List.map_flatMap]
  | _ => simp [children, Function.comp_def]

/-- Only the body of a class has statements of its own kind. -/
theorem role_ne_statement {t : Tree}
    (hclass : ∀ location name parent body, t ≠ classNode location name parent body) {w : Visit}
    (hw : w ∈ t.visits) : w.role ≠ .statement := by
  cases t with
  | classNode location name parent body => exact absurd rfl (hclass location name parent body)
  | parens location body => cases body <;> grind [visits]
  | _ => grind [visits]

/-- The node is not unknown and every visit from it is accepted, whatever its own role. -/
structure Followed (t : Tree) : Prop where
  ne_unknown : ∀ location type payload, t ≠ unknown location type payload
  visits_recognized : ∀ w ∈ t.visits, w.Recognized

/-- The name in an access is visited by nobody, but it is a literal. -/
theorem followed_literal (l : Literal) : Followed (literal l) :=
  ⟨nofun, nofun⟩

/-- No role accepts an unknown node. -/
theorem Visit.Recognized.followed {v : Visit} (h : v.Recognized) (hrole : v.role ≠ .statement) :
    v.node.Followed := by
  obtain ⟨role, t⟩ := v
  obtain ⟨haccepts, hnext⟩ := Visit.recognized_iff.1 h
  constructor
  · rintro location type payload rfl
    cases role <;> exact absurd haccepts Bool.false_ne_true
  · cases role with
    | statement => exact absurd rfl hrole
    | _ => exact hnext

/-- The members of an object are visited in a role of their own. -/
theorem followed_of_mem_members {t p : Tree} (h : Visit.Recognized ⟨.statement, t⟩)
    (hp : p ∈ t.members) : p.Followed := by
  cases hobject : Convert.classObject? t with
  | none =>
    rw [members, hobject] at hp
    obtain rfl : p = t := List.mem_singleton.1 hp
    exact ((recognized_statement hobject).1 h).followed nofun
  | some properties =>
    rw [members, hobject] at hp
    exact ((recognized_object hobject).1 h p hp).followed nofun

/-- One step: what is counted openly is followed. -/
theorem Followed.of_mem_countedOpenly {t c : Tree} (h : t.Followed) (hc : c ∈ t.countedOpenly) :
    c.Followed := by
  by_cases hclass : ∃ location name parent body, t = classNode location name parent body
  · obtain ⟨location, name, parent, body, rfl⟩ := hclass
    obtain ⟨hname, hparent, hbody⟩ :=
      isExpression_classNode.1 (isExpression_iff.2 ⟨rfl, h.visits_recognized⟩)
    rcases List.mem_append.1 hc with hc | hc
    · rcases List.mem_append.1 hc with hc | hc
      · exact (hname c (Option.mem_toList.1 hc)).followed nofun
      · exact (hparent c (Option.mem_toList.1 hc)).followed nofun
    · obtain ⟨b, hb, hc⟩ := List.mem_flatMap.1 hc
      obtain ⟨e, he, hc⟩ := List.mem_flatMap.1 hc
      exact followed_of_mem_members (hbody b (Option.mem_toList.1 hb) e he) hc
  · have hother : ∀ location name parent body, t ≠ classNode location name parent body :=
      fun location name parent body ht ↦ hclass ⟨location, name, parent, body, ht⟩
    rw [countedOpenly_of_not_class hother] at hc
    -- The name in an access is counted and not visited.
    by_cases haccess : ∃ location name, t = access location name
    · obtain ⟨location, name, rfl⟩ := haccess
      rw [List.mem_singleton.1 hc]
      exact followed_literal name
    · have hnodes := map_node_visits (fun location name ht ↦ haccess ⟨location, name, ht⟩) hother
      rw [← hnodes] at hc
      obtain ⟨w, hw, rfl⟩ := List.mem_map.1 hc
      exact (h.visits_recognized w hw).followed (role_ne_statement hother hw)

/-- All the way: what is held openly is followed. -/
theorem Followed.of_holdsOpenly {t u : Tree} (h : t.Followed) (hu : t.HoldsOpenly u) :
    u.Followed := by
  induction hu with
  | refl => exact h
  | tail _ hstep ih => exact ih.of_mem_countedOpenly hstep

end Tree

/-! ### Whole programs -/

namespace Convert

/-- **Where unknown nodes vanish.** A tree that was converted on a source that is not empty holds no
unknown node openly. If it holds one, then in an access to an object in the body of a class. -/
theorem program_unknown {source : Source} (hsource : source.text ≠ []) {root : Tree.Block Tree}
    {node : Node} (hok : (program source root).result = .ok node) (location : Option Location)
    (type : String) (payload : Json.Entries) :
    ¬ (Tree.block root).HoldsOpenly (.unknown location type payload) ∧
      ((Tree.block root).Holds (.unknown location type payload) →
        (Tree.block root).HoldsInObjectAccess (.unknown location type payload)) := by
  have hrecognized : Tree.Recognized root := (Becomes.program hsource hok).recognized
  have hroot : (Tree.block root).Followed := hrecognized.followed nofun
  have hopenly : ¬ (Tree.block root).HoldsOpenly (.unknown location type payload) :=
    fun h ↦ (hroot.of_holdsOpenly h).ne_unknown location type payload rfl
  exact ⟨hopenly, fun h ↦ (Tree.holdsEither _ h).resolve_left hopenly⟩

/-- A class whose body is an object with an unknown access. -/
def forgottenTree : Tree.Block Tree :=
  ⟨none, [.classNode none none none (some ⟨none, [.value none (.obj none [])
    [.unknown none "Splice" []]]⟩)]⟩

theorem forgottenTree_ok :
    ∃ node, (program ⟨['x'], Source.unnamed⟩ forgottenTree).result = .ok node :=
  ⟨_, rfl⟩

theorem forgottenTree_holds : (Tree.block forgottenTree).Holds (.unknown none "Splice" []) := by
  refine .head List.mem_cons_self (.head (List.mem_singleton_self _) ?_)
  refine .head List.mem_cons_self (.head ?_ (.refl _))
  exact List.mem_cons_of_mem _ List.mem_cons_self

theorem program_unknown_splice :
    (∃ node, (program ⟨['x'], Source.unnamed⟩ forgottenTree).result = .ok node) ∧
      (Tree.block forgottenTree).Holds (.unknown none "Splice" []) ∧
      ¬ (Tree.block forgottenTree).HoldsOpenly (.unknown none "Splice" []) ∧
      (Tree.block forgottenTree).HoldsInObjectAccess (.unknown none "Splice" []) := by
  obtain ⟨node, hok⟩ := forgottenTree_ok
  obtain ⟨hopenly, hin⟩ := program_unknown (List.cons_ne_nil _ _) hok none "Splice" []
  exact ⟨⟨node, hok⟩, forgottenTree_holds, hopenly, hin forgottenTree_holds⟩

/-- **An unknown node can vanish**: not every tree that is converted is free of unknown nodes. -/
theorem not_forall_holds_ne_unknown :
    ¬ ∀ (source : Source) (root : Tree.Block Tree) (node : Node), source.text ≠ [] →
      (program source root).result = .ok node →
        ∀ location type payload, ¬ (Tree.block root).Holds (.unknown location type payload) := by
  intro hall
  obtain ⟨node, hok⟩ := forgottenTree_ok
  exact hall _ forgottenTree node (List.cons_ne_nil _ _) hok none "Splice" [] forgottenTree_holds

end Convert

end CoffeeTree
