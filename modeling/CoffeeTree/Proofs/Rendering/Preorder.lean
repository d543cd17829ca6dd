import CoffeeTree.Node.Listing
import CoffeeTree.Proofs.Ancestry
import CoffeeTree.Proofs.Rendering.Basic
import Mathlib.Algebra.Group.Nat.Defs

/-!
# The order in which nodes are listed

A listing is made with a stack: a node that is taken from it is replaced by the parts that it owns.
What stands on the stack is listed before what stands below (`Node.walk_append`), so a listing is
the node followed by the listings of these parts (`Node.listing_eq`). The document of a tree tells
the same story: the types in it, met from the outside in, are the kinds of the listed nodes
(`Node.listing_preorder`).

Parts are owned by their names alone. The member of an object that is written in short holds one
node under two names, and neither counts as shared, so all nodes below it are listed twice
(`Convert.listing_shorthand`).
-/

namespace CoffeeTree

namespace Node

/-! ### The stack -/

/-- The stack gives up its top, whose own parts come next. -/
theorem walk_cons (n : Node) (rest : List Node) :
    walk (n :: rest) = n :: walk (n.owned ++ rest) := by
  rw [walk]

/-- **What stands on the stack is listed before what stands below it.** -/
theorem walk_append (stack below : List Node) :
    walk (stack ++ below) = walk stack ++ walk below := by
  induction stack using walk.induct with
  | case1 =>
    rw [walk]
    rfl
  | case2 n rest ih =>
    -- The parts are pushed onto both stacks alike.
    rw [List.cons_append, walk_cons, walk_cons, ← List.append_assoc, ih, List.cons_append]

/-- The nodes on the stack are listed one after the other. -/
theorem walk_eq_flatMap (stack : List Node) : walk stack = stack.flatMap listing := by
  induction stack with
  | nil => rw [walk, List.flatMap_nil]
  | cons n rest ih =>
    have hsplit : walk (n :: rest) = n.listing ++ walk rest := walk_append [n] rest
    rw [hsplit, ih, List.flatMap_cons]

/-- **A listing is the node and then the listings of the parts that it owns.** -/
theorem listing_eq (n : Node) : n.listing = n :: n.owned.flatMap listing := by
  rw [listing, walk_cons, List.append_nil, walk_eq_flatMap]

end Node

/-! ### Types in a document -/

namespace Json

/-- The type that an object says it has. -/
def Entries.type? (entries : Entries) : Option String :=
  match entries.get? "type" with
  | some (.str type) => some type
  | _ => none

mutual

/-- The types that are met on a walk through a document, that of an object before those inside. What
stands under a skipped key is not entered. -/
def types (skipped : List String) : Json → List String
  | arr items => typesOfItems skipped items
  | obj entries => (Entries.type? entries).toList ++ typesOfEntries skipped entries
  | _ => []

def typesOfItems (skipped : List String) : List Json → List String
  | [] => []
  | item :: rest => types skipped item ++ typesOfItems skipped rest

def typesOfEntries (skipped : List String) : List (String × Json) → List String
  | [] => []
  | (key, value) :: rest =>
    if key ∈ skipped then typesOfEntries skipped rest
    else types skipped value ++ typesOfEntries skipped rest

end

variable {skipped : List String}

theorem typesOfItems_eq_flatMap (items : List Json) :
    typesOfItems skipped items = items.flatMap (types skipped) := by
  induction items with
  | nil => rfl
  | cons item rest ih => rw [typesOfItems, ih, List.flatMap_cons]

/-- Entries under skipped keys are passed over. -/
theorem typesOfEntries_eq_flatMap (entries : Entries) :
    typesOfEntries skipped entries =
      (entries.filter (·.1 ∉ skipped)).flatMap fun entry ↦ types skipped entry.2 := by
  induction entries with
  | nil => rfl
  | cons entry rest ih =>
    obtain ⟨key, value⟩ := entry
    rw [typesOfEntries, ih]
    by_cases hkey : key ∈ skipped
    · rw [if_pos hkey, List.filter_cons_of_neg (by simpa using hkey)]
    · rw [if_neg hkey, List.filter_cons_of_pos (by simpa using hkey), List.flatMap_cons]

theorem typesOfEntries_append (entries rest : Entries) :
    typesOfEntries skipped (entries ++ rest) =
      typesOfEntries skipped entries ++ typesOfEntries skipped rest := by
  simp only [typesOfEntries_eq_flatMap, List.filter_append, List.flatMap_append]

end Json

namespace FieldName

/-- The keys of the shared fields. -/
def sharedKeys : List String := ["nameAssignee", "boundMembers", "ctor"]

/-- The keys that are passed over are those of the shared fields. -/
theorem camel_notMem_sharedKeys (field : FieldName) :
    decide (field.camel ∉ sharedKeys) = !field.shared := by
  cases field <;> decide

theorem notMem_shared (field : FieldName) :
    decide (field ∉ [nameAssignee, boundMembers, ctor]) = !field.shared := by
  cases field <;> decide

end FieldName

/-- Where a node stands says nothing about types. -/
theorem Place.types_entries {raw : Bool} {place : Option Place} {skipped : List String} :
    ∀ entry ∈ entries raw place, entry.2.types skipped = [] := by
  cases place <;> cases raw <;> simp [entries, Json.types, Json.typesOfItems]

/-- A field has the types of its parts, and scalars have none. -/
theorem Field.types_toJson (raw : Bool) (skipped : List String) (field : Field Node) :
    (field.map (Node.toJson raw)).toJson.types skipped =
      field.parts.flatMap fun c ↦ (c.toJson raw).types skipped := by
  cases field with
  | scalar value => cases value <;> rfl
  | one part => exact (List.flatMap_singleton _ _).symm
  | opt part =>
    cases part with
    | none => rfl
    | some part => exact (List.flatMap_singleton _ _).symm
  | many parts =>
    show Json.typesOfItems _ _ = _
    rw [Json.typesOfItems_eq_flatMap, List.flatMap_map]
    rfl

namespace Node

/-- The type of a written node is the name of its kind. -/
theorem type?_entries (raw : Bool) (n : Node) :
    Json.Entries.type? (n.entries raw) = some n.kind.name := by
  rw [Json.Entries.type?, get?_type]

/-- The types that stand in the fields are those of the parts that are owned. -/
theorem typesOfEntries_fields (raw : Bool) (n : Node) :
    Json.typesOfEntries FieldName.sharedKeys
        (n.shape.fields.map fun entry ↦ (entry.1.camel, (entry.2.map (toJson raw)).toJson)) =
      n.owned.flatMap fun c ↦ (c.toJson raw).types FieldName.sharedKeys := by
  rw [Json.typesOfEntries_eq_flatMap, List.filter_map, List.flatMap_map]
  simp only [Function.comp_def, FieldName.camel_notMem_sharedKeys, Field.types_toJson]
  exact List.flatMap_assoc.symm

/-- **The types in the document of a node** are its own and then those in the documents of the parts
that it owns. -/
theorem types_toJson (raw : Bool) (n : Node) :
    (n.toJson raw).types FieldName.sharedKeys =
      n.kind.name :: n.owned.flatMap fun c ↦ (c.toJson raw).types FieldName.sharedKeys := by
  have hplace : Json.typesOfEntries FieldName.sharedKeys (Place.entries raw n.place) = [] := by
    rw [Json.typesOfEntries_eq_flatMap, List.flatMap_eq_nil_iff]
    intro entry hentry
    exact Place.types_entries entry (List.mem_of_mem_filter hentry)
  have hfirst : ∀ rest : Json.Entries,
      Json.typesOfEntries FieldName.sharedKeys (("type", .str n.kind.name) :: rest) =
        Json.typesOfEntries FieldName.sharedKeys rest := fun _ ↦ rfl
  rw [toJson_eq, Json.types, type?_entries, entries, hfirst, Json.typesOfEntries_append, hplace,
    typesOfEntries_fields]
  rfl

theorem mem_children_of_mem_owned {n c : Node} (h : c ∈ n.owned) : c ∈ n.children := by
  obtain ⟨entry, hentry, hc⟩ := List.mem_flatMap.1 h
  exact List.mem_flatMap.2 ⟨entry, List.mem_of_mem_filter hentry, hc⟩

/-- **The listing has the types of the document in their order.** -/
theorem map_kind_listing (raw : Bool) (n : Node) :
    n.listing.map (·.kind.name) = (n.toJson raw).types FieldName.sharedKeys := by
  induction n using induction_children with
  | hstep n ih =>
    rw [listing_eq, types_toJson, List.map_cons, List.map_flatMap]
    refine congrArg (n.kind.name :: ·) (List.flatMap_congr fun c hc ↦ ?_)
    exact ih c (mem_children_of_mem_owned hc)

/-- **The stack lists a tree in preorder.** A listing is the node and then the listings of its
parts, in the order of the fields, and in that of the list where a field holds one; three fields are
left out. The kinds of the listed nodes are the types in the document, from the outside in, when the
keys of these fields are left out there. -/
theorem listing_preorder (raw : Bool) (n : Node) :
    n.listing = n :: ((n.shape.fields.filter
      (·.1 ∉ [.nameAssignee, .boundMembers, .ctor])).flatMap (·.2.parts)).flatMap listing ∧
    n.listing.map (·.kind.name) =
      (n.toJson raw).types ["nameAssignee", "boundMembers", "ctor"] := by
  refine ⟨?_, n.map_kind_listing raw⟩
  simp only [FieldName.notMem_shared]
  exact n.listing_eq

/-! ### Members that are written in short -/

/-- An object with one member, which holds one node as its key and as its value. -/
theorem listing_of_shorthand {o member n : Node}
    (hmember : member.shape = .objectInitialiserMember n n)
    (ho : o.shape = .objectInitialiser [member]) :
    o.listing = o :: member :: (n.listing ++ n.listing) := by
  have hmemberOwned : member.owned = [n, n] := by
    rw [owned, hmember]
    rfl
  have hownedMember : o.owned = [member] := by
    rw [owned, ho]
    rfl
  rw [listing_eq o, hownedMember, List.flatMap_singleton, listing_eq member, hmemberOwned,
    List.flatMap_cons, List.flatMap_singleton]

end Node

/-- A value, and around it one object after another, each with what is inside as its only member and
that written in short. A level says where the value and the object on it stand. -/
def Tree.nestShorthand (inside : Tree) : List (Option Location × Option Location) → Tree
  | [] => inside
  | (outer, object) :: levels => .value outer (.obj object [inside.nestShorthand levels]) []

/-- A value that is nested in objects is still a value. -/
theorem Tree.exists_nestShorthand_eq_value {inside : Tree}
    (hinside : ∃ location base properties, inside = .value location base properties)
    (levels : List (Option Location × Option Location)) :
    ∃ location base properties, inside.nestShorthand levels = .value location base properties := by
  cases levels with
  | nil => exact hinside
  | cons level rest => exact ⟨level.1, .obj level.2 [inside.nestShorthand rest], [], rfl⟩

namespace Convert

variable {source : Source} {ancestors : List String} {object location : Option Location}
  {base : Tree} {properties : List Tree} {n o : Node}

/-- The only member of an object holds the node of its property as key and as value. -/
theorem exists_of_shorthand
    (h : (expr source ancestors (.obj object [.value location base properties])).result = .ok o) :
    ∃ n member, (expr source (ancestors ++ ["Obj"])
        (.value location base properties)).result = .ok n ∧
      member.shape = .objectInitialiserMember n n ∧ o.shape = .objectInitialiser [member] := by
  rw [expr_obj] at h
  obtain ⟨members, hmembers, hbuild⟩ := Traced.result_bind_eq_ok.1 h
  rw [objectMembers_cons] at hmembers
  obtain ⟨n, hn, hmembers⟩ := Traced.result_bind_eq_ok.1 hmembers
  obtain ⟨member, hmember, hmembers⟩ := Traced.result_bind_eq_ok.1 hmembers
  obtain rfl : [member] = members := Except.ok.inj hmembers
  exact ⟨n, member, hn, Node.shape_of_build hmember, Node.shape_of_build hbuild⟩

/-- The nodes of a property that is written in short are listed twice. -/
theorem listing_eq_of_shorthand {ancestors' : List String}
    (hn : (expr source ancestors (.value location base properties)).result = .ok n)
    (ho : (expr source ancestors' (.obj object [.value location base properties])).result = .ok o) :
    ∃ member ∈ o.children, member.shape = .objectInitialiserMember n n ∧
      o.listing = o :: member :: (n.listing ++ n.listing) := by
  obtain ⟨n', member, hn', hmember, hshape⟩ := exists_of_shorthand ho
  obtain rfl : n = n' := Except.ok.inj ((expr_eq_ok_of_ancestors hn _).symm.trans hn')
  have hmem : member ∈ o.children := by
    rw [Node.children, hshape]
    exact List.mem_cons_self
  exact ⟨member, hmem, hmember, Node.listing_of_shorthand hmember hshape⟩

/-- A member that is written in short is listed twice, with two nodes around it. -/
theorem length_listing_of_shorthand {ancestors' : List String}
    (hn : (expr source ancestors (.value location base properties)).result = .ok n)
    (ho : (expr source ancestors' (.obj object [.value location base properties])).result = .ok o) :
    o.listing.length = 2 + 2 * n.listing.length := by
  obtain ⟨member, -, -, hlisting⟩ := listing_eq_of_shorthand hn ho
  rw [hlisting, List.length_cons, List.length_cons, List.length_append]
  omega

/-- Each level doubles what is listed. -/
theorem length_listing_nestShorthand {ancestors' : List String}
    (hn : (expr source ancestors (.value location base properties)).result = .ok n)
    {levels : List (Option Location × Option Location)}
    (ho : (expr source ancestors'
      ((Tree.value location base properties).nestShorthand levels)).result = .ok o) :
    o.listing.length + 2 = 2 ^ levels.length * (n.listing.length + 2) := by
  induction levels generalizing ancestors' o with
  | nil =>
    obtain rfl : n = o := Except.ok.inj ((expr_eq_ok_of_ancestors hn _).symm.trans ho)
    rw [List.length_nil, Nat.pow_zero, Nat.one_mul]
  | cons level levels ih =>
    -- A value without properties is the object, and the object has one more level inside.
    rw [Tree.nestShorthand, expr_value] at ho
    obtain ⟨start, hstart, hstop⟩ := Traced.result_bind_eq_ok.1 ho
    obtain rfl : start = o := Except.ok.inj hstop
    obtain ⟨location', base', properties', hinside⟩ :=
      Tree.exists_nestShorthand_eq_value ⟨location, base, properties, rfl⟩ levels
    rw [hinside] at hstart ih
    obtain ⟨m, member, hm, hmember, hshape⟩ := exists_of_shorthand hstart
    have hlevel := ih hm
    rw [Node.listing_of_shorthand hmember hshape, List.length_cons, List.length_cons,
      List.length_append, List.length_cons, Nat.pow_succ', Nat.mul_assoc, ← hlevel]
    omega

/-- **What is written in short is listed twice.** The member of such an object holds one node as key
and as value, and a listing goes through both fields. So the object has two entries more than twice
those of the node, and every further object around it doubles them again. -/
theorem listing_shorthand
    (hn : (expr source ancestors (.value location base properties)).result = .ok n) :
    (∀ (ancestors' : List String) (object : Option Location) (o : Node),
      (expr source ancestors' (.obj object [.value location base properties])).result = .ok o →
        (∃ member ∈ o.children, member.shape = .objectInitialiserMember n n ∧
          o.listing = o :: member :: (n.listing ++ n.listing)) ∧
        o.listing.length = 2 + 2 * n.listing.length) ∧
    ∀ (ancestors' : List String) (levels : List (Option Location × Option Location)) (o : Node),
      (expr source ancestors'
        ((Tree.value location base properties).nestShorthand levels)).result = .ok o →
          o.listing.length + 2 = 2 ^ levels.length * (n.listing.length + 2) := by
  constructor
  · intro ancestors' object o ho
    exact ⟨listing_eq_of_shorthand hn ho, length_listing_of_shorthand hn ho⟩
  · intro ancestors' levels o ho
    exact length_listing_nestShorthand hn ho

def bracesText : Source := ⟨['{', 'x', '}'], Source.unnamed⟩

def letterLiteral : Tree := .literal ⟨some ⟨⟨0, 1⟩, ⟨0, 1⟩⟩, "x"⟩

def letterNode : Node := .mk (some ⟨1, 2, ⟨1, 2⟩, "x"⟩) (.identifier "x")

/-- The letter between braces, as the only property of an object. -/
def letterObject : Tree :=
  .obj (some ⟨⟨0, 0⟩, ⟨0, 2⟩⟩) [.value (some ⟨⟨0, 1⟩, ⟨0, 1⟩⟩) letterLiteral []]

theorem expr_letter (ancestors : List String) :
    (expr bracesText ancestors (.value (some ⟨⟨0, 1⟩, ⟨0, 1⟩⟩) letterLiteral [])).result =
      .ok letterNode := by
  with_unfolding_all rfl

theorem exists_expr_letterObject (ancestors : List String) :
    ∃ o, (expr bracesText ancestors letterObject).result = .ok o :=
  ⟨_, by with_unfolding_all rfl⟩

/-- One letter gives four entries, and with a second object around it ten. -/
theorem listing_shorthand_letter :
    ∃ o outer, (expr bracesText [] letterObject).result = .ok o ∧ o.listing.length = 4 ∧
      (expr bracesText [] ((Tree.value (some ⟨⟨0, 1⟩, ⟨0, 1⟩⟩) letterLiteral []).nestShorthand
        [(none, none), (none, none)])).result = .ok outer ∧ outer.listing.length = 10 := by
  obtain ⟨hobject, hlevels⟩ := listing_shorthand (expr_letter [])
  have hletter : letterNode.listing.length = 1 := by
    rw [Node.listing_eq]
    rfl
  obtain ⟨o, ho⟩ := exists_expr_letterObject []
  obtain ⟨outer, houter⟩ : ∃ outer,
      (expr bracesText [] ((Tree.value (some ⟨⟨0, 1⟩, ⟨0, 1⟩⟩) letterLiteral []).nestShorthand
        [(none, none), (none, none)])).result = .ok outer := ⟨_, by with_unfolding_all rfl⟩
  have hlength := (hobject [] _ o ho).2
  have hlengthOuter := hlevels [] _ outer houter
  rw [hletter] at hlength hlengthOuter
  exact ⟨o, outer, ho, hlength, houter, Nat.add_right_cancel hlengthOuter⟩

/-- A listing does not have the nodes of a member that is written in short only once. -/
theorem not_forall_length_listing_shorthand :
    ¬ ∀ (source : Source) (ancestors : List String) (object location : Option Location)
        (base : Tree) (properties : List Tree) (n o : Node),
      (expr source ancestors (.value location base properties)).result = .ok n →
      (expr source ancestors (.obj object [.value location base properties])).result = .ok o →
        o.listing.length = 2 + n.listing.length := by
  intro hall
  obtain ⟨o, ho⟩ := exists_expr_letterObject []
  have honce := hall _ _ _ _ _ _ _ o (expr_letter []) ho
  rw [length_listing_of_shorthand (expr_letter []) ho, Node.listing_eq letterNode,
    List.length_cons] at honce
  omega

end Convert

end CoffeeTree
