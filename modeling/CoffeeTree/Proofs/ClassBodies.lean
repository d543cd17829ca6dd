import CoffeeTree.Proofs.Origins
import Mathlib.Data.List.Forall2

/-!
# Bodies of classes

The body of a class gives a statement for each of its expressions, and an object among them gives
one for each of its members instead (`Convert.ClassEntry`). A member is the constructor, an
assignment to a member of `this`, or an assignment to the prototype, which its key decides
(`Convert.memberShape`); its value is kept beside it.

The class then repeats some of these statements under names of their own. Its bound members are
those whose values are bound functions, and its constructor is the last one. Other statements cannot
be mistaken for constructors, since an expression never becomes one
(`Convert.isConstructor_of_expr`). `Convert.class_desugars` says what a class becomes in full.
-/

namespace CoffeeTree

namespace Convert

variable {source : Source} {ancestors : List String}

/-! ### Entries -/

/-- What gives a statement in the body of a class: an expression, or a member of an object. -/
inductive ClassEntry where
  | expression (tree : Tree)
  | member (tree : Tree)

/-- The entries of a body, in the order of the source. -/
def classEntries (expressions : List Tree) : List ClassEntry :=
  expressions.flatMap fun t ↦ (classObject? t).elim [.expression t] (·.map .member)

/-- The key and the value of a member. A value alone is both. -/
inductive MemberParts (source : Source) (ancestors : List String) :
    Tree → Node → Node → Prop where
  | shorthand {location : Option Location} {base : Tree} {accesses : List Tree} {both : Node}
      (result : (expr source ancestors (.value location base accesses)).result = .ok both) :
      MemberParts source ancestors (.value location base accesses) both both
  | assign {location : Option Location} {target right : Tree} {context : Option String}
      {key value : Node}
      (key_result : (expr source (ancestors ++ ["Assign"]) target).result = .ok key)
      (value_result : (expr source (ancestors ++ ["Assign"]) right).result = .ok value) :
      MemberParts source ancestors (.assign location target right context) key value

/-- The statement that an entry becomes, with the value of a member beside it. -/
inductive EntryBecomes (source : Source) (ancestors : List String) :
    ClassEntry → ClassStatement → Prop where
  | expression {t : Tree} {n : Node} (result : (expr source ancestors t).result = .ok n) :
      EntryBecomes source ancestors (.expression t) ⟨n, none⟩
  | member {t : Tree} {key value n : Node}
      (parts : MemberParts source (ancestors ++ ["Value", "Obj"]) t key value)
      (shape_eq : n.shape = memberShape key value) :
      EntryBecomes source ancestors (.member t) ⟨n, some value⟩

/-- An object gives an entry for each of its members. -/
theorem classEntries_object {t : Tree} {properties : List Tree}
    (h : classObject? t = some properties) (rest : List Tree) :
    classEntries (t :: rest) = properties.map .member ++ classEntries rest := by
  rw [classEntries, List.flatMap_cons, h]
  rfl

theorem classEntries_of_not_object {t : Tree} (h : classObject? t = none) (rest : List Tree) :
    classEntries (t :: rest) = .expression t :: classEntries rest := by
  rw [classEntries, List.flatMap_cons, h]
  rfl

/-- The members of an object become statements one by one. -/
theorem classMembers_become (properties : List Tree) :
    Yields (List.Forall₂ (EntryBecomes source ancestors) (properties.map .member))
      (classMembers source (ancestors ++ ["Value", "Obj"]) properties) := by
  induction properties with
  | nil => exact .of_pure .nil
  | cons t rest ih =>
    cases t with
    | value location base accesses =>
      rw [classMembers_value]
      refine Yields.bind (fun _ hboth ↦ hboth) fun both hboth ↦ ?_
      refine Yields.bind (fun _ hs ↦ Node.shape_of_build hs) fun statement hshape ↦ ?_
      refine ih.bind fun statements hstatements ↦ .of_pure (.cons ?_ hstatements)
      exact .member (.shorthand hboth) hshape
    | assign location target right context =>
      rw [classMembers_assign]
      refine Yields.bind (fun _ hkey ↦ hkey) fun key hkey ↦ ?_
      refine Yields.bind (fun _ hvalue ↦ hvalue) fun value hvalue ↦ ?_
      refine Yields.bind (fun _ hs ↦ Node.shape_of_build hs) fun statement hshape ↦ ?_
      refine ih.bind fun statements hstatements ↦ .of_pure (.cons ?_ hstatements)
      exact .member (.assign hkey hvalue) hshape
    | _ => exact .of_unrecognized

/-- **The statements of a body are those of its entries, one for each, in their order.** -/
theorem classStatements_become (trees : List Tree) :
    Yields (List.Forall₂ (EntryBecomes source ancestors) (classEntries trees))
      (classStatements source ancestors trees) := by
  induction trees with
  | nil => exact .of_pure .nil
  | cons t rest ih =>
    rcases hobject : classObject? t with _ | properties
    · rw [classStatements_of_not_object _ _ hobject, classEntries_of_not_object hobject]
      refine Yields.bind (fun _ hnode ↦ hnode) fun node hnode ↦ ?_
      exact ih.bind fun statements hstatements ↦ .of_pure (.cons (.expression hnode) hstatements)
    · rw [classStatements_object _ _ hobject, classEntries_object hobject]
      refine (classMembers_become properties).bind fun members hmembers ↦ ?_
      exact ih.bind fun statements hstatements ↦ .of_pure (List.rel_append hmembers hstatements)

/-! ### Constructors -/

/-- **An expression does not become a constructor.** -/
theorem isConstructor_of_expr {t : Tree} {n : Node}
    (h : (expr source ancestors t).result = .ok n) : isConstructor n = false :=
  decide_eq_false (expresses_of_expr (.refl t) h).kind_ne

/-- So only members can be constructors, and those come with a value. -/
theorem EntryBecomes.noConstructor {entry : ClassEntry} {s : ClassStatement}
    (h : EntryBecomes source ancestors entry s) :
    (s.value.isSome && isConstructor s.statement) = isConstructor s.statement := by
  cases h with
  | expression result => exact (isConstructor_of_expr result).symm
  | member parts shape_eq => rfl

/-- The constructor of a class is the last one among all of its statements. -/
theorem constructorOf_eq {entries : List ClassEntry} {made : List ClassStatement}
    (h : List.Forall₂ (EntryBecomes source ancestors) entries made) :
    constructorOf made = ((made.map (·.statement)).filter isConstructor).getLast? := by
  -- The test for a value cannot fail at a constructor.
  have hfilter : ∀ s ∈ made,
      (s.value.isSome && isConstructor s.statement) = isConstructor s.statement := by
    induction h with
    | nil => exact fun s hs ↦ absurd hs List.not_mem_nil
    | cons hentry _ ih => exact List.forall_mem_cons.2 ⟨hentry.noConstructor, ih⟩
  rw [constructorOf, List.filter_congr hfilter, List.filter_map]
  rfl

/-! ### Whole classes -/

/-- **What a class becomes.** Its body holds the statements of its entries, in their order. It has
its name twice; it repeats the statements of the members whose values are bound functions, and the
last constructor. -/
theorem class_desugars {location : Option Location} {name parent : Option Tree}
    {body : Tree.Block Tree} {n : Node} (hbody : body.expressions ≠ [])
    (h : (expr source ancestors (.classNode location name parent (some body))).result = .ok n) :
    ∃ title superclass block made,
      (expr? source (ancestors ++ ["Class"]) name).result = .ok title ∧
      (expr? source (ancestors ++ ["Class"]) parent).result = .ok superclass ∧
      List.Forall₂ (EntryBecomes source (ancestors ++ ["Class"] ++ ["Block"]))
        (classEntries body.expressions) made ∧
      block.shape = .block (made.map (·.statement)) ∧
      n.shape = .classDefinition title title (some block)
        ((made.filter fun s ↦ s.value.any isBoundFunction).map (·.statement)) superclass
        ((made.map (·.statement)).filter isConstructor).getLast? := by
  obtain ⟨inner, _ | ⟨first, rest⟩⟩ := body
  · exact absurd rfl hbody
  · rw [expr_classNode, classBody_cons] at h
    obtain ⟨title, htitle, h⟩ := Traced.result_bind_eq_ok.1 h
    obtain ⟨members, hmembers, h⟩ := Traced.result_bind_eq_ok.1 h
    obtain ⟨superclass, hsuperclass, hbuild⟩ := Traced.result_bind_eq_ok.1 h
    obtain ⟨made, hmade, hmembers⟩ := Traced.result_bind_eq_ok.1 hmembers
    obtain ⟨block, hblock, hmembers⟩ := Traced.result_bind_eq_ok.1 hmembers
    obtain rfl := Except.ok.inj hmembers
    -- What remains is about the statements alone: the class repeats some of them.
    have hentries := classStatements_become (first :: rest) made hmade
    refine ⟨title, superclass, block, made, htitle, hsuperclass, hentries,
      Node.shape_of_build hblock, ?_⟩
    rw [Node.shape_of_build hbuild, constructorOf_eq hentries]
    rfl

def constructorKey : Tree := .literal ⟨none, "constructor"⟩

def thisKey : Tree := .value none (.literal ⟨none, "this"⟩) [.access none ⟨none, "c"⟩]

def boundCode : Tree := .code none [] none true

/-- A body with a statement between two objects, each of which has a constructor. Three of the five
members have bound functions as values, and one is a value alone. -/
def membersBody : Tree.Block Tree :=
  ⟨none, [.value none (.obj none [.assign none constructorKey (.null none) none,
      .assign none (.null none) boundCode none]) [],
    .null none,
    .value none (.obj none [.assign none thisKey boundCode none, .value none (.null none) [],
      .assign none constructorKey boundCode none]) []]⟩

def nullNode : Node := .mk none .null

def boundNode : Node := .mk none (.function true none [])

def boundProto : Node := .mk none (.classProtoAssign nullNode boundNode)

def boundAssign : Node :=
  .mk none (.assign (.mk none (.memberAccess (.mk none .this) "c")) boundNode)

def boundConstructor : Node := .mk none (.classConstructor boundNode)

def membersStatements : List Node :=
  [.mk none (.classConstructor nullNode), boundProto, nullNode, boundAssign,
    .mk none (.classProtoAssign nullNode nullNode), boundConstructor]

def membersOutput : Node :=
  .mk none (.classDefinition none none (some (.mk none (.block membersStatements)))
    [boundProto, boundAssign, boundConstructor] none (some boundConstructor))

/-- The second constructor is the one that counts, and it is a bound member too. -/
theorem class_desugars_two_constructors :
    (expr lineText [] (.classNode none none none (some membersBody))).result = .ok membersOutput ∧
      ∃ made, List.Forall₂ (EntryBecomes lineText ["Class", "Block"])
          (classEntries membersBody.expressions) made ∧
        made.map (·.statement) = membersStatements ∧
        (made.filter fun s ↦ s.value.any isBoundFunction).map (·.statement) =
          [boundProto, boundAssign, boundConstructor] ∧
        ((made.map (·.statement)).filter isConstructor).getLast? = some boundConstructor := by
  have hresult : (expr lineText [] (.classNode none none none (some membersBody))).result =
      .ok membersOutput := by
    with_unfolding_all rfl
  obtain ⟨title, superclass, block, made, -, -, hentries, hblock, hshape⟩ :=
    class_desugars (List.cons_ne_nil _ _) hresult
  obtain ⟨-, -, hbody, hbound, -, hconstructor⟩ := Shape.classDefinition.inj hshape
  obtain rfl := Option.some.inj hbody
  exact ⟨hresult, made, hentries, (Shape.block.inj hblock).symm, hbound.symm, hconstructor.symm⟩

end Convert

end CoffeeTree
