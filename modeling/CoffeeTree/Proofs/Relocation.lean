import CoffeeTree.Proofs.Descendants
import CoffeeTree.Proofs.Equations

/-!
# Changing where nodes stand

`Tree.relocate` changes every location of a parse tree and nothing else, and `Node.mapPlaces` every
place of a syntax tree and nothing else. They are how one run of the converter is compared with
another one on a different text.

Both go through the parts of a node with one map. For syntax trees that map is `Shape.map`, and
`Node.mapPlaces` is a fold, so its equation (`Node.mapPlaces_mk`) is all that later proofs use. The
converter looks into a finished node in three places only: it asks for its kind, and for the key of
a class member it asks for a name or for a member of `this`. None of these sees a place, so the
shapes that are decided from finished nodes change with their parts (`Convert.map_memberShape`,
`Convert.boundMembers_map`, `Convert.constructorOf_map`).
-/

namespace CoffeeTree

/-- Changing the parts of a field changes nothing if no part is changed. -/
theorem Field.map_eq_self {α : Type} {f : α → α} {field : Field α}
    (h : ∀ c ∈ field.parts, f c = c) : field.map f = field := by
  cases field with
  | scalar value => rfl
  | one part => exact congrArg one (h part List.mem_cons_self)
  | opt part =>
    cases part with
    | none => rfl
    | some c => exact congrArg (fun c ↦ opt (some c)) (h c List.mem_cons_self)
  | many parts => exact congrArg many ((List.map_congr_left h).trans (List.map_id' parts))

namespace Shape

variable {α β : Type}

/-- Changes every part. -/
def map (f : α → β) : Shape α → Shape β
  | program body => program (body.map f)
  | block statements => block (statements.map f)
  | identifier data => identifier data
  | string data => string data
  | int data => int data
  | float data => float data
  | this => this
  | bool data => bool data
  | null => null
  | memberAccess expression memberName => memberAccess (f expression) memberName
  | dynamicMemberAccess expression indexingExpr =>
    dynamicMemberAccess (f expression) (f indexingExpr)
  | functionApplication callee arguments => functionApplication (f callee) (arguments.map f)
  | binary operator left right => binary operator (f left) (f right)
  | unary operator expression => unary operator (f expression)
  | assign assignee expression => assign (f assignee) (f expression)
  | objectInitialiser members => objectInitialiser (members.map f)
  | objectInitialiserMember key expression => objectInitialiserMember (f key) (f expression)
  | arrayInitialiser members => arrayInitialiser (members.map f)
  | conditional condition consequent alternate =>
    conditional (f condition) (consequent.map f) (alternate.map f)
  | function bound body parameters => function bound (body.map f) (parameters.map f)
  | defaultParam param default => defaultParam (f param) (f default)
  | whileLoop condition body => whileLoop (f condition) (body.map f)
  | classDefinition name nameAssignee body boundMembers parent ctor =>
    classDefinition (name.map f) (nameAssignee.map f) (body.map f) (boundMembers.map f)
      (parent.map f) (ctor.map f)
  | classConstructor expression => classConstructor (f expression)
  | classProtoAssign assignee expression => classProtoAssign (f assignee) (f expression)
  | switch expression cases alternate =>
    switch (expression.map f) (cases.map f) (alternate.map f)
  | switchCase conditions consequent => switchCase (conditions.map f) (consequent.map f)

/-- The fields keep their names and their order. -/
theorem fields_map (f : α → β) (shape : Shape α) :
    (shape.map f).fields = shape.fields.map fun entry ↦ (entry.1, entry.2.map f) := by
  cases shape <;> rfl

@[simp] theorem children_map (f : α → β) (shape : Shape α) :
    (shape.map f).children = shape.children.map f := by
  simp only [children, fields_map, List.flatMap_map, List.map_flatMap, Field.parts_map]

@[simp] theorem kind_map (f : α → β) (shape : Shape α) : (shape.map f).kind = shape.kind := by
  cases shape <;> rfl

/-- A change that leaves every part alone leaves the shape alone. -/
theorem map_eq_self {f : α → α} {shape : Shape α} (h : ∀ c ∈ shape.children, f c = c) :
    shape.map f = shape := by
  have hfields : ∀ entry ∈ shape.fields, entry.2.map f = entry.2 := fun entry hentry ↦
    Field.map_eq_self fun c hc ↦ h c (List.mem_flatMap.2 ⟨entry, hentry, hc⟩)
  clear h
  cases shape <;>
    simp only [fields, Field.map, List.forall_mem_cons, Field.one.injEq, Field.opt.injEq,
      Field.many.injEq] at hfields <;>
    simp only [map, hfields]

end Shape

namespace Node

/-- Folding a shape folds each of its parts. -/
theorem foldShape_eq_map {β : Type} (step : Option Place → Shape β → β) (shape : Shape Node) :
    foldShape step shape = shape.map (fold step) := by
  cases shape <;> simp only [foldShape, Shape.map, foldOption_eq_map, foldList_eq_map]

/-- Changes the place of every node that has one. -/
def mapPlaces (f : Place → Place) : Node → Node :=
  fold fun place shape ↦ mk (place.map f) shape

/-- The places are changed in the node and everywhere below it. -/
theorem mapPlaces_mk (f : Place → Place) (place : Option Place) (shape : Shape Node) :
    (mk place shape).mapPlaces f = mk (place.map f) (shape.map (mapPlaces f)) := by
  rw [mapPlaces, fold, foldShape_eq_map]

@[simp] theorem place_mapPlaces (f : Place → Place) (n : Node) :
    (n.mapPlaces f).place = n.place.map f := by
  cases n with
  | mk place shape => rw [mapPlaces_mk, Node.place, Node.place]

@[simp] theorem shape_mapPlaces (f : Place → Place) (n : Node) :
    (n.mapPlaces f).shape = n.shape.map (mapPlaces f) := by
  cases n with
  | mk place shape => rw [mapPlaces_mk, Node.shape, Node.shape]

@[simp] theorem kind_mapPlaces (f : Place → Place) (n : Node) :
    (n.mapPlaces f).kind = n.kind := by
  rw [kind, shape_mapPlaces, Shape.kind_map, kind]

/-- **Nothing changes if no place is changed.** -/
theorem mapPlaces_id (n : Node) : n.mapPlaces id = n := by
  induction n using induction_children with
  | hstep n ih =>
    cases n with
    | mk place shape =>
      have hshape : shape.map (mapPlaces id) = shape := Shape.map_eq_self ih
      rw [mapPlaces_mk, Option.map_id_apply, hshape]

end Node

theorem Shape.map_mapPlaces_id (shape : Shape Node) : shape.map (Node.mapPlaces id) = shape :=
  map_eq_self fun c _ ↦ Node.mapPlaces_id c

namespace Tree

/-! ### Locations of a parse tree -/

def Literal.relocate (f : Location → Location) (l : Literal) : Literal :=
  { l with location := l.location.map f }

mutual

/-- Changes the location of every node that has one. -/
def relocate (f : Location → Location) : Tree → Tree
  | access location name => access (location.map f) (name.relocate f)
  | arr location objects => arr (location.map f) (relocateList f objects)
  | assign location target right context =>
    assign (location.map f) (relocate f target) (relocate f right) context
  | block b => block (relocateBlock f b)
  | bool location val => bool (location.map f) val
  | call location callee args => call (location.map f) (relocate f callee) (relocateList f args)
  | classNode location name parent body =>
    classNode (location.map f) (relocateOption f name) (relocateOption f parent)
      (relocateBlockOption f body)
  | code location params body bound =>
    code (location.map f) (relocateParams f params) (relocateBlockOption f body) bound
  | ifNode location condition body elseBody =>
    ifNode (location.map f) (relocate f condition) (relocateBlock f body)
      (relocateOption f elseBody)
  | index location i => index (location.map f) (relocate f i)
  | literal l => literal (l.relocate f)
  | null location => null (location.map f)
  | obj location properties => obj (location.map f) (relocateList f properties)
  | op location operator first second =>
    op (location.map f) operator (relocate f first) (relocateOption f second)
  | param p => param (relocateParam f p)
  | parens location body => parens (location.map f) (relocate f body)
  | switch location subject cases otherwise =>
    switch (location.map f) (relocateOption f subject) (relocateCases f cases)
      (relocateBlockOption f otherwise)
  | value location base properties =>
    value (location.map f) (relocate f base) (relocateList f properties)
  | whileNode location condition body =>
    whileNode (location.map f) (relocate f condition) (relocateBlock f body)
  | unknown location type payload => unknown (location.map f) type payload

def relocateList (f : Location → Location) : List Tree → List Tree
  | [] => []
  | tree :: rest => relocate f tree :: relocateList f rest

def relocateOption (f : Location → Location) : Option Tree → Option Tree
  | none => none
  | some tree => some (relocate f tree)

def relocateBlock (f : Location → Location) : Block Tree → Block Tree
  | ⟨location, expressions⟩ => ⟨location.map f, relocateList f expressions⟩

def relocateBlockOption (f : Location → Location) : Option (Block Tree) → Option (Block Tree)
  | none => none
  | some b => some (relocateBlock f b)

def relocateParam (f : Location → Location) : Param Tree → Param Tree
  | ⟨location, name, default⟩ => ⟨location.map f, relocate f name, relocateOption f default⟩

def relocateParams (f : Location → Location) : List (Param Tree) → List (Param Tree)
  | [] => []
  | p :: rest => relocateParam f p :: relocateParams f rest

def relocateConditions (f : Location → Location) : Conditions Tree → Conditions Tree
  | .one condition => .one (relocate f condition)
  | .many conditions => .many (relocateList f conditions)

def relocateCase (f : Location → Location) : Case Tree → Case Tree
  | ⟨conditions, body⟩ => ⟨relocateConditions f conditions, relocateBlock f body⟩

def relocateCases (f : Location → Location) : List (Case Tree) → List (Case Tree)
  | [] => []
  | case :: rest => relocateCase f case :: relocateCases f rest

end

/-- The name in an access stays as it is if no location is changed. -/
theorem Literal.relocate_id (l : Literal) : l.relocate id = l := by
  rw [Literal.relocate, Option.map_id_apply]

mutual

/-- Nor does the tree change if no location is changed. The recursion is that of `relocate`, with
one lemma for each function of its block. -/
theorem relocate_id : (t : Tree) → t.relocate id = t
  | access location name => by rw [relocate, Option.map_id_apply, Literal.relocate_id]
  | arr location objects => by rw [relocate, Option.map_id_apply, relocateList_id]
  | assign location target right context => by
    rw [relocate, Option.map_id_apply, relocate_id, relocate_id]
  | block b => by rw [relocate, relocateBlock_id]
  | bool location val => by rw [relocate, Option.map_id_apply]
  | call location callee args => by
    rw [relocate, Option.map_id_apply, relocate_id, relocateList_id]
  | classNode location name parent body => by
    rw [relocate, Option.map_id_apply, relocateOption_id, relocateOption_id,
      relocateBlockOption_id]
  | code location params body bound => by
    rw [relocate, Option.map_id_apply, relocateParams_id, relocateBlockOption_id]
  | ifNode location condition body elseBody => by
    rw [relocate, Option.map_id_apply, relocate_id, relocateBlock_id, relocateOption_id]
  | index location i => by rw [relocate, Option.map_id_apply, relocate_id]
  | literal l => by rw [relocate, Literal.relocate_id]
  | null location => by rw [relocate, Option.map_id_apply]
  | obj location properties => by rw [relocate, Option.map_id_apply, relocateList_id]
  | op location operator first second => by
    rw [relocate, Option.map_id_apply, relocate_id, relocateOption_id]
  | param p => by rw [relocate, relocateParam_id]
  | parens location body => by rw [relocate, Option.map_id_apply, relocate_id]
  | switch location subject cases otherwise => by
    rw [relocate, Option.map_id_apply, relocateOption_id, relocateCases_id,
      relocateBlockOption_id]
  | value location base properties => by
    rw [relocate, Option.map_id_apply, relocate_id, relocateList_id]
  | whileNode location condition body => by
    rw [relocate, Option.map_id_apply, relocate_id, relocateBlock_id]
  | unknown location type payload => by rw [relocate, Option.map_id_apply]

theorem relocateList_id : (trees : List Tree) → relocateList id trees = trees
  | [] => rfl
  | t :: rest => by rw [relocateList, relocate_id, relocateList_id]

theorem relocateOption_id : (tree : Option Tree) → relocateOption id tree = tree
  | none => rfl
  | some t => by rw [relocateOption, relocate_id]

theorem relocateBlock_id : (b : Block Tree) → relocateBlock id b = b
  | ⟨location, expressions⟩ => by rw [relocateBlock, Option.map_id_apply, relocateList_id]

theorem relocateBlockOption_id : (body : Option (Block Tree)) → relocateBlockOption id body = body
  | none => rfl
  | some b => by rw [relocateBlockOption, relocateBlock_id]

theorem relocateParam_id : (p : Param Tree) → relocateParam id p = p
  | ⟨location, name, default⟩ => by
    rw [relocateParam, Option.map_id_apply, relocate_id, relocateOption_id]

theorem relocateParams_id : (params : List (Param Tree)) → relocateParams id params = params
  | [] => rfl
  | p :: rest => by rw [relocateParams, relocateParam_id, relocateParams_id]

theorem relocateConditions_id : (conditions : Conditions Tree) →
    relocateConditions id conditions = conditions
  | .one condition => by rw [relocateConditions, relocate_id]
  | .many conditions => by rw [relocateConditions, relocateList_id]

theorem relocateCase_id : (case : Case Tree) → relocateCase id case = case
  | ⟨conditions, body⟩ => by rw [relocateCase, relocateConditions_id, relocateBlock_id]

theorem relocateCases_id : (cases : List (Case Tree)) → relocateCases id cases = cases
  | [] => rfl
  | case :: rest => by rw [relocateCases, relocateCase_id, relocateCases_id]

end

variable (f : Location → Location)

@[simp] theorem location_relocateBlock (b : Block Tree) :
    (relocateBlock f b).location = b.location.map f := by
  cases b
  rfl

/-- A node has its location changed, or still none. -/
@[simp] theorem location_relocate (t : Tree) : (t.relocate f).location = t.location.map f := by
  cases t with
  | block b => exact location_relocateBlock f b
  | param p =>
    cases p
    rfl
  | _ => rfl

/-- A change of locations makes no blocks. -/
theorem relocate_ne_block {t : Tree} (h : ∀ b, t ≠ block b) (b : Block Tree) :
    t.relocate f ≠ block b := by
  intro hb
  cases t with
  | block b' => exact h b' rfl
  | _ => exact Tree.noConfusion hb

theorem location_relocateList (trees : List Tree) :
    (relocateList f trees).map location =
      (trees.map location).map (Option.map f) := by
  induction trees with
  | nil => rfl
  | cons t rest ih =>
    show (t.relocate f).location :: (relocateList f rest).map location = _
    rw [ih, location_relocate]
    rfl

/-- One condition and several conditions are changed alike. -/
theorem toList_relocateConditions (conditions : Conditions Tree) :
    (relocateConditions f conditions).toList = relocateList f conditions.toList := by
  cases conditions <;> rfl

/-- Whether a statement of a class is an object has nothing to do with locations. -/
theorem classObject?_relocate (t : Tree) :
    Convert.classObject? (t.relocate f) = (Convert.classObject? t).map (relocateList f) := by
  cases t with
  | value location base accesses => cases base <;> rfl
  | _ => rfl

end Tree

/-! ### Shapes under a change of places -/

namespace Convert

variable (f : Place → Place)

/-- An assignment keeps its kind when places are changed. -/
theorem map_assignShape (context : Option String) (key expression : Node) :
    (assignShape context key expression).map (Node.mapPlaces f) =
      assignShape context (key.mapPlaces f) (expression.mapPlaces f) := by
  rw [assignShape, assignShape]
  split <;> rfl

theorem children_assignShape (context : Option String) (key expression : Node) :
    (assignShape context key expression).children = [key, expression] := by
  rw [assignShape]
  split <;> rfl

/-- Which key names a constructor has nothing to do with places. -/
theorem namesConstructor_map (shape : Shape Node) :
    namesConstructor (shape.map (Node.mapPlaces f)) = namesConstructor shape := by
  cases shape <;> rfl

/-- Nor has what is a member of `this`. -/
theorem isThisMember_map (shape : Shape Node) :
    isThisMember (shape.map (Node.mapPlaces f)) = isThisMember shape := by
  cases shape with
  | memberAccess expression memberName =>
    show decide ((expression.mapPlaces f).kind = .this) = decide (expression.kind = .this)
    rw [Node.kind_mapPlaces]
  | _ => rfl

/-- So a member keeps its kind as well. -/
theorem map_memberShape (key value : Node) :
    (memberShape key value).map (Node.mapPlaces f) =
      memberShape (key.mapPlaces f) (value.mapPlaces f) := by
  rw [memberShape, memberShape, Node.shape_mapPlaces, namesConstructor_map, isThisMember_map]
  split
  · rfl
  · split <;> rfl

/-- A member has no other parts than its key and its value. -/
theorem mem_children_memberShape {key value c : Node}
    (h : c ∈ (memberShape key value).children) : c = key ∨ c = value := by
  rw [memberShape] at h
  split at h
  · exact Or.inr (List.mem_singleton.1 h)
  · split at h <;> simpa [Shape.children, Shape.fields, Field.parts] using h

/-! ### Statements of a class -/

/-- Changes the places of a statement and of its value. -/
def ClassStatement.mapPlaces (s : ClassStatement) : ClassStatement :=
  ⟨s.statement.mapPlaces f, s.value.map (Node.mapPlaces f)⟩

/-- The same statements are bound members when places are changed. -/
theorem boundMembers_map (statements : List ClassStatement) :
    boundMembers (statements.map (ClassStatement.mapPlaces f)) =
      (boundMembers statements).map (Node.mapPlaces f) := by
  have hbound : (fun s : ClassStatement ↦ s.value.any isBoundFunction) ∘
      ClassStatement.mapPlaces f = fun s ↦ s.value.any isBoundFunction := by
    funext s
    show (s.value.map (Node.mapPlaces f)).any isBoundFunction = _
    cases s.value with
    | none => rfl
    | some value =>
      show decide ((value.mapPlaces f).kind = .function true) = _
      rw [Node.kind_mapPlaces]
      rfl
  rw [boundMembers, boundMembers, List.filter_map, hbound, List.map_map, List.map_map]
  rfl

/-- The same statement is the constructor. -/
theorem constructorOf_map (statements : List ClassStatement) :
    constructorOf (statements.map (ClassStatement.mapPlaces f)) =
      (constructorOf statements).map (Node.mapPlaces f) := by
  have hconstructor : (fun s : ClassStatement ↦ s.value.isSome && isConstructor s.statement) ∘
      ClassStatement.mapPlaces f = fun s ↦ s.value.isSome && isConstructor s.statement := by
    funext s
    show ((s.value.map (Node.mapPlaces f)).isSome &&
      decide ((s.statement.mapPlaces f).kind = .classConstructor)) = _
    rw [Option.isSome_map, Node.kind_mapPlaces]
    rfl
  rw [constructorOf, constructorOf, List.filter_map, hconstructor, List.map_map,
    ← List.getLast?_map, List.map_map]
  rfl

/-- A bound member is one of the statements. -/
theorem exists_of_mem_boundMembers {statements : List ClassStatement} {n : Node}
    (h : n ∈ boundMembers statements) : ∃ s ∈ statements, s.statement = n := by
  obtain ⟨s, hs, hn⟩ := List.mem_map.1 h
  exact ⟨s, (List.mem_filter.1 hs).1, hn⟩

/-- So is the constructor. -/
theorem exists_of_mem_constructorOf {statements : List ClassStatement} {n : Node}
    (h : n ∈ constructorOf statements) : ∃ s ∈ statements, s.statement = n := by
  obtain ⟨s, hs, hn⟩ := List.mem_map.1 (List.mem_of_getLast? h)
  exact ⟨s, (List.mem_filter.1 hs).1, hn⟩

end Convert

end CoffeeTree
