import CoffeeTree.Node.Kind
import CoffeeTree.Number.Binary64
import CoffeeTree.Range

/-!
# Syntax tree nodes

A node is a *shape*, which says what the node is and holds its parts, together with the *place* in
the source that it came from. A node without a place is *virtual*: it stands for something that the
source does not spell out.

Shapes are generic in their parts, so that `Shape Node` holds nodes and `Shape Json` their rendered
forms. `Shape.fields` lists the parts of a shape under their names; every traversal of the tree goes
through it, and `Node.fold` is the one recursion.

Some parts are *shared*: they repeat nodes that the shape also holds elsewhere, so that a reader
finds them quickly. `FieldName.shared` tells which.
-/

namespace CoffeeTree

/-- Where a node stands in its source: the line and column of its start, counted from one, its range
of offsets, and the text there. -/
structure Place where
  line : Nat
  column : Nat
  range : Range
  raw : String
  deriving DecidableEq, Repr

/-- The names of the parts of a shape. -/
inductive FieldName where
  | alternate
  | arguments
  | assignee
  | body
  | boundMembers
  | cases
  | condition
  | conditions
  | consequent
  | ctor
  | data
  | default
  | expression
  | function
  | indexingExpr
  | key
  | left
  | memberName
  | members
  | name
  | nameAssignee
  | param
  | parameters
  | parent
  | right
  | statements
  deriving DecidableEq, Repr

namespace FieldName

/-- The name with its words joined by underscores. -/
def snake : FieldName → String
  | alternate => "alternate"
  | arguments => "arguments"
  | assignee => "assignee"
  | body => "body"
  | boundMembers => "bound_members"
  | cases => "cases"
  | condition => "condition"
  | conditions => "conditions"
  | consequent => "consequent"
  | ctor => "ctor"
  | data => "data"
  | default => "default"
  | expression => "expression"
  | function => "function"
  | indexingExpr => "indexing_expr"
  | key => "key"
  | left => "left"
  | memberName => "member_name"
  | members => "members"
  | name => "name"
  | nameAssignee => "name_assignee"
  | param => "param"
  | parameters => "parameters"
  | parent => "parent"
  | right => "right"
  | statements => "statements"

/-- The name in camel case. -/
def camel : FieldName → String
  | boundMembers => "boundMembers"
  | indexingExpr => "indexingExpr"
  | memberName => "memberName"
  | nameAssignee => "nameAssignee"
  | other => other.snake

/-- Whether the field repeats nodes that its owner also holds under another name. -/
def shared : FieldName → Bool
  | nameAssignee => true
  | boundMembers => true
  | ctor => true
  | _ => false

end FieldName

/-- A part that is not a node. -/
inductive Scalar where
  | str (value : String)
  | int (value : Int)
  | float (value : Binary64)
  | bool (value : Bool)
  deriving DecidableEq, Repr

/-- What a field holds. -/
inductive Field (α : Type) where
  | scalar (value : Scalar)
  | one (part : α)
  | opt (part : Option α)
  | many (parts : List α)

namespace Field

variable {α β : Type}

/-- The parts that the field holds, in order. -/
def parts : Field α → List α
  | scalar _ => []
  | one part => [part]
  | opt part => part.toList
  | many parts => parts

/-- Changes every part. -/
def map (f : α → β) : Field α → Field β
  | scalar value => scalar value
  | one part => one (f part)
  | opt part => opt (part.map f)
  | many parts => many (parts.map f)

@[simp] theorem parts_map (f : α → β) (field : Field α) :
    (field.map f).parts = field.parts.map f := by
  cases field with
  | opt part => cases part <;> rfl
  | _ => rfl

end Field

/-- What a node is, and its parts. -/
inductive Shape (α : Type) where
  | program (body : Option α)
  | block (statements : List α)
  | identifier (data : String)
  | string (data : String)
  | int (data : Int)
  | float (data : Binary64)
  | this
  | bool (data : Bool)
  | null
  | memberAccess (expression : α) (memberName : String)
  | dynamicMemberAccess (expression : α) (indexingExpr : α)
  | functionApplication (callee : α) (arguments : List α)
  | binary (operator : BinaryOperator) (left : α) (right : α)
  | unary (operator : UnaryOperator) (expression : α)
  | assign (assignee : α) (expression : α)
  | objectInitialiser (members : List α)
  | objectInitialiserMember (key : α) (expression : α)
  | arrayInitialiser (members : List α)
  | conditional (condition : α) (consequent : Option α) (alternate : Option α)
  | function (bound : Bool) (body : Option α) (parameters : List α)
  | defaultParam (param : α) (default : α)
  | whileLoop (condition : α) (body : Option α)
  | classDefinition (name : Option α) (nameAssignee : Option α) (body : Option α)
      (boundMembers : List α) (parent : Option α) (ctor : Option α)
  | classConstructor (expression : α)
  | classProtoAssign (assignee : α) (expression : α)
  | switch (expression : Option α) (cases : List α) (alternate : Option α)
  | switchCase (conditions : List α) (consequent : Option α)

namespace Shape

variable {α β : Type}

def kind : Shape α → Kind
  | program _ => .program
  | block _ => .block
  | identifier _ => .identifier
  | string _ => .string
  | int _ => .int
  | float _ => .float
  | this => .this
  | bool _ => .bool
  | null => .null
  | memberAccess _ _ => .memberAccess
  | dynamicMemberAccess _ _ => .dynamicMemberAccess
  | functionApplication _ _ => .functionApplication
  | binary operator _ _ => .binary operator
  | unary operator _ => .unary operator
  | assign _ _ => .assign
  | objectInitialiser _ => .objectInitialiser
  | objectInitialiserMember _ _ => .objectInitialiserMember
  | arrayInitialiser _ => .arrayInitialiser
  | conditional _ _ _ => .conditional
  | function bound _ _ => .function bound
  | defaultParam _ _ => .defaultParam
  | whileLoop _ _ => .whileLoop
  | classDefinition _ _ _ _ _ _ => .classDefinition
  | classConstructor _ => .classConstructor
  | classProtoAssign _ _ => .classProtoAssign
  | switch _ _ _ => .switch
  | switchCase _ _ => .switchCase

/-- The parts of a shape under their names, in the order in which they are written. -/
def fields : Shape α → List (FieldName × Field α)
  | program body => [(.body, .opt body)]
  | block statements => [(.statements, .many statements)]
  | identifier data => [(.data, .scalar (.str data))]
  | string data => [(.data, .scalar (.str data))]
  | int data => [(.data, .scalar (.int data))]
  | float data => [(.data, .scalar (.float data))]
  | this => []
  | bool data => [(.data, .scalar (.bool data))]
  | null => []
  | memberAccess expression memberName =>
    [(.expression, .one expression), (.memberName, .scalar (.str memberName))]
  | dynamicMemberAccess expression indexingExpr =>
    [(.expression, .one expression), (.indexingExpr, .one indexingExpr)]
  | functionApplication callee arguments =>
    [(.function, .one callee), (.arguments, .many arguments)]
  | binary _ left right => [(.left, .one left), (.right, .one right)]
  | unary _ expression => [(.expression, .one expression)]
  | assign assignee expression => [(.assignee, .one assignee), (.expression, .one expression)]
  | objectInitialiser members => [(.members, .many members)]
  | objectInitialiserMember key expression =>
    [(.key, .one key), (.expression, .one expression)]
  | arrayInitialiser members => [(.members, .many members)]
  | conditional condition consequent alternate =>
    [(.condition, .one condition), (.consequent, .opt consequent), (.alternate, .opt alternate)]
  | function _ body parameters => [(.body, .opt body), (.parameters, .many parameters)]
  | defaultParam param default => [(.param, .one param), (.default, .one default)]
  | whileLoop condition body => [(.condition, .one condition), (.body, .opt body)]
  | classDefinition name nameAssignee body boundMembers parent ctor =>
    [(.name, .opt name), (.nameAssignee, .opt nameAssignee), (.body, .opt body),
      (.boundMembers, .many boundMembers), (.parent, .opt parent), (.ctor, .opt ctor)]
  | classConstructor expression => [(.expression, .one expression)]
  | classProtoAssign assignee expression =>
    [(.assignee, .one assignee), (.expression, .one expression)]
  | switch expression cases alternate =>
    [(.expression, .opt expression), (.cases, .many cases), (.alternate, .opt alternate)]
  | switchCase conditions consequent =>
    [(.conditions, .many conditions), (.consequent, .opt consequent)]

/-- All parts of a shape. -/
def children (shape : Shape α) : List α := shape.fields.flatMap (·.2.parts)

/-- The parts of a shape outside of its shared fields. -/
def owned (shape : Shape α) : List α :=
  (shape.fields.filter (!·.1.shared)).flatMap (·.2.parts)

end Shape

/-- A node of the syntax tree. -/
inductive Node where
  | mk (place : Option Place) (shape : Shape Node)

namespace Node

def place : Node → Option Place
  | mk place _ => place

def shape : Node → Shape Node
  | mk _ shape => shape

def kind (n : Node) : Kind := n.shape.kind

/-- Whether the node stands for something that the source does not spell out. -/
def virtual (n : Node) : Bool := n.place.isNone

def range? (n : Node) : Option Range := n.place.map (·.range)

def children (n : Node) : List Node := n.shape.children

def owned (n : Node) : List Node := n.shape.owned

mutual

/-- Rebuilds a tree from its leaves up: `step` turns a place and a shape whose parts are done into
the result for the node. -/
def fold {β : Type} (step : Option Place → Shape β → β) : Node → β
  | mk place shape => step place (foldShape step shape)

def foldShape {β : Type} (step : Option Place → Shape β → β) : Shape Node → Shape β
  | .program body => .program (foldOption step body)
  | .block statements => .block (foldList step statements)
  | .identifier data => .identifier data
  | .string data => .string data
  | .int data => .int data
  | .float data => .float data
  | .this => .this
  | .bool data => .bool data
  | .null => .null
  | .memberAccess expression memberName => .memberAccess (fold step expression) memberName
  | .dynamicMemberAccess expression indexingExpr =>
    .dynamicMemberAccess (fold step expression) (fold step indexingExpr)
  | .functionApplication callee arguments =>
    .functionApplication (fold step callee) (foldList step arguments)
  | .binary operator left right => .binary operator (fold step left) (fold step right)
  | .unary operator expression => .unary operator (fold step expression)
  | .assign assignee expression => .assign (fold step assignee) (fold step expression)
  | .objectInitialiser members => .objectInitialiser (foldList step members)
  | .objectInitialiserMember key expression =>
    .objectInitialiserMember (fold step key) (fold step expression)
  | .arrayInitialiser members => .arrayInitialiser (foldList step members)
  | .conditional condition consequent alternate =>
    .conditional (fold step condition) (foldOption step consequent) (foldOption step alternate)
  | .function bound body parameters =>
    .function bound (foldOption step body) (foldList step parameters)
  | .defaultParam param default => .defaultParam (fold step param) (fold step default)
  | .whileLoop condition body => .whileLoop (fold step condition) (foldOption step body)
  | .classDefinition name nameAssignee body boundMembers parent ctor =>
    .classDefinition (foldOption step name) (foldOption step nameAssignee) (foldOption step body)
      (foldList step boundMembers) (foldOption step parent) (foldOption step ctor)
  | .classConstructor expression => .classConstructor (fold step expression)
  | .classProtoAssign assignee expression =>
    .classProtoAssign (fold step assignee) (fold step expression)
  | .switch expression cases alternate =>
    .switch (foldOption step expression) (foldList step cases) (foldOption step alternate)
  | .switchCase conditions consequent =>
    .switchCase (foldList step conditions) (foldOption step consequent)

def foldOption {β : Type} (step : Option Place → Shape β → β) : Option Node → Option β
  | none => none
  | some node => some (fold step node)

def foldList {β : Type} (step : Option Place → Shape β → β) : List Node → List β
  | [] => []
  | node :: rest => fold step node :: foldList step rest

end

section

variable {β : Type} (step : Option Place → Shape β → β)

theorem foldOption_eq_map (part : Option Node) : foldOption step part = part.map (fold step) := by
  cases part <;> rfl

theorem foldList_eq_map (parts : List Node) : foldList step parts = parts.map (fold step) := by
  induction parts with
  | nil => rfl
  | cons part rest ih => rw [foldList, ih, List.map_cons]

/-- Folding keeps the names of the fields and folds each part. -/
theorem fields_foldShape (shape : Shape Node) :
    (foldShape step shape).fields = shape.fields.map fun entry ↦
      (entry.1, entry.2.map (fold step)) := by
  cases shape <;> simp [foldShape, Shape.fields, Field.map, foldOption_eq_map, foldList_eq_map]

theorem kind_foldShape (shape : Shape Node) : (foldShape step shape).kind = shape.kind := by
  cases shape <;> rfl

theorem children_foldShape (shape : Shape Node) :
    (foldShape step shape).children = shape.children.map (fold step) := by
  simp [Shape.children, fields_foldShape, List.flatMap_map, List.map_flatMap]

end

/-- The sum of the sizes of parts. -/
def total : List Nat → Nat
  | [] => 0
  | n :: rest => n + total rest

theorem total_append (l₁ l₂ : List Nat) : total (l₁ ++ l₂) = total l₁ + total l₂ := by
  induction l₁ with
  | nil => rw [List.nil_append, total, Nat.zero_add]
  | cons n rest ih => rw [List.cons_append, total, total, ih, Nat.add_assoc]

/-- How many nodes the tree has, where a shared node counts at each place that holds it. -/
def size (n : Node) : Nat := n.fold fun _ shape ↦ 1 + total shape.children

theorem size_eq (n : Node) : n.size = 1 + total (n.children.map size) := by
  cases n with
  | mk place shape =>
    rw [size, fold, children_foldShape]
    rfl

end Node

end CoffeeTree
