import CoffeeTree.Json.Basic
import CoffeeTree.Location

/-!
# Parse trees

The tree that a CoffeeScript parser hands over. It follows the parser's own classes: blocks where
the grammar wants a block, literals as member names, parameters in functions. A node of any other
type is kept with its JSON entries as they were, so that it can be reported.

Every node may have a location. `Tree.children` lists the nodes directly below a node in the order
of its fields.
-/

namespace CoffeeTree

/-- A piece of source text: a name, a number or a quoted string. -/
structure Tree.Literal where
  location : Option Location
  value : String
  deriving DecidableEq, Repr

/-- A sequence of expressions. -/
structure Tree.Block (α : Type) where
  location : Option Location
  expressions : List α

/-- A parameter of a function, with its default. -/
structure Tree.Param (α : Type) where
  location : Option Location
  name : α
  value : Option α

/-- The conditions of a case: written alone, or as a list. -/
inductive Tree.Conditions (α : Type) where
  | one (condition : α)
  | many (conditions : List α)

/-- One case of a switch. -/
structure Tree.Case (α : Type) where
  conditions : Tree.Conditions α
  body : Tree.Block α

/-- A node of a parse tree. -/
inductive Tree where
  | access (location : Option Location) (name : Tree.Literal)
  | arr (location : Option Location) (objects : List Tree)
  | assign (location : Option Location) (target : Tree) (value : Tree) (context : Option String)
  | block (block : Tree.Block Tree)
  | bool (location : Option Location) (val : String)
  | call (location : Option Location) (callee : Tree) (args : List Tree)
  | classNode (location : Option Location) (name : Option Tree) (parent : Option Tree)
      (body : Option (Tree.Block Tree))
  | code (location : Option Location) (params : List (Tree.Param Tree))
      (body : Option (Tree.Block Tree)) (bound : Bool)
  | ifNode (location : Option Location) (condition : Tree) (body : Tree.Block Tree)
      (elseBody : Option Tree)
  | index (location : Option Location) (index : Tree)
  | literal (literal : Tree.Literal)
  | null (location : Option Location)
  | obj (location : Option Location) (properties : List Tree)
  | op (location : Option Location) (operator : String) (first : Tree) (second : Option Tree)
  | param (param : Tree.Param Tree)
  | parens (location : Option Location) (body : Tree)
  | switch (location : Option Location) (subject : Option Tree) (cases : List (Tree.Case Tree))
      (otherwise : Option (Tree.Block Tree))
  | value (location : Option Location) (base : Tree) (properties : List Tree)
  | whileNode (location : Option Location) (condition : Tree) (body : Tree.Block Tree)
  /-- A node of a type that is none of the above. -/
  | unknown (location : Option Location) (type : String) (payload : Json.Entries)

namespace Tree

/-- The conditions as a list. -/
def Conditions.toList {α : Type} : Conditions α → List α
  | one condition => [condition]
  | many conditions => conditions

/-- The name of the node's type. -/
def typeName : Tree → String
  | access _ _ => "Access"
  | arr _ _ => "Arr"
  | assign _ _ _ _ => "Assign"
  | block _ => "Block"
  | bool _ _ => "Bool"
  | call _ _ _ => "Call"
  | classNode _ _ _ _ => "Class"
  | code _ _ _ _ => "Code"
  | ifNode _ _ _ _ => "If"
  | index _ _ => "Index"
  | literal _ => "Literal"
  | null _ => "Null"
  | obj _ _ => "Obj"
  | op _ _ _ _ => "Op"
  | param _ => "Param"
  | parens _ _ => "Parens"
  | switch _ _ _ _ => "Switch"
  | value _ _ _ => "Value"
  | whileNode _ _ _ => "While"
  | unknown _ type _ => type

def location : Tree → Option Location
  | access location _ => location
  | arr location _ => location
  | assign location _ _ _ => location
  | block b => b.location
  | bool location _ => location
  | call location _ _ => location
  | classNode location _ _ _ => location
  | code location _ _ _ => location
  | ifNode location _ _ _ => location
  | index location _ => location
  | literal l => l.location
  | null location => location
  | obj location _ => location
  | op location _ _ _ => location
  | param p => p.location
  | parens location _ => location
  | switch location _ _ _ => location
  | value location _ _ => location
  | whileNode location _ _ => location
  | unknown location _ _ => location

/-- The nodes directly below a node. The payload of an unknown node holds no nodes. -/
def children : Tree → List Tree
  | access _ name => [literal name]
  | arr _ objects => objects
  | assign _ target right _ => [target, right]
  | block b => b.expressions
  | bool _ _ => []
  | call _ callee args => callee :: args
  | classNode _ name parent body => name.toList ++ parent.toList ++ (body.map block).toList
  | code _ params body _ => params.map param ++ (body.map block).toList
  | ifNode _ condition body elseBody => condition :: block body :: elseBody.toList
  | index _ i => [i]
  | literal _ => []
  | null _ => []
  | obj _ properties => properties
  | op _ _ first second => first :: second.toList
  | param p => p.name :: p.value.toList
  | parens _ body => [body]
  | switch _ subject cases otherwise =>
    subject.toList ++ cases.flatMap (fun case ↦ case.conditions.toList ++ [block case.body]) ++
      (otherwise.map block).toList
  | value _ base properties => base :: properties
  | whileNode _ condition body => [condition, block body]
  | unknown _ _ _ => []

end Tree

end CoffeeTree
