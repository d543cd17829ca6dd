/-!
# Node kinds

The vocabulary of the syntax tree, in the order in which it is listed to users.
-/

namespace CoffeeTree

/-- The operators between two expressions. -/
inductive BinaryOperator where
  | plus
  | subtract
  | multiply
  | divide
  | rem
  deriving DecidableEq, Repr

/-- The operators in front of one expression. -/
inductive UnaryOperator where
  | plus
  | negate
  | typeof
  | not
  deriving DecidableEq, Repr

/-- The kind of a node. -/
inductive Kind where
  | program
  | block
  | identifier
  | string
  | int
  | float
  | this
  | bool
  | null
  | memberAccess
  | dynamicMemberAccess
  | functionApplication
  | binary (operator : BinaryOperator)
  | unary (operator : UnaryOperator)
  | assign
  | objectInitialiser
  | objectInitialiserMember
  | arrayInitialiser
  | conditional
  | function (bound : Bool)
  | defaultParam
  | whileLoop
  | classDefinition
  | classConstructor
  | classProtoAssign
  | switch
  | switchCase
  deriving DecidableEq, Repr

namespace Kind

/-- The name under which a kind appears in all output. -/
def name : Kind → String
  | program => "Program"
  | block => "Block"
  | identifier => "Identifier"
  | string => "String"
  | int => "Int"
  | float => "Float"
  | this => "This"
  | bool => "Bool"
  | null => "Null"
  | memberAccess => "MemberAccessOp"
  | dynamicMemberAccess => "DynamicMemberAccessOp"
  | functionApplication => "FunctionApplication"
  | binary .plus => "PlusOp"
  | binary .subtract => "SubtractOp"
  | binary .multiply => "MultiplyOp"
  | binary .divide => "DivideOp"
  | binary .rem => "RemOp"
  | unary .plus => "UnaryPlusOp"
  | unary .negate => "UnaryNegateOp"
  | unary .typeof => "TypeofOp"
  | unary .not => "LogicalNotOp"
  | assign => "AssignOp"
  | objectInitialiser => "ObjectInitialiser"
  | objectInitialiserMember => "ObjectInitialiserMember"
  | arrayInitialiser => "ArrayInitialiser"
  | conditional => "Conditional"
  | function false => "Function"
  | function true => "BoundFunction"
  | defaultParam => "DefaultParam"
  | whileLoop => "While"
  | classDefinition => "Class"
  | classConstructor => "Constructor"
  | classProtoAssign => "ClassProtoAssignOp"
  | switch => "Switch"
  | switchCase => "SwitchCase"

/-- Every kind. -/
def all : List Kind :=
  [program, block, identifier, string, int, float, this, bool, null, memberAccess,
    dynamicMemberAccess, functionApplication, binary .plus, binary .subtract, binary .multiply,
    binary .divide, binary .rem, unary .plus, unary .negate, unary .typeof, unary .not, assign,
    objectInitialiser, objectInitialiserMember, arrayInitialiser, conditional, function false,
    function true, defaultParam, whileLoop, classDefinition, classConstructor, classProtoAssign,
    switch, switchCase]

end Kind

end CoffeeTree
