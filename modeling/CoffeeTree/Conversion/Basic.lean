import CoffeeTree.Conversion.Build
import CoffeeTree.Literal.Number
import CoffeeTree.Literal.Quoted

/-!
# From parse trees to syntax trees

`Convert.expr` converts a node that stands for an expression; it carries the types of the nodes
around it, which an error reports. A block that is empty stands for nothing: where a block is asked
for it becomes no node at all, and where an expression is asked for it is an error.

Several constructs change their form:

* the accesses of a value are folded from left to right, each placed by the hull of the value's base
  and the access alone;
* parentheses vanish, and of a block in them only the first expression counts;
* `unless` reaches the tree as a negation with the location of the whole statement; the negation
  becomes a virtual node;
* an object in the body of a class gives one statement per member: the constructor, an assignment
  to a member of `this`, or an assignment to the prototype.
-/

namespace CoffeeTree.Convert

/-! ### Words and operators -/

def binaryOperator? : String → Option BinaryOperator
  | "+" => some .plus
  | "-" => some .subtract
  | "*" => some .multiply
  | "/" => some .divide
  | "%" => some .rem
  | _ => none

def unaryOperator? : String → Option UnaryOperator
  | "+" => some .plus
  | "-" => some .negate
  | "typeof" => some .typeof
  | "!" => some .not
  | _ => none

/-- The six words for truth values. -/
def truthValue? : String → Option Bool
  | "true" => some true
  | "yes" => some true
  | "on" => some true
  | "false" => some false
  | "no" => some false
  | "off" => some false
  | _ => none

def unrecognized {α : Type} (ancestors : List String) (node : Tree) (cause : Cause) :
    Conversion α :=
  .fail (.unrecognized ⟨node, ancestors, cause⟩)

/-! ### Nodes without recursion -/

/-- A number, `this`, a string or an identifier, tried in this order. -/
def literal (source : Source) (ancestors : List String) (l : Tree.Literal) : Conversion Node :=
  let text := l.value.toList
  if Literal.looksNumeric text then
    match Literal.number? text with
    | none => unrecognized ancestors (.literal l) (.numericLiteral l.value)
    | some (.int n) => Node.build source l.location (.int n)
    | some (.float x) => Node.build source l.location (.float x)
  else if l.value = "this" then Node.build source l.location .this
  else
    match Literal.string? text with
    | some decoded => Node.build source l.location (.string (String.ofList decoded))
    | none => Node.build source l.location (.identifier l.value)

/-- Expands a location if there is one. -/
def expand (f : Location → Except AnchorError Location) :
    Option Location → Conversion (Option Location)
  | none => pure none
  | some loc => do
    let wider ← .ofExcept ((f loc).mapError .ofAnchor)
    pure (some wider)

/-- Applies an operator to operands whose conversions are given. The operator is checked before the
operands are converted. -/
def operation (source : Source) (ancestors : List String) (self : Tree)
    (location : Option Location) (operator : String) (first : Conversion Node)
    (second : Option (Conversion Node)) : Conversion Node :=
  match second with
  | some right =>
    match binaryOperator? operator with
    | none => unrecognized ancestors self (.binaryOperator operator)
    | some op => do
      let l ← first
      let r ← right
      Node.build source location (.binary op l r)
  | none =>
    match unaryOperator? operator with
    | none => unrecognized ancestors self (.unaryOperator operator)
    | some op => do
      let operand ← first
      Node.build source location (.unary op operand)

/-- Whether the condition of an `if` is the negation that `unless` leaves in the tree: it has the
location of the whole statement. -/
def isUnless (statement negation : Option Location) (operator : String) : Bool :=
  operator = "!" && negation.isSome && negation = statement

/-- A statement in the body of a class. The value of a member is kept beside it. -/
structure ClassStatement where
  statement : Node
  value : Option Node

/-- The body of a class: its block, if it is not empty, and the statements in it. -/
structure ClassBody where
  block : Option Node
  statements : List ClassStatement

/-- The statement for a member with a key and a value. -/
def memberStatement (source : Source) (location : Option Location) (key value : Node) :
    Conversion Node :=
  match key.shape with
  | .identifier "constructor" => Node.build source location (.classConstructor value)
  | .string "constructor" => Node.build source location (.classConstructor value)
  | .memberAccess (.mk _ .this) _ => Node.build source location (.assign key value)
  | _ => Node.build source location (.classProtoAssign key value)

def isConstructor (n : Node) : Bool := n.kind = .classConstructor

def isBoundFunction (n : Node) : Bool := n.kind = .function true

/-- The last constructor among the members of a class. -/
def constructorOf (statements : List ClassStatement) : Option Node :=
  ((statements.filter fun s ↦ s.value.isSome && isConstructor s.statement).map
    (·.statement)).getLast?

/-- The members of a class whose values are bound functions. -/
def boundMembers (statements : List ClassStatement) : List Node :=
  (statements.filter fun s ↦ s.value.any isBoundFunction).map (·.statement)

/-! ### The recursion -/

mutual

/-- A node in the place of an expression. -/
def expr (source : Source) (ancestors : List String) : Tree → Conversion Node
  | .value _ base properties => do
    let inner := ancestors ++ ["Value"]
    let start ← expr source inner base
    accesses source inner base.location start properties
  | .literal l => literal source ancestors l
  | .call location callee args => do
    let inner := ancestors ++ ["Call"]
    let function ← expr source inner callee
    let arguments ← exprs source inner args
    Node.build source location (.functionApplication function arguments)
  | .op location operator first second =>
    let inner := ancestors ++ ["Op"]
    operation source ancestors (.op location operator first second) location operator
      (expr source inner first) (operand? source inner second)
  | .assign location target right context => do
    let inner := ancestors ++ ["Assign"]
    let key ← expr source inner target
    let expression ← expr source inner right
    if context = some "object" then
      Node.build source location (.objectInitialiserMember key expression)
    else Node.build source location (.assign key expression)
  | .obj location properties => do
    let members ← objectMembers source (ancestors ++ ["Obj"]) properties
    Node.build source location (.objectInitialiser members)
  | .arr location objects => do
    let members ← exprs source (ancestors ++ ["Arr"]) objects
    Node.build source location (.arrayInitialiser members)
  | .parens location body =>
    match body with
    | .block ⟨_, first :: _⟩ => expr source (ancestors ++ ["Parens", "Block"]) first
    | .block ⟨loc, []⟩ =>
      unrecognized ancestors (.parens location (.block ⟨loc, []⟩)) .emptyParens
    | inner => expr source (ancestors ++ ["Parens"]) inner
  | .ifNode location condition body elseBody => do
    let inner := ancestors ++ ["If"]
    let test ← (negation? source inner location condition).getD (expr source inner condition)
    let consequent ← block? source inner body
    let alternate ← alternative? source inner elseBody
    Node.build source location (.conditional test consequent alternate)
  | .code location params body bound => do
    let inner := ancestors ++ ["Code"]
    let statements ← body? source inner body
    let parameters ← parameters source inner params
    Node.build source location (.function bound statements parameters)
  | .param p => parameter source ancestors p
  | .block b => do
    match ← block? source ancestors b with
    | some node => pure node
    | none => unrecognized ancestors (.block b) .emptyBlock
  | .bool location val =>
    match truthValue? val with
    | some b => Node.build source location (.bool b)
    | none => unrecognized ancestors (.bool location val) (.booleanLiteral val)
  | .null location => Node.build source location .null
  | .whileNode location condition body => do
    let inner := ancestors ++ ["While"]
    let test ← expr source inner condition
    let statements ← block? source inner body
    -- The location of a loop may leave out its body.
    Node.build source (Extent.hull [location, condition.location, body.location])
      (.whileLoop test statements)
  | .classNode location name parent body => do
    let inner := ancestors ++ ["Class"]
    let title ← expr? source inner name
    let members ← classBody source inner body
    let parentNode ← expr? source inner parent
    Node.build source location
      (.classDefinition title title members.block (boundMembers members.statements) parentNode
        (constructorOf members.statements))
  | .switch location subject cases otherwise => do
    let inner := ancestors ++ ["Switch"]
    let branches ← switchCases source inner cases
    let expression ← expr? source inner subject
    let alternate ← body? source inner otherwise
    Node.build source location (.switch expression branches alternate)
  | .access location name => unrecognized ancestors (.access location name) .unknownType
  | .index location i => unrecognized ancestors (.index location i) .unknownType
  | .unknown location type payload =>
    unrecognized ancestors (.unknown location type payload) .unknownType

/-- An expression that may be missing. -/
def expr? (source : Source) (ancestors : List String) : Option Tree → Conversion (Option Node)
  | none => pure none
  | some tree => do
    let node ← expr source ancestors tree
    pure (some node)

/-- The second operand of an operator, not run yet. -/
def operand? (source : Source) (ancestors : List String) : Option Tree → Option (Conversion Node)
  | none => none
  | some tree => some (expr source ancestors tree)

/-- The negation that `unless` leaves as the condition of a statement. It gets no location. -/
def negation? (source : Source) (ancestors : List String) (statement : Option Location) :
    Tree → Option (Conversion Node)
  | .op location operator first second =>
    if isUnless statement location operator then
      some (operation source ancestors (.op location operator first second) none operator
        (expr source (ancestors ++ ["Op"]) first) (operand? source (ancestors ++ ["Op"]) second))
    else none
  | _ => none

def exprs (source : Source) (ancestors : List String) : List Tree → Conversion (List Node)
  | [] => pure []
  | tree :: rest => do
    let node ← expr source ancestors tree
    let nodes ← exprs source ancestors rest
    pure (node :: nodes)

/-- A block of statements, or nothing if it is empty. -/
def block? (source : Source) (ancestors : List String) :
    Tree.Block Tree → Conversion (Option Node)
  | ⟨_, []⟩ => pure none
  | ⟨location, first :: rest⟩ => do
    let inner := ancestors ++ ["Block"]
    let head ← expr source inner first
    let tail ← exprs source inner rest
    let node ← Node.build source location (.block (head :: tail))
    pure (some node)

/-- A block that may be missing. -/
def body? (source : Source) (ancestors : List String) :
    Option (Tree.Block Tree) → Conversion (Option Node)
  | none => pure none
  | some b => block? source ancestors b

/-- The other branch of an `if`: a block, or any other node. -/
def alternative? (source : Source) (ancestors : List String) :
    Option Tree → Conversion (Option Node)
  | none => pure none
  | some (.block b) => block? source ancestors b
  | some other => do
    let node ← expr source ancestors other
    pure (some node)

/-- The accesses that follow `expression`, whose base had the location `base`. -/
def accesses (source : Source) (ancestors : List String) (base : Option Location)
    (expression : Node) : List Tree → Conversion Node
  | [] => pure expression
  | .access location name :: rest => do
    let node ← Node.build source (Extent.hull [base, location])
      (.memberAccess expression name.value)
    accesses source ancestors base node rest
  | .index location i :: rest => do
    let wider ← expand (Location.expandRight source "]") (Extent.hull [base, location])
    let indexing ← expr source (ancestors ++ ["Index"]) i
    let node ← Node.build source wider (.dynamicMemberAccess expression indexing)
    accesses source ancestors base node rest
  | other :: _ => unrecognized ancestors other (.propertyType other.typeName)

/-- The members of an object. A value alone is key and value at once. -/
def objectMembers (source : Source) (ancestors : List String) : List Tree → Conversion (List Node)
  | [] => pure []
  | .value location base properties :: rest => do
    let both ← expr source ancestors (.value location base properties)
    let node ← Node.build source location (.objectInitialiserMember both both)
    let nodes ← objectMembers source ancestors rest
    pure (node :: nodes)
  | other :: rest => do
    let node ← expr source ancestors other
    let nodes ← objectMembers source ancestors rest
    pure (node :: nodes)

def parameter (source : Source) (ancestors : List String) : Tree.Param Tree → Conversion Node
  | ⟨location, name, default⟩ => do
    let inner := ancestors ++ ["Param"]
    let param ← expr source inner name
    match default with
    | none => pure param
    | some value => do
      let fallback ← expr source inner value
      Node.build source location (.defaultParam param fallback)

def parameters (source : Source) (ancestors : List String) :
    List (Tree.Param Tree) → Conversion (List Node)
  | [] => pure []
  | p :: rest => do
    let node ← parameter source ancestors p
    let nodes ← parameters source ancestors rest
    pure (node :: nodes)

def classBody (source : Source) (ancestors : List String) :
    Option (Tree.Block Tree) → Conversion ClassBody
  | none => pure ⟨none, []⟩
  | some ⟨_, []⟩ => pure ⟨none, []⟩
  | some ⟨location, first :: rest⟩ => do
    let statements ← classStatements source (ancestors ++ ["Block"]) (first :: rest)
    let node ← Node.build source location (.block (statements.map (·.statement)))
    pure ⟨some node, statements⟩

/-- The statements of the body of a class. -/
def classStatements (source : Source) (ancestors : List String) :
    List Tree → Conversion (List ClassStatement)
  | [] => pure []
  | .value _ (.obj _ properties) _ :: rest => do
    let members ← classMembers source (ancestors ++ ["Value", "Obj"]) properties
    let statements ← classStatements source ancestors rest
    pure (members ++ statements)
  | other :: rest => do
    let node ← expr source ancestors other
    let statements ← classStatements source ancestors rest
    pure (⟨node, none⟩ :: statements)

/-- The members of an object in the body of a class. -/
def classMembers (source : Source) (ancestors : List String) :
    List Tree → Conversion (List ClassStatement)
  | [] => pure []
  | .value location base properties :: rest => do
    let both ← expr source ancestors (.value location base properties)
    let statement ← memberStatement source location both both
    let statements ← classMembers source ancestors rest
    pure (⟨statement, some both⟩ :: statements)
  | .assign location target right _ :: rest => do
    let inner := ancestors ++ ["Assign"]
    let key ← expr source inner target
    let value ← expr source inner right
    let statement ← memberStatement source location key value
    let statements ← classMembers source ancestors rest
    pure (⟨statement, some value⟩ :: statements)
  | other :: _ => unrecognized ancestors other (.classMemberType other.typeName)

/-- The conditions of a case. -/
def tests (source : Source) (ancestors : List String) :
    Tree.Conditions Tree → Conversion (List Node)
  | .one condition => do
    let node ← expr source ancestors condition
    pure [node]
  | .many conditions => exprs source ancestors conditions

/-- The cases of a switch. The word that opens a case is not part of any location below it. -/
def switchCases (source : Source) (ancestors : List String) :
    List (Tree.Case Tree) → Conversion (List Node)
  | [] => pure []
  | ⟨conditions, body⟩ :: rest => do
    let hull := Extent.hull (conditions.toList.map (·.location) ++ [body.location])
    let wider ← expand (Location.expandLeft source "when ") hull
    let tests ← tests source ancestors conditions
    let consequent ← block? source ancestors body
    let node ← Node.build source wider (.switchCase tests consequent)
    let nodes ← switchCases source ancestors rest
    pure (node :: nodes)

end

end CoffeeTree.Convert
