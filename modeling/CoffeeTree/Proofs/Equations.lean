import CoffeeTree.Conversion.Program

/-!
# Equations of the converter

One equation for each kind of node, so that a proof about the converter follows its steps and never
opens the recursion. Two kinds of choice are made explicit on the way:

* where the converter decides between shapes, the shape is decided first and built then
  (`literalShape`, `boolShape`, `assignShape`, `memberShape`);
* where it asks for one kind of node and treats all others alike, a view of the node answers
  (`objectMember`, `classObject?`), and the equations need no list of the other kinds.
-/

namespace CoffeeTree

namespace Convert

/-! ### Shapes that are decided first -/

/-- Builds a shape that was decided on, or tells why there is none. -/
def buildOr (source : Source) (ancestors : List String) (self : Tree)
    (location : Option Location) : Except Cause (Shape Node) → Conversion Node
  | .ok shape => Node.build source location shape
  | .error cause => unrecognized ancestors self cause

/-- What a literal is, which its text alone decides. -/
def literalShape (value : String) : Except Cause (Shape Node) :=
  let text := value.toList
  if Literal.looksNumeric text then
    match Literal.number? text with
    | none => .error (.numericLiteral value)
    | some (.int n) => .ok (.int n)
    | some (.float x) => .ok (.float x)
  else if value = "this" then .ok .this
  else
    match Literal.string? text with
    | some decoded => .ok (.string (String.ofList decoded))
    | none => .ok (.identifier value)

/-- A literal is built from the shape that its text decides. -/
theorem literal_eq (source : Source) (ancestors : List String) (l : Tree.Literal) :
    literal source ancestors l =
      buildOr source ancestors (.literal l) l.location (literalShape l.value) := by
  rw [literal, literalShape]
  by_cases hnumeric : Literal.looksNumeric l.value.toList = true
  · rw [if_pos hnumeric, if_pos hnumeric]
    cases Literal.number? l.value.toList with
    | none => rfl
    | some number => cases number <;> rfl
  · rw [if_neg hnumeric, if_neg hnumeric]
    by_cases hthis : l.value = "this"
    · rw [if_pos hthis, if_pos hthis]
      rfl
    · rw [if_neg hthis, if_neg hthis]
      cases Literal.string? l.value.toList <;> rfl

/-- What a word for a truth value is. -/
def boolShape (val : String) : Except Cause (Shape Node) :=
  match truthValue? val with
  | some b => .ok (.bool b)
  | none => .error (.booleanLiteral val)

/-- A member of an object, or an assignment. -/
def assignShape (context : Option String) (key expression : Node) : Shape Node :=
  if context = some "object" then .objectInitialiserMember key expression
  else .assign key expression

/-- Whether a key is the name of the constructor. -/
def namesConstructor : Shape Node → Bool
  | .identifier data => data = "constructor"
  | .string data => data = "constructor"
  | _ => false

/-- Whether a key is a member of `this`. -/
def isThisMember : Shape Node → Bool
  | .memberAccess expression _ => expression.kind = .this
  | _ => false

/-- The statement for a member of a class. -/
def memberShape (key value : Node) : Shape Node :=
  if namesConstructor key.shape then .classConstructor value
  else if isThisMember key.shape then .assign key value
  else .classProtoAssign key value

/-- A member is built from the shape that its key decides. -/
theorem memberStatement_eq (source : Source) (location : Option Location) (key value : Node) :
    memberStatement source location key value =
      Node.build source location (memberShape key value) := by
  rw [memberStatement, memberShape]
  split
  · rename_i hkey
    rw [hkey, if_pos (by rfl)]
  · rename_i hkey
    rw [hkey, if_pos (by rfl)]
  · rename_i hkey
    rw [hkey, if_neg (by exact Bool.false_ne_true), if_pos (by rfl)]
  · rename_i hidentifier hstring hmember
    -- No constructor, whichever of the two kinds of names the key is.
    have hname : namesConstructor key.shape = false := by
      cases hkey : key.shape with
      | identifier data =>
        exact decide_eq_false fun hdata ↦ hidentifier (by rw [hkey, hdata])
      | string data => exact decide_eq_false fun hdata ↦ hstring (by rw [hkey, hdata])
      | _ => rfl
    have hthis : isThisMember key.shape = false := by
      cases hkey : key.shape with
      | memberAccess expression memberName =>
        obtain ⟨place, shape⟩ := expression
        cases shape with
        | this => exact absurd hkey (hmember place memberName)
        | _ => rfl
      | _ => rfl
    rw [hname, hthis, if_neg Bool.false_ne_true, if_neg Bool.false_ne_true]

section

variable (source : Source) (ancestors : List String)

/-! ### Expressions -/

/-- A value is its base, with the accesses folded around it. -/
theorem expr_value (location : Option Location) (base : Tree) (properties : List Tree) :
    expr source ancestors (.value location base properties) = (do
      let start ← expr source (ancestors ++ ["Value"]) base
      accesses source (ancestors ++ ["Value"]) base.location start properties) :=
  rfl

theorem expr_literal (l : Tree.Literal) :
    expr source ancestors (.literal l) =
      buildOr source ancestors (.literal l) l.location (literalShape l.value) :=
  literal_eq source ancestors l

theorem expr_call (location : Option Location) (callee : Tree) (args : List Tree) :
    expr source ancestors (.call location callee args) = (do
      let function ← expr source (ancestors ++ ["Call"]) callee
      let arguments ← exprs source (ancestors ++ ["Call"]) args
      Node.build source location (.functionApplication function arguments)) :=
  rfl

/-- The operands are passed on as conversions: whether they run is up to the operator. -/
theorem expr_op (location : Option Location) (operator : String) (first : Tree)
    (second : Option Tree) :
    expr source ancestors (.op location operator first second) =
      operation source ancestors (.op location operator first second) location operator
        (expr source (ancestors ++ ["Op"]) first) (operand? source (ancestors ++ ["Op"]) second) :=
  rfl

theorem expr_assign (location : Option Location) (target right : Tree)
    (context : Option String) :
    expr source ancestors (.assign location target right context) = (do
      let key ← expr source (ancestors ++ ["Assign"]) target
      let expression ← expr source (ancestors ++ ["Assign"]) right
      Node.build source location (assignShape context key expression)) := by
  show (do
    let key ← expr source (ancestors ++ ["Assign"]) target
    let expression ← expr source (ancestors ++ ["Assign"]) right
    if context = some "object" then
      Node.build source location (.objectInitialiserMember key expression)
    else Node.build source location (.assign key expression)) = _
  by_cases hobject : context = some "object"
  · simp only [assignShape, if_pos hobject]
  · simp only [assignShape, if_neg hobject]

theorem expr_obj (location : Option Location) (properties : List Tree) :
    expr source ancestors (.obj location properties) = (do
      let members ← objectMembers source (ancestors ++ ["Obj"]) properties
      Node.build source location (.objectInitialiser members)) :=
  rfl

theorem expr_arr (location : Option Location) (objects : List Tree) :
    expr source ancestors (.arr location objects) = (do
      let members ← exprs source (ancestors ++ ["Arr"]) objects
      Node.build source location (.arrayInitialiser members)) :=
  rfl

/-- Of a block in parentheses only the first expression counts. -/
theorem expr_parens_cons (location inner : Option Location) (first : Tree) (rest : List Tree) :
    expr source ancestors (.parens location (.block ⟨inner, first :: rest⟩)) =
      expr source (ancestors ++ ["Parens", "Block"]) first :=
  rfl

/-- Parentheses around anything else vanish. -/
theorem expr_parens_of_not_block (location : Option Location) {body : Tree}
    (hbody : ∀ b, body ≠ .block b) :
    expr source ancestors (.parens location body) =
      expr source (ancestors ++ ["Parens"]) body := by
  cases body with
  | block b => exact absurd rfl (hbody b)
  | _ => rfl

/-- The negation of an `unless` is taken out of the condition before the condition is converted. -/
theorem expr_ifNode (location : Option Location) (condition : Tree) (body : Tree.Block Tree)
    (elseBody : Option Tree) :
    expr source ancestors (.ifNode location condition body elseBody) = (do
      let test ← (negation? source (ancestors ++ ["If"]) location condition).getD
        (expr source (ancestors ++ ["If"]) condition)
      let consequent ← block? source (ancestors ++ ["If"]) body
      let alternate ← alternative? source (ancestors ++ ["If"]) elseBody
      Node.build source location (.conditional test consequent alternate)) :=
  rfl

/-- The body of a function is converted before its parameters. -/
theorem expr_code (location : Option Location) (params : List (Tree.Param Tree))
    (body : Option (Tree.Block Tree)) (bound : Bool) :
    expr source ancestors (.code location params body bound) = (do
      let statements ← body? source (ancestors ++ ["Code"]) body
      let parameters ← parameters source (ancestors ++ ["Code"]) params
      Node.build source location (.function bound statements parameters)) :=
  rfl

/-- A block is an expression if it is not empty. -/
theorem expr_block (b : Tree.Block Tree) :
    expr source ancestors (.block b) = (do
      match ← block? source ancestors b with
      | some node => pure node
      | none => unrecognized ancestors (.block b) .emptyBlock) :=
  rfl

theorem expr_bool (location : Option Location) (val : String) :
    expr source ancestors (.bool location val) =
      buildOr source ancestors (.bool location val) location (boolShape val) := by
  show (match truthValue? val with
    | some b => Node.build source location (.bool b)
    | none => unrecognized ancestors (.bool location val) (.booleanLiteral val)) = _
  rw [boolShape]
  cases truthValue? val <;> rfl

theorem expr_null (location : Option Location) :
    expr source ancestors (.null location) = Node.build source location .null :=
  rfl

/-- A loop spans its condition and its body, which may be the wider ones. -/
theorem expr_whileNode (location : Option Location) (condition : Tree) (body : Tree.Block Tree) :
    expr source ancestors (.whileNode location condition body) = (do
      let test ← expr source (ancestors ++ ["While"]) condition
      let statements ← block? source (ancestors ++ ["While"]) body
      Node.build source (Extent.hull [location, condition.location, body.location])
        (.whileLoop test statements)) :=
  rfl

/-- The name of a class appears twice, and its constructor and bound members appear in the body as
well. -/
theorem expr_classNode (location : Option Location) (name parent : Option Tree)
    (body : Option (Tree.Block Tree)) :
    expr source ancestors (.classNode location name parent body) = (do
      let title ← expr? source (ancestors ++ ["Class"]) name
      let members ← classBody source (ancestors ++ ["Class"]) body
      let parentNode ← expr? source (ancestors ++ ["Class"]) parent
      Node.build source location
        (.classDefinition title title members.block (boundMembers members.statements) parentNode
          (constructorOf members.statements))) :=
  rfl

/-- The cases are converted before the subject. -/
theorem expr_switch (location : Option Location) (subject : Option Tree)
    (cases : List (Tree.Case Tree)) (otherwise : Option (Tree.Block Tree)) :
    expr source ancestors (.switch location subject cases otherwise) = (do
      let branches ← switchCases source (ancestors ++ ["Switch"]) cases
      let expression ← expr? source (ancestors ++ ["Switch"]) subject
      let alternate ← body? source (ancestors ++ ["Switch"]) otherwise
      Node.build source location (.switch expression branches alternate)) :=
  rfl

/-! ### Parts of expressions -/

theorem exprs_cons (tree : Tree) (rest : List Tree) :
    exprs source ancestors (tree :: rest) = (do
      let node ← expr source ancestors tree
      let nodes ← exprs source ancestors rest
      pure (node :: nodes)) :=
  rfl

theorem block?_cons (location : Option Location) (first : Tree) (rest : List Tree) :
    block? source ancestors ⟨location, first :: rest⟩ = (do
      let head ← expr source (ancestors ++ ["Block"]) first
      let tail ← exprs source (ancestors ++ ["Block"]) rest
      let node ← Node.build source location (.block (head :: tail))
      pure (some node)) :=
  rfl

/-- An access spans what it is an access to. -/
theorem accesses_access (base : Option Location) (expression : Node)
    (location : Option Location) (name : Tree.Literal) (rest : List Tree) :
    accesses source ancestors base expression (.access location name :: rest) = (do
      let node ← Node.build source (Extent.hull [base, location])
        (.memberAccess expression name.value)
      accesses source ancestors base node rest) :=
  rfl

/-- So does an index, up to its closing bracket. The index is converted after the bracket is found.
-/
theorem accesses_index (base : Option Location) (expression : Node)
    (location : Option Location) (i : Tree) (rest : List Tree) :
    accesses source ancestors base expression (.index location i :: rest) = (do
      let wider ← expand (Location.expandRight source "]") (Extent.hull [base, location])
      let indexing ← expr source (ancestors ++ ["Index"]) i
      let node ← Node.build source wider (.dynamicMemberAccess expression indexing)
      accesses source ancestors base node rest) :=
  rfl

/-- A parameter with a default is a node of its own. -/
theorem parameter_some (location : Option Location) (name value : Tree) :
    parameter source ancestors ⟨location, name, some value⟩ = (do
      let param ← expr source (ancestors ++ ["Param"]) name
      let fallback ← expr source (ancestors ++ ["Param"]) value
      Node.build source location (.defaultParam param fallback)) :=
  rfl

theorem parameters_cons (p : Tree.Param Tree) (rest : List (Tree.Param Tree)) :
    parameters source ancestors (p :: rest) = (do
      let node ← parameter source ancestors p
      let nodes ← parameters source ancestors rest
      pure (node :: nodes)) :=
  rfl

/-- A case spans its conditions and its body, from the word `when` on. -/
theorem switchCases_cons (conditions : Tree.Conditions Tree) (body : Tree.Block Tree)
    (rest : List (Tree.Case Tree)) :
    switchCases source ancestors (⟨conditions, body⟩ :: rest) = (do
      let wider ← expand (Location.expandLeft source "when ")
        (Extent.hull (conditions.toList.map (·.location) ++ [body.location]))
      let tests ← tests source ancestors conditions
      let consequent ← block? source ancestors body
      let node ← Node.build source wider (.switchCase tests consequent)
      let nodes ← switchCases source ancestors rest
      pure (node :: nodes)) :=
  rfl

theorem alternative?_some (tree : Tree) :
    alternative? source ancestors (some tree) = node? source ancestors tree := by
  cases tree <;> rfl

/-- A branch that is no block is an expression. -/
theorem node?_of_not_block {tree : Tree} (htree : ∀ b, tree ≠ .block b) :
    node? source ancestors tree = (do
      let node ← expr source ancestors tree
      pure (some node)) := by
  cases tree with
  | block b => exact absurd rfl (htree b)
  | _ => rfl

/-- The member of an object for a property that was converted. A value alone is key and value. -/
def objectMember (tree : Tree) (node : Node) : Conversion Node :=
  match tree with
  | .value location _ _ => Node.build source location (.objectInitialiserMember node node)
  | _ => pure node

/-- A member is wrapped up after it was converted. -/
theorem objectMembers_cons (tree : Tree) (rest : List Tree) :
    objectMembers source ancestors (tree :: rest) = (do
      let node ← expr source ancestors tree
      let member ← objectMember source tree node
      let members ← objectMembers source ancestors rest
      pure (member :: members)) := by
  cases tree <;> rfl

/-! ### Bodies of classes -/

/-- A value alone is both the key and the value of a member. -/
theorem classMembers_value (location : Option Location) (base : Tree)
    (properties rest : List Tree) :
    classMembers source ancestors (.value location base properties :: rest) = (do
      let both ← expr source ancestors (.value location base properties)
      let statement ← Node.build source location (memberShape both both)
      let statements ← classMembers source ancestors rest
      pure (⟨statement, some both⟩ :: statements)) := by
  simp only [← memberStatement_eq]
  rfl

/-- Key and value are converted below the assignment, and the assignment itself is not. -/
theorem classMembers_assign (location : Option Location) (target right : Tree)
    (context : Option String) (rest : List Tree) :
    classMembers source ancestors (.assign location target right context :: rest) = (do
      let key ← expr source (ancestors ++ ["Assign"]) target
      let value ← expr source (ancestors ++ ["Assign"]) right
      let statement ← Node.build source location (memberShape key value)
      let statements ← classMembers source ancestors rest
      pure (⟨statement, some value⟩ :: statements)) := by
  simp only [← memberStatement_eq]
  rfl

theorem classBody_cons (location : Option Location) (first : Tree) (rest : List Tree) :
    classBody source ancestors (some ⟨location, first :: rest⟩) = (do
      let statements ← classStatements source (ancestors ++ ["Block"]) (first :: rest)
      let node ← Node.build source location (.block (statements.map (·.statement)))
      pure ⟨some node, statements⟩) :=
  rfl

/-- The properties of an object that stands as a statement. -/
def classObject? : Tree → Option (List Tree)
  | .value _ (.obj _ properties) _ => some properties
  | _ => none

/-- An object that stands as a statement may have accesses behind it. -/
theorem exists_of_classObject? {tree : Tree} {properties : List Tree}
    (h : classObject? tree = some properties) :
    ∃ location inner accesses, tree = .value location (.obj inner properties) accesses := by
  cases tree with
  | value location base accesses =>
    cases base with
    | obj inner list =>
      obtain rfl : list = properties := Option.some.inj h
      exact ⟨location, inner, accesses, rfl⟩
    | _ => exact absurd h (by exact Option.some_ne_none _ ∘ Eq.symm)
  | _ => exact absurd h (by exact Option.some_ne_none _ ∘ Eq.symm)

/-- An object in the body of a class gives its members. -/
theorem classStatements_object {tree : Tree} {properties : List Tree}
    (h : classObject? tree = some properties) (rest : List Tree) :
    classStatements source ancestors (tree :: rest) = (do
      let members ← classMembers source (ancestors ++ ["Value", "Obj"]) properties
      let statements ← classStatements source ancestors rest
      pure (members ++ statements)) := by
  obtain ⟨location, inner, accesses, rfl⟩ := exists_of_classObject? h
  rfl

/-- Anything else gives one statement, without a value to keep. -/
theorem classStatements_of_not_object {tree : Tree} (h : classObject? tree = none)
    (rest : List Tree) :
    classStatements source ancestors (tree :: rest) = (do
      let node ← expr source ancestors tree
      let statements ← classStatements source ancestors rest
      pure (⟨node, none⟩ :: statements)) := by
  cases tree with
  | value location base accesses =>
    cases base with
    | obj inner properties => exact absurd h (Option.some_ne_none _)
    | _ => rfl
  | _ => rfl

end

/-! ### Whole programs -/

/-- The body of a program. Unlike other blocks it is a node also when it is empty. -/
def programBody (source : Source) (root : Tree.Block Tree) : Conversion Node := do
  let statements ← exprs source ["Block"] root.expressions
  Node.build source root.location (.block statements)

/-- On a source that is not empty the program has a body, and spans the whole source. -/
theorem program_of_ne_nil {source : Source} (h : source.text ≠ []) (root : Tree.Block Tree) :
    program source root = (do
      let body ← programBody source root
      Node.build source (some (wholeLocation source)) (.program (some body))) := by
  have hempty : ¬ source.text.isEmpty = true := fun he ↦ h (List.isEmpty_iff.1 he)
  rw [program, if_neg hempty, programBody, Traced.bind_assoc]

end Convert

end CoffeeTree
