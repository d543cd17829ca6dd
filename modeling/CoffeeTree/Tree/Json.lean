import CoffeeTree.Tree.Basic

/-!
# The JSON form of a parse tree

An object per node: its type, its location, then its fields under their names in the format, with
null for what is absent. An unknown node gives back its entries as they were.
-/

namespace CoffeeTree

/-- A location under the names that the format uses. -/
def Location.toJson (loc : Location) : Json :=
  .obj [("first_line", .int loc.first.line), ("first_column", .int loc.first.column),
    ("last_line", .int loc.last.line), ("last_column", .int loc.last.column)]

namespace Tree

/-- A node's type and location in front of its fields. -/
def object (type : String) (location : Option Location) (fields : Json.Entries) : Json :=
  .obj (("type", .str type) ::
    ("locationData", (location.map Location.toJson).getD .null) :: fields)

def Literal.toJson (l : Literal) : Json := object "Literal" l.location [("value", .str l.value)]

def textOrNull (text : Option String) : Json := (text.map Json.str).getD .null

mutual

/-- The JSON form of a node. -/
def toJson : Tree → Json
  | access location name => object "Access" location [("name", name.toJson)]
  | arr location objects => object "Arr" location [("objects", .arr (toJsonList objects))]
  | assign location target right context =>
    object "Assign" location
      [("variable", toJson target), ("value", toJson right), ("context", textOrNull context)]
  | block b => blockToJson b
  | bool location val => object "Bool" location [("val", .str val)]
  | call location callee args =>
    object "Call" location [("variable", toJson callee), ("args", .arr (toJsonList args))]
  | classNode location name parent body =>
    object "Class" location
      [("variable", optionToJson name), ("parent", optionToJson parent),
        ("body", blockOptionToJson body)]
  | code location params body bound =>
    object "Code" location
      [("params", .arr (paramsToJson params)), ("body", blockOptionToJson body),
        ("bound", .bool bound)]
  | ifNode location condition body elseBody =>
    object "If" location
      [("condition", toJson condition), ("body", blockToJson body),
        ("elseBody", optionToJson elseBody)]
  | index location i => object "Index" location [("index", toJson i)]
  | literal l => l.toJson
  | null location => object "Null" location []
  | obj location properties =>
    object "Obj" location [("properties", .arr (toJsonList properties))]
  | op location operator first second =>
    object "Op" location
      [("operator", .str operator), ("first", toJson first), ("second", optionToJson second)]
  | param p => paramToJson p
  | parens location body => object "Parens" location [("body", toJson body)]
  | switch location subject cases otherwise =>
    object "Switch" location
      [("subject", optionToJson subject), ("cases", .arr (casesToJson cases)),
        ("otherwise", blockOptionToJson otherwise)]
  | value location base properties =>
    object "Value" location [("base", toJson base), ("properties", .arr (toJsonList properties))]
  | whileNode location condition body =>
    object "While" location [("condition", toJson condition), ("body", blockToJson body)]
  | unknown location type payload =>
    .obj (("type", .str type) ::
      ((location.map fun loc ↦ ("locationData", loc.toJson)).toList ++ payload))

def toJsonList : List Tree → List Json
  | [] => []
  | tree :: rest => toJson tree :: toJsonList rest

def optionToJson : Option Tree → Json
  | none => .null
  | some tree => toJson tree

def blockToJson : Block Tree → Json
  | ⟨location, expressions⟩ =>
    object "Block" location [("expressions", .arr (toJsonList expressions))]

def blockOptionToJson : Option (Block Tree) → Json
  | none => .null
  | some b => blockToJson b

def paramToJson : Param Tree → Json
  | ⟨location, name, default⟩ =>
    object "Param" location [("name", toJson name), ("value", optionToJson default)]

def paramsToJson : List (Param Tree) → List Json
  | [] => []
  | p :: rest => paramToJson p :: paramsToJson rest

def conditionsToJson : Conditions Tree → Json
  | .one condition => toJson condition
  | .many conditions => .arr (toJsonList conditions)

def caseToJson : Case Tree → Json
  | ⟨conditions, body⟩ => .arr [conditionsToJson conditions, blockToJson body]

def casesToJson : List (Case Tree) → List Json
  | [] => []
  | case :: rest => caseToJson case :: casesToJson rest

end

end Tree

end CoffeeTree
