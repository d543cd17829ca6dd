import CoffeeTree.Json.Path
import CoffeeTree.Json.Reader
import CoffeeTree.Traced
import CoffeeTree.Tree.Basic

/-!
# Loading parse trees

A parse tree comes as a JSON value. Loading checks it against the format and stops at the first
offence, in a fixed order: the type of a node, then its location, then its fields in the order of
its class, each depth first. A field that is absent and one that is null are the same.

Nodes of unknown types are kept, and each is recorded as an event with its path.

The recursion has one place, `Tree.loadNode`: the loaders for fields take the loader for nodes as an
argument, and may hand to it only values that are smaller than the entries of the node.
-/

namespace CoffeeTree.Tree

/-- What the format asks of a place. -/
inductive Requirement where
  | nodeObject
  | typeName
  | locationObject
  | coordinate
  /-- The field has to be there in nodes of a type. -/
  | required (type : String)
  | array
  | boolean
  | string
  | casePairs
  | casePair
  /-- A node of one type is asked for, and a node of another type was found. -/
  | nodeOfType (type found : String)
  deriving DecidableEq, Repr

def Requirement.text : Requirement → String
  | nodeObject => "must be a node object"
  | typeName => "must be a non-empty string"
  | locationObject => "must be an object"
  | coordinate => "must be a non-negative integer"
  | required type => s!"is required for `{type}` nodes"
  | array => "must be an array"
  | boolean => "must be a boolean"
  | string => "must be a string"
  | casePairs => "must be an array of [conditions, body] pairs"
  | casePair => "must be a [conditions, body] pair"
  | nodeOfType type found => s!"must be a `{type}` node, got `{found}`"

/-- Why a tree could not be loaded. -/
inductive FormatError where
  | notJson (error : Json.SyntaxError)
  | violated (path : Json.Path) (requirement : Requirement)
  | rootType (found : String)
  deriving DecidableEq, Repr

def FormatError.message : FormatError → String
  | notJson error => "upstream tree is not valid JSON: " ++ error.message
  | violated path requirement => s!"`{path.text}` {requirement.text}"
  | rootType found => s!"upstream root must be a `Block`, got `{found}`"

/-- A node of an unknown type that was kept. -/
structure Unsupported where
  type : String
  path : Json.Path
  deriving DecidableEq, Repr

/-- Loading records the unknown nodes that it keeps. -/
abbrev Load := Traced Unsupported FormatError

def violation {α : Type} (path : Json.Path) (requirement : Requirement) : Load α :=
  .fail (.violated path requirement)

/-! ### Sizes

The parts of a value are smaller than the value. -/

theorem sizeOf_entry_lt (k : String) (v : Json) (rest : Json.Entries) :
    sizeOf v < sizeOf ((k, v) :: rest) := by
  simp only [List.cons.sizeOf_spec, Prod.mk.sizeOf_spec]
  omega

theorem sizeOf_entries_lt (entry : String × Json) (rest : Json.Entries) :
    sizeOf rest < sizeOf (entry :: rest) := by
  simp only [List.cons.sizeOf_spec]
  omega

theorem lt_sizeOf_obj {entries : Json.Entries} {n : Nat} (h : n < sizeOf entries) :
    n < sizeOf (Json.obj entries) := by
  simp only [Json.obj.sizeOf_spec]
  omega

theorem sizeOf_items_lt {values : List Json} {n : Nat} (h : sizeOf (Json.arr values) < n) :
    sizeOf values < n := by
  simp only [Json.arr.sizeOf_spec] at h
  omega

theorem sizeOf_head_lt {v : Json} {rest : List Json} {n : Nat} (h : sizeOf (v :: rest) < n) :
    sizeOf v < n := by
  simp only [List.cons.sizeOf_spec] at h
  omega

theorem sizeOf_tail_lt {v : Json} {rest : List Json} {n : Nat} (h : sizeOf (v :: rest) < n) :
    sizeOf rest < n := by
  simp only [List.cons.sizeOf_spec] at h
  omega

/-! ### Types and locations -/

/-- The value of a key that is there and not null. It is smaller than the entries. -/
def present? (key : String) :
    (entries : Json.Entries) → Option { value : Json // sizeOf value < sizeOf entries }
  | [] => none
  | (k, v) :: rest =>
    if k = key then
      match v with
      | .null => none
      | there => some ⟨there, sizeOf_entry_lt k there rest⟩
    else
      (present? key rest).map fun found ↦
        ⟨found.1, Nat.lt_trans found.2 (sizeOf_entries_lt (k, v) rest)⟩

/-- The type of a node: a string that is not empty. -/
def loadType (path : Json.Path) (entries : Json.Entries) : Load String :=
  match Json.Entries.get? "type" entries with
  | some (.str type) =>
    if type.isEmpty then violation (path ++ [.key "type"]) .typeName else pure type
  | _ => violation (path ++ [.key "type"]) .typeName

/-- A line or a column. -/
def loadCoordinate (path : Json.Path) (entries : Json.Entries) (key : String) : Load Nat :=
  match Json.Entries.get? key entries with
  | some (.int n) =>
    if 0 ≤ n then pure n.toNat else violation (path ++ [.key key]) .coordinate
  | _ => violation (path ++ [.key key]) .coordinate

/-- The location of a node, which may be missing. -/
def loadLocation (path : Json.Path) (entries : Json.Entries) : Load (Option Location) :=
  let here := path ++ [.key "locationData"]
  match Json.Entries.get? "locationData" entries with
  | none => pure none
  | some .null => pure none
  | some (.obj fields) => do
    let firstLine ← loadCoordinate here fields "first_line"
    let firstColumn ← loadCoordinate here fields "first_column"
    let lastLine ← loadCoordinate here fields "last_line"
    let lastColumn ← loadCoordinate here fields "last_column"
    pure (some ⟨⟨firstLine, firstColumn⟩, ⟨lastLine, lastColumn⟩⟩)
  | some _ => violation here .locationObject

/-! ### Fields -/

/-- A loader for the values inside the entries of a node. -/
abbrev Loader (entries : Json.Entries) (α : Type) :=
  Json.Path → (value : Json) → sizeOf value < sizeOf entries → Load α

namespace Loader

variable {entries : Json.Entries} {α : Type}

def string : Loader entries String := fun path value _ ↦
  match value with
  | .str text => pure text
  | _ => violation path .string

def boolean : Loader entries Bool := fun path value _ ↦
  match value with
  | .bool b => pure b
  | _ => violation path .boolean

/-- A node that has to be a block. -/
def block (node : Loader entries Tree) : Loader entries (Block Tree) := fun path value h ↦ do
  match ← node path value h with
  | .block b => pure b
  | other => violation path (.nodeOfType "Block" other.typeName)

/-- A node that has to be a literal. -/
def literal (node : Loader entries Tree) : Loader entries Literal := fun path value h ↦ do
  match ← node path value h with
  | .literal l => pure l
  | other => violation path (.nodeOfType "Literal" other.typeName)

/-- A node that has to be a parameter. -/
def param (node : Loader entries Tree) : Loader entries (Param Tree) := fun path value h ↦ do
  match ← node path value h with
  | .param p => pure p
  | other => violation path (.nodeOfType "Param" other.typeName)

/-- The items of an array from the one with index `i` on. -/
def items (item : Loader entries α) (path : Json.Path) (i : Nat) :
    (values : List Json) → sizeOf values < sizeOf entries → Load (List α)
  | [], _ => pure []
  | v :: rest, h => do
    let first ← item (path ++ [.index i]) v (sizeOf_head_lt h)
    let others ← items item path (i + 1) rest (sizeOf_tail_lt h)
    pure (first :: others)

def array (item : Loader entries α) : Loader entries (List α) := fun path value h ↦
  match value with
  | .arr values => items item path 0 values (sizeOf_items_lt h)
  | _ => violation path .array

/-- The conditions of a case: an array of nodes, or one node. -/
def conditions (node : Loader entries Tree) : Loader entries (Conditions Tree) := fun path value h ↦
  match value with
  | .arr values => do
    let trees ← items node path 0 values (sizeOf_items_lt h)
    pure (.many trees)
  | single => do
    let tree ← node path single h
    pure (.one tree)

/-- A case: a pair of conditions and a block. -/
def case (node : Loader entries Tree) : Loader entries (Case Tree) := fun path value h ↦
  match value with
  | .arr [first, second] => do
    let tests ← conditions node (path ++ [.index 0]) first (sizeOf_head_lt (sizeOf_items_lt h))
    let body ← block node (path ++ [.index 1]) second
      (sizeOf_head_lt (sizeOf_tail_lt (sizeOf_items_lt h)))
    pure ⟨tests, body⟩
  | _ => violation path .casePair

def cases (node : Loader entries Tree) : Loader entries (List (Case Tree)) := fun path value h ↦
  match value with
  | .arr values => items (case node) path 0 values (sizeOf_items_lt h)
  | _ => violation path .casePairs

end Loader

/-- Where a node stands and what is known of it when its fields are loaded. -/
structure Context where
  path : Json.Path
  type : String
  entries : Json.Entries

namespace Context

variable {α : Type}

/-- A field that has to be there. -/
def required (c : Context) (key : String) (load : Loader c.entries α) : Load α :=
  match present? key c.entries with
  | none => violation (c.path ++ [.key key]) (.required c.type)
  | some ⟨found, h⟩ => load (c.path ++ [.key key]) found h

/-- A field that may be missing. -/
def optional (c : Context) (key : String) (load : Loader c.entries α) :
    Load (Option α) :=
  match present? key c.entries with
  | none => pure none
  | some ⟨found, h⟩ => do
    let loaded ← load (c.path ++ [.key key]) found h
    pure (some loaded)

/-- An array that is empty when it is missing. -/
def list (c : Context) (key : String) (load : Loader c.entries (List α)) :
    Load (List α) := do
  let loaded ← c.optional key load
  pure (loaded.getD [])

end Context

/-- The entries of a node apart from its type and its location. -/
def payload (entries : Json.Entries) : Json.Entries :=
  entries.filter fun entry ↦ entry.1 ≠ "type" && entry.1 ≠ "locationData"

/-- A node whose type and location are known. -/
def loadFields (c : Context) (location : Option Location) (node : Loader c.entries Tree) :
    Load Tree :=
  match c.type with
  | "Access" => do
    let name ← c.required "name" (.literal node)
    pure (.access location name)
  | "Arr" => do
    let objects ← c.list "objects" (.array node)
    pure (.arr location objects)
  | "Assign" => do
    let target ← c.required "variable" node
    let right ← c.required "value" node
    let context ← c.optional "context" .string
    pure (.assign location target right context)
  | "Block" => do
    let expressions ← c.list "expressions" (.array node)
    pure (.block ⟨location, expressions⟩)
  | "Bool" => do
    let val ← c.required "val" .string
    pure (.bool location val)
  | "Call" => do
    let callee ← c.required "variable" node
    let args ← c.list "args" (.array node)
    pure (.call location callee args)
  | "Class" => do
    let name ← c.optional "variable" node
    let parent ← c.optional "parent" node
    let body ← c.optional "body" (.block node)
    pure (.classNode location name parent body)
  | "Code" => do
    let params ← c.list "params" (.array (.param node))
    let body ← c.optional "body" (.block node)
    let bound ← c.optional "bound" .boolean
    pure (.code location params body (bound.getD false))
  | "If" => do
    let condition ← c.required "condition" node
    let body ← c.required "body" (.block node)
    let elseBody ← c.optional "elseBody" node
    pure (.ifNode location condition body elseBody)
  | "Index" => do
    let i ← c.required "index" node
    pure (.index location i)
  | "Literal" => do
    let text ← c.required "value" .string
    pure (.literal ⟨location, text⟩)
  | "Null" => pure (.null location)
  | "Obj" => do
    let properties ← c.list "properties" (.array node)
    pure (.obj location properties)
  | "Op" => do
    let operator ← c.required "operator" .string
    let first ← c.required "first" node
    let second ← c.optional "second" node
    pure (.op location operator first second)
  | "Param" => do
    let name ← c.required "name" node
    let default ← c.optional "value" node
    pure (.param ⟨location, name, default⟩)
  | "Parens" => do
    let body ← c.required "body" node
    pure (.parens location body)
  | "Switch" => do
    let subject ← c.optional "subject" node
    let cases ← c.list "cases" (.cases node)
    let otherwise ← c.optional "otherwise" (.block node)
    pure (.switch location subject cases otherwise)
  | "Value" => do
    let base ← c.required "base" node
    let properties ← c.list "properties" (.array node)
    pure (.value location base properties)
  | "While" => do
    let condition ← c.required "condition" node
    let body ← c.required "body" (.block node)
    pure (.whileNode location condition body)
  | type => do
    Traced.record ⟨type, c.path⟩
    pure (.unknown location type (payload c.entries))

/-! ### Trees -/

/-- The node at a path. -/
def loadNode (path : Json.Path) (value : Json) : Load Tree :=
  match value with
  | .obj entries => do
    let type ← loadType path entries
    let location ← loadLocation path entries
    loadFields ⟨path, type, entries⟩ location fun inner v _smaller ↦ loadNode inner v
  | _ => violation path .nodeObject
termination_by sizeOf value
decreasing_by exact lt_sizeOf_obj _smaller

/-- A whole tree, whose root has to be a block. -/
def load (value : Json) : Load (Block Tree) := do
  match ← loadNode [] value with
  | .block root => pure root
  | other => .fail (.rootType other.typeName)

/-! ### Texts -/

/-- Why a tree could not be loaded from a text. -/
inductive LoadError where
  | format (error : FormatError)
  /-- The text has an integer with this many digits, which is not read. -/
  | overlong (digits : Nat)
  /-- The text has half of a surrogate pair, which is not read. -/
  | halfPair
  deriving DecidableEq, Repr

namespace LoadError

/-- A text that is not JSON is not in the format. -/
def ofText : Json.TextError → LoadError
  | .malformed error => format (.notJson error)
  | .overlong digits => overlong digits
  | .halfPair => halfPair

def message : LoadError → String
  | format error => error.message
  | overlong digits => (Text.LimitError.read digits).message
  | halfPair => Text.LimitError.halfPair.message

end LoadError

/-- A whole tree from a text that may have been read. -/
def loadParsed (parsed : Except Json.TextError Json) :
    Traced Unsupported LoadError (Block Tree) := do
  let value ← .ofExcept (parsed.mapError .ofText)
  (load value).mapError .format

/-- A whole tree from its text. -/
def loadText (text : List Char) : Traced Unsupported LoadError (Block Tree) :=
  loadParsed (Json.parse text)

end CoffeeTree.Tree
