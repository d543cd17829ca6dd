import CoffeeTree.Proofs.Loading.Basic

/-!
# The order in which a node is read

The table `format` lists the fields of each type of nodes, and loading reads them in the order of
the table. `loadFields_reads` says so once for all types: the loader of a type is a sequence of
steps, one for each rule of its row, and each step reads its field with the loader of its form. What
is shown of one step and kept in a sequence then holds of all types, without going through them.

The relation is between two loaders, which may stand in different entries. A property of one loader
is the case where the two are the same.
-/

namespace CoffeeTree

namespace Tree

open Json (Entries)

/-! ### The table -/

/-- What a place in a parse tree holds. -/
inductive Form where
  | string
  | boolean
  /-- A node of any type, also of one that the format does not know. -/
  | node
  | nodeOf (type : String)
  | array (item : Form)
  /-- The conditions of a case: a node or an array of nodes. -/
  | conditions
  /-- A case: a pair of conditions and a block. -/
  | case
  deriving DecidableEq, Repr

/-- One field of the nodes of a type. -/
structure FieldRule where
  key : String
  required : Bool
  form : Form
  deriving DecidableEq, Repr

/-- The types of nodes with their fields. -/
def format : List (String × List FieldRule) :=
  [("Access", [⟨"name", true, .nodeOf "Literal"⟩]),
    ("Arr", [⟨"objects", false, .array .node⟩]),
    ("Assign", [⟨"variable", true, .node⟩, ⟨"value", true, .node⟩, ⟨"context", false, .string⟩]),
    ("Block", [⟨"expressions", false, .array .node⟩]),
    ("Bool", [⟨"val", true, .string⟩]),
    ("Call", [⟨"variable", true, .node⟩, ⟨"args", false, .array .node⟩]),
    ("Class", [⟨"variable", false, .node⟩, ⟨"parent", false, .node⟩,
      ⟨"body", false, .nodeOf "Block"⟩]),
    ("Code", [⟨"params", false, .array (.nodeOf "Param")⟩, ⟨"body", false, .nodeOf "Block"⟩,
      ⟨"bound", false, .boolean⟩]),
    ("If", [⟨"condition", true, .node⟩, ⟨"body", true, .nodeOf "Block"⟩,
      ⟨"elseBody", false, .node⟩]),
    ("Index", [⟨"index", true, .node⟩]),
    ("Literal", [⟨"value", true, .string⟩]),
    ("Null", []),
    ("Obj", [⟨"properties", false, .array .node⟩]),
    ("Op", [⟨"operator", true, .string⟩, ⟨"first", true, .node⟩, ⟨"second", false, .node⟩]),
    ("Param", [⟨"name", true, .node⟩, ⟨"value", false, .node⟩]),
    ("Parens", [⟨"body", true, .node⟩]),
    ("Switch", [⟨"subject", false, .node⟩, ⟨"cases", false, .array .case⟩,
      ⟨"otherwise", false, .nodeOf "Block"⟩]),
    ("Value", [⟨"base", true, .node⟩, ⟨"properties", false, .array .node⟩]),
    ("While", [⟨"condition", true, .node⟩, ⟨"body", true, .nodeOf "Block"⟩])]

/-- The table has one row for each known type, in the order in which the types are tried. -/
theorem map_fst_format : format.map Prod.fst = nodeTypes := rfl

theorem mem_nodeTypes_of_mem_format {type : String} {rules : List FieldRule}
    (h : (type, rules) ∈ format) : type ∈ nodeTypes := by
  rw [← map_fst_format]
  exact List.mem_map_of_mem (f := Prod.fst) h

theorem exists_mem_format {type : String} (h : type ∈ nodeTypes) :
    ∃ rules, (type, rules) ∈ format := by
  rw [← map_fst_format] at h
  obtain ⟨⟨_, rules⟩, hmem, rfl⟩ := List.mem_map.1 h
  exact ⟨rules, hmem⟩

/-! ### The fields of a type -/

/-- The keys of a location, in the order in which they are read. -/
def locationKeys : List String := ["first_line", "first_column", "last_line", "last_column"]

/-- The fields of a type. A type that the format does not know has none. -/
def fieldsOf (type : String) : List FieldRule := (format.lookup type).getD []

theorem fieldsOf_of_mem {type : String} {rules : List FieldRule} (h : (type, rules) ∈ format) :
    fieldsOf type = rules := by
  have hrows : ∀ row ∈ format, fieldsOf row.1 = row.2 := by decide +kernel
  exact hrows _ h

theorem fieldsOf_of_not_mem {type : String} (h : type ∉ nodeTypes) : fieldsOf type = [] := by
  rw [fieldsOf, List.lookup_eq_none_iff.2 ?_]
  · rfl
  · rintro ⟨type', rules⟩ hrow
    rw [bne_iff_ne]
    rintro rfl
    exact h (mem_nodeTypes_of_mem_format hrow)

/-- The fields of a type stand in a row of the table. -/
theorem exists_row_of_mem_fieldsOf {type : String} {rule : FieldRule} (h : rule ∈ fieldsOf type) :
    ∃ row ∈ format, rule ∈ row.2 := by
  by_cases hknown : type ∈ nodeTypes
  · obtain ⟨rules, hrules⟩ := exists_mem_format hknown
    rw [fieldsOf_of_mem hrules] at h
    exact ⟨_, hrules, h⟩
  · rw [fieldsOf_of_not_mem hknown] at h
    cases h

/-! ### Reading in order -/

variable {entries entries' : Entries}

/-- Two loaders read values of the same form. They are built alike from two loaders for nodes. -/
inductive Reads (node : Loader entries Tree) (node' : Loader entries' Tree) :
    {α : Type} → Form → Loader entries α → Loader entries' α → Prop where
  | string : Reads node node' .string Loader.string Loader.string
  | boolean : Reads node node' .boolean Loader.boolean Loader.boolean
  | node : Reads node node' .node node node'
  | block : Reads node node' (.nodeOf "Block") (Loader.block node) (Loader.block node')
  | literal : Reads node node' (.nodeOf "Literal") (Loader.literal node) (Loader.literal node')
  | param : Reads node node' (.nodeOf "Param") (Loader.param node) (Loader.param node')
  /-- An array of cases is not read like other arrays, since it asks for something else. -/
  | array {α : Type} {form : Form} {load : Loader entries α} {load' : Loader entries' α}
      (hcase : form ≠ .case) (hitem : Reads node node' form load load') :
      Reads node node' (.array form) (Loader.array load) (Loader.array load')
  | conditions : Reads node node' .conditions (Loader.conditions node) (Loader.conditions node')
  | case : Reads node node' .case (Loader.case node) (Loader.case node')
  | cases : Reads node node' (.array .case) (Loader.cases node) (Loader.cases node')

/-- The tree has the name of a type, and it is an unknown node only if the format does not know
that type. -/
structure IsOf (type : String) (t : Tree) : Prop where
  typeName_eq : t.typeName = type
  known : type ∈ nodeTypes → ∀ location name payload, t ≠ .unknown location name payload

/-- Two computations read the fields of a node by a list of rules, the first rule first, and make a
node of the type of what they read. -/
inductive ReadsFields (path : Json.Path) (type : String) (node : Loader entries Tree)
    (node' : Loader entries' Tree) : List FieldRule → Load Tree → Load Tree → Prop where
  | done {t : Tree} (hof : IsOf type t) : ReadsFields path type node node' [] (pure t) (pure t)
  | required {α : Type} {key : String} {form : Form} {rules : List FieldRule}
      {load : Loader entries α} {load' : Loader entries' α} {next next' : α → Load Tree}
      (hload : Reads node node' form load load')
      (hnext : ∀ a, ReadsFields path type node node' rules (next a) (next' a)) :
      ReadsFields path type node node' (⟨key, true, form⟩ :: rules)
        (Context.required ⟨path, type, entries⟩ key load >>= next)
        (Context.required ⟨path, type, entries'⟩ key load' >>= next')
  | optional {α : Type} {key : String} {form : Form} {rules : List FieldRule}
      {load : Loader entries α} {load' : Loader entries' α} {next next' : Option α → Load Tree}
      (hload : Reads node node' form load load')
      (hnext : ∀ a, ReadsFields path type node node' rules (next a) (next' a)) :
      ReadsFields path type node node' (⟨key, false, form⟩ :: rules)
        (Context.optional ⟨path, type, entries⟩ key load >>= next)
        (Context.optional ⟨path, type, entries'⟩ key load' >>= next')

/-- A list is an optional field that is empty when it is absent. -/
theorem ReadsFields.list {path : Json.Path} {type : String} {node : Loader entries Tree}
    {node' : Loader entries' Tree} {α : Type} {key : String} {form : Form}
    {rules : List FieldRule} {load : Loader entries (List α)} {load' : Loader entries' (List α)}
    {next next' : List α → Load Tree} (hload : Reads node node' form load load')
    (hnext : ∀ a, ReadsFields path type node node' rules (next a) (next' a)) :
    ReadsFields path type node node' (⟨key, false, form⟩ :: rules)
      (Context.list ⟨path, type, entries⟩ key load >>= next)
      (Context.list ⟨path, type, entries'⟩ key load' >>= next') := by
  have hdefault : ∀ (c : Load (Option (List α))) (last : List α → Load Tree),
      c >>= (fun loaded ↦ pure (loaded.getD [])) >>= last =
        c >>= fun loaded ↦ last (loaded.getD []) :=
    fun c last ↦ Traced.bind_assoc c _ last
  rw [Context.list, Context.list, hdefault, hdefault]
  exact .optional hload fun loaded ↦ hnext (loaded.getD [])

/-- **The fields of a type are read in the order of the table**, whatever the entries hold. -/
theorem loadFields_reads {path : Json.Path} {type : String} {location : Option Location}
    (node : Loader entries Tree) (node' : Loader entries' Tree) (htype : type ∈ nodeTypes) :
    ReadsFields path type node node' (fieldsOf type)
      (loadFields ⟨path, type, entries⟩ location node)
      (loadFields ⟨path, type, entries'⟩ location node') := by
  obtain ⟨rules, hrules⟩ := exists_mem_format htype
  rw [fieldsOf_of_mem hrules]
  have hnodes : Reads node node' (.array .node) (Loader.array node) (Loader.array node') :=
    .array (by decide) .node
  have hparams : Reads node node' (.array (.nodeOf "Param")) (Loader.array (Loader.param node))
      (Loader.array (Loader.param node')) := .array (by decide) .param
  simp only [format, List.mem_cons, List.not_mem_nil, or_false, Prod.mk.injEq] at hrules
  rcases hrules with ⟨rfl, rfl⟩ | ⟨rfl, rfl⟩ | ⟨rfl, rfl⟩ | ⟨rfl, rfl⟩ | ⟨rfl, rfl⟩ | ⟨rfl, rfl⟩ |
    ⟨rfl, rfl⟩ | ⟨rfl, rfl⟩ | ⟨rfl, rfl⟩ | ⟨rfl, rfl⟩ | ⟨rfl, rfl⟩ | ⟨rfl, rfl⟩ | ⟨rfl, rfl⟩ |
    ⟨rfl, rfl⟩ | ⟨rfl, rfl⟩ | ⟨rfl, rfl⟩ | ⟨rfl, rfl⟩ | ⟨rfl, rfl⟩ | ⟨rfl, rfl⟩
  all_goals simp only [loadFields]
  · -- Access
    exact .required .literal fun _ ↦ .done ⟨rfl, nofun⟩
  · -- Arr
    exact .list hnodes fun _ ↦ .done ⟨rfl, nofun⟩
  · -- Assign
    refine .required .node fun _ ↦ .required .node fun _ ↦ ?_
    exact .optional .string fun _ ↦ .done ⟨rfl, nofun⟩
  · -- Block
    exact .list hnodes fun _ ↦ .done ⟨rfl, nofun⟩
  · -- Bool
    exact .required .string fun _ ↦ .done ⟨rfl, nofun⟩
  · -- Call
    exact .required .node fun _ ↦ .list hnodes fun _ ↦ .done ⟨rfl, nofun⟩
  · -- Class
    refine .optional .node fun _ ↦ .optional .node fun _ ↦ ?_
    exact .optional .block fun _ ↦ .done ⟨rfl, nofun⟩
  · -- Code
    refine .list hparams fun _ ↦ .optional .block fun _ ↦ ?_
    exact .optional .boolean fun _ ↦ .done ⟨rfl, nofun⟩
  · -- If
    refine .required .node fun _ ↦ .required .block fun _ ↦ ?_
    exact .optional .node fun _ ↦ .done ⟨rfl, nofun⟩
  · -- Index
    exact .required .node fun _ ↦ .done ⟨rfl, nofun⟩
  · -- Literal
    exact .required .string fun _ ↦ .done ⟨rfl, nofun⟩
  · -- Null
    exact .done ⟨rfl, nofun⟩
  · -- Obj
    exact .list hnodes fun _ ↦ .done ⟨rfl, nofun⟩
  · -- Op
    refine .required .string fun _ ↦ .required .node fun _ ↦ ?_
    exact .optional .node fun _ ↦ .done ⟨rfl, nofun⟩
  · -- Param
    exact .required .node fun _ ↦ .optional .node fun _ ↦ .done ⟨rfl, nofun⟩
  · -- Parens
    exact .required .node fun _ ↦ .done ⟨rfl, nofun⟩
  · -- Switch
    exact .optional .node fun _ ↦ .list .cases fun _ ↦ .optional .block fun _ ↦ .done ⟨rfl, nofun⟩
  · -- Value
    exact .required .node fun _ ↦ .list hnodes fun _ ↦ .done ⟨rfl, nofun⟩
  · -- While
    exact .required .node fun _ ↦ .required .block fun _ ↦ .done ⟨rfl, nofun⟩

/-- Nothing is read in a value that is no object. -/
theorem loadNode_of_not_obj {path : Json.Path} {x : Json} (hx : ∀ entries, x ≠ .obj entries) :
    loadNode path x = violation path .nodeObject := by
  rw [loadNode.eq_def]
  split
  · exact absurd rfl (hx _)
  · rfl

/-- Nothing is read as a case that is no pair. -/
theorem Loader.case_of_not_pair (node : Loader entries Tree) (path : Json.Path) (v : Json)
    (h : sizeOf v < sizeOf entries) (hpair : ¬ ∃ tests body, v = .arr [tests, body]) :
    Loader.case node path v h = violation path .casePair := by
  unfold Loader.case
  split
  · exact absurd ⟨_, _, rfl⟩ hpair
  · rfl

end Tree

end CoffeeTree
