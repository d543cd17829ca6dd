import CoffeeTree.Normalization
import CoffeeTree.Proofs.Loading.Basic

/-!
# Loaded trees load again

The JSON form of a tree that was loaded loads to the same tree, along the same paths and with the
same unknown nodes recorded (`Input.load_toJson`). The form is not the value that was loaded: it has
null for what was absent, defaults where a list or a flag was left out, and none of the keys that
the format does not know.

The two runs are compared field by field. A loader is *restored* by a way to write what it loads
when every value that it loads can be replaced by what is written for the result, without a
difference in result or trace. Restored loaders are closed under arrays, conditions and cases, and
under asking for a block, a literal or a parameter. The fields of a node are read one after the
other, and none depends on another, so the induction over values has one step for each type of node,
in which each field is replaced.
-/

namespace CoffeeTree

namespace Tree

open Json (Entries)

variable {α : Type} {entries entries' : Entries} {path : Json.Path}

/-- Whatever is loaded from a value is loaded in the same way from what is written for it. The two
loaders are one loader for the entries of two objects. -/
def Loader.Restored (load : Loader entries α) (again : Loader entries' α) (dump : α → Json) :
    Prop :=
  ∀ path v h a, (load path v h).result = .ok a →
    dump a ≠ .null ∧ ∀ h', again path (dump a) h' = load path v h

/-! ### The forms of trees -/

theorem toJsonList_eq_map (trees : List Tree) : toJsonList trees = trees.map toJson := by
  induction trees with
  | nil => rfl
  | cons t rest ih => rw [toJsonList, ih, List.map_cons]

theorem paramsToJson_eq_map (params : List (Param Tree)) :
    paramsToJson params = params.map paramToJson := by
  induction params with
  | nil => rfl
  | cons p rest ih => rw [paramsToJson, ih, List.map_cons]

theorem casesToJson_eq_map (cases : List (Case Tree)) :
    casesToJson cases = cases.map caseToJson := by
  induction cases with
  | nil => rfl
  | cons case rest ih => rw [casesToJson, ih, List.map_cons]

theorem optionToJson_eq (t : Option Tree) : optionToJson t = (t.map toJson).getD .null := by
  cases t <;> rfl

theorem blockOptionToJson_eq (b : Option (Block Tree)) :
    blockOptionToJson b = (b.map blockToJson).getD .null := by
  cases b <;> rfl

/-- A node is written as an object. -/
theorem exists_toJson_eq_obj (t : Tree) : ∃ entries, toJson t = .obj entries := by
  cases t with
  | block b => cases b; exact ⟨_, rfl⟩
  | param p => cases p; exact ⟨_, rfl⟩
  | _ => exact ⟨_, rfl⟩

/-- A node is never written as null, so it is not taken for an absent field. -/
theorem toJson_ne_null (t : Tree) : toJson t ≠ .null := by
  obtain ⟨entries, h⟩ := exists_toJson_eq_obj t
  rw [h]
  nofun

/-! ### Loaders -/

namespace Loader

/-- A string is written as it was read. -/
theorem string_restored :
    Restored (@string entries) (@string entries') Json.str := by
  intro path v h text hload
  cases v with
  | str s =>
    obtain rfl : s = text := Except.ok.inj hload
    exact ⟨nofun, fun h' ↦ rfl⟩
  | _ => cases hload

/-- So is a flag. -/
theorem boolean_restored :
    Restored (@boolean entries) (@boolean entries') Json.bool := by
  intro path v h b hload
  cases v with
  | bool c =>
    obtain rfl : c = b := Except.ok.inj hload
    exact ⟨nofun, fun h' ↦ rfl⟩
  | _ => cases hload

variable {node : Loader entries Tree} {node' : Loader entries' Tree}

/-- A loader that asks for one kind of node and unwraps it. -/
theorem restored_of_kind {keep : Json.Path → Tree → Load α} {dump : α → Json} (wrap : α → Tree)
    (hnode : Restored node node' toJson) (hdump : ∀ a, toJson (wrap a) = dump a)
    (hkeep : ∀ path t a, (keep path t).result = .ok a → t = wrap a) :
    Restored (fun path v h ↦ node path v h >>= keep path)
      (fun path v h ↦ node' path v h >>= keep path) dump := by
  intro path v h a hload
  obtain ⟨t, ht, hkind⟩ := Traced.result_bind_eq_ok.1 hload
  obtain rfl : t = wrap a := hkeep path t a hkind
  obtain ⟨hne, hagain⟩ := hnode path v h (wrap a) ht
  rw [hdump] at hne hagain
  exact ⟨hne, fun h' ↦ congrArg (· >>= keep path) (hagain h')⟩

/-- A block is written as the node that was asked for. -/
theorem block_restored (hnode : Restored node node' toJson) :
    Restored (block node) (block node') blockToJson := by
  refine restored_of_kind Tree.block hnode (fun b ↦ rfl) fun path t b hkind ↦ ?_
  cases t with
  | block c => exact congrArg Tree.block (Except.ok.inj hkind)
  | _ => cases hkind

/-- So is a literal. -/
theorem literal_restored (hnode : Restored node node' toJson) :
    Restored (literal node) (literal node') Literal.toJson := by
  refine restored_of_kind Tree.literal hnode (fun l ↦ rfl) fun path t l hkind ↦ ?_
  cases t with
  | literal c => exact congrArg Tree.literal (Except.ok.inj hkind)
  | _ => cases hkind

/-- So is a parameter. -/
theorem param_restored (hnode : Restored node node' toJson) :
    Restored (param node) (param node') paramToJson := by
  refine restored_of_kind Tree.param hnode (fun p ↦ rfl) fun path t p hkind ↦ ?_
  cases t with
  | param c => exact congrArg Tree.param (Except.ok.inj hkind)
  | _ => cases hkind

/-- What is loaded from a list of values is loaded again from what is written for its members. -/
theorem items_again {item : Loader entries α} {item' : Loader entries' α} {dump : α → Json}
    (hitem : Restored item item' dump) {path : Json.Path} {i : Nat} {values : List Json}
    {h : sizeOf values < sizeOf entries} {loaded : List α}
    (hload : (items item path i values h).result = .ok loaded)
    (h' : sizeOf (loaded.map dump) < sizeOf entries') :
    items item' path i (loaded.map dump) h' = items item path i values h := by
  induction values generalizing i loaded with
  | nil =>
    obtain rfl : [] = loaded := Except.ok.inj hload
    rfl
  | cons v rest ih =>
    obtain ⟨first, hfirst, hload⟩ := Traced.result_bind_eq_ok.1 hload
    obtain ⟨others, hothers, hload⟩ := Traced.result_bind_eq_ok.1 hload
    obtain rfl : first :: others = loaded := Except.ok.inj hload
    obtain ⟨-, hagain⟩ := hitem _ v _ first hfirst
    show item' _ (dump first) _ >>= (fun a ↦ items item' path (i + 1) (others.map dump) _ >>= _) = _
    rw [hagain, ih hothers]
    rfl

/-- Arrays are restored when their items are. -/
theorem array_restored {item : Loader entries α} {item' : Loader entries' α} {dump : α → Json}
    (hitem : Restored item item' dump) :
    Restored (array item) (array item') fun loaded ↦ .arr (loaded.map dump) := by
  intro path v h loaded hload
  cases v with
  | arr values => exact ⟨nofun, fun h' ↦ items_again hitem hload _⟩
  | _ => cases hload

/-- A value that is no array is a single condition. -/
theorem conditions_of_not_arr {v : Json} (hv : ∀ values, v ≠ .arr values)
    (h : sizeOf v < sizeOf entries) :
    conditions node path v h = node path v h >>= fun tree ↦ pure (.one tree) := by
  cases v with
  | arr values => exact absurd rfl (hv values)
  | _ => rfl

/-- A condition that stands alone is written as an object, and so it stands alone again. -/
theorem conditions_restored (hnode : Restored node node' toJson) :
    Restored (conditions node) (conditions node') conditionsToJson := by
  intro path v h loaded hload
  by_cases harr : ∃ values, v = .arr values
  · obtain ⟨values, rfl⟩ := harr
    obtain ⟨trees, htrees, hload⟩ := Traced.result_bind_eq_ok.1 hload
    obtain rfl : .many trees = loaded := Except.ok.inj hload
    rw [conditionsToJson, toJsonList_eq_map]
    refine ⟨nofun, fun h' ↦ ?_⟩
    show items node' path 0 (trees.map toJson) _ >>= _ = _
    rw [items_again hnode htrees]
    rfl
  · have hv : ∀ values, v ≠ .arr values := fun values hvalues ↦ harr ⟨values, hvalues⟩
    rw [conditions_of_not_arr hv] at hload ⊢
    obtain ⟨t, ht, hload⟩ := Traced.result_bind_eq_ok.1 hload
    obtain rfl : .one t = loaded := Except.ok.inj hload
    obtain ⟨hne, hagain⟩ := hnode path v h t ht
    -- A single condition is written as an object, so it is not mistaken for several.
    have hobj : ∀ values, toJson t ≠ .arr values := by
      obtain ⟨object, hobject⟩ := exists_toJson_eq_obj t
      rw [hobject]
      nofun
    rw [conditionsToJson]
    refine ⟨hne, fun h' ↦ ?_⟩
    rw [conditions_of_not_arr hobj, hagain]

/-- A case is written as a pair, and both of its parts are restored. -/
theorem case_restored (hnode : Restored node node' toJson) :
    Restored (case node) (case node') caseToJson := by
  intro path v h loaded hload
  have hpair : ∃ first second, v = .arr [first, second] := by
    unfold case at hload
    split at hload
    · exact ⟨_, _, rfl⟩
    · cases hload
  obtain ⟨first, second, rfl⟩ := hpair
  obtain ⟨tests, htests, hload⟩ := Traced.result_bind_eq_ok.1 hload
  obtain ⟨body, hbody, hload⟩ := Traced.result_bind_eq_ok.1 hload
  obtain rfl : ⟨tests, body⟩ = loaded := Except.ok.inj hload
  obtain ⟨-, hconditions⟩ := conditions_restored hnode _ first _ tests htests
  obtain ⟨-, hblock⟩ := block_restored hnode _ second _ body hbody
  refine ⟨nofun, fun h' ↦ ?_⟩
  show conditions node' _ (conditionsToJson tests) _ >>=
    (fun _ ↦ block node' _ (blockToJson body) _ >>= _) = _
  rw [hconditions, hblock]
  rfl

theorem cases_restored (hnode : Restored node node' toJson) :
    Restored (cases node) (cases node') fun loaded ↦ .arr (loaded.map caseToJson) := by
  intro path v h loaded hload
  cases v with
  | arr values => exact ⟨nofun, fun h' ↦ items_again (case_restored hnode) hload _⟩
  | _ => cases hload

end Loader

/-! ### Fields -/

section Fields

open Loader (Restored)

variable {type key : String} {load : Loader entries α} {again : Loader entries' α}
  {dump : α → Json}

/-- A required field is written as what was loaded from it. -/
theorem required_again (hload : Restored load again dump) {a : α}
    (h : (Context.required ⟨path, type, entries⟩ key load).result = .ok a)
    (hget : entries'.get? key = some (dump a)) :
    Context.required ⟨path, type, entries'⟩ key again =
      Context.required ⟨path, type, entries⟩ key load := by
  unfold Context.required at h ⊢
  cases hfound : present? key entries with
  | none =>
    rw [hfound] at h
    cases h
  | some found =>
    rw [hfound] at h
    obtain ⟨hne, hagain⟩ := hload _ found.1 found.2 a h
    obtain ⟨h', hfound'⟩ := exists_present?_eq_some hget hne
    simp only [hfound']
    exact hagain h'

/-- A field that was absent is written as null. -/
theorem optional_again (hload : Restored load again dump) {a : Option α}
    (h : (Context.optional ⟨path, type, entries⟩ key load).result = .ok a)
    (hget : entries'.get? key = some ((a.map dump).getD .null)) :
    Context.optional ⟨path, type, entries'⟩ key again =
      Context.optional ⟨path, type, entries⟩ key load := by
  unfold Context.optional at h ⊢
  cases hfound : present? key entries with
  | none =>
    rw [hfound] at h
    obtain rfl : none = a := Except.ok.inj h
    have hfound' : present? key entries' = none := by
      rw [present?_eq_none_iff, hget]
      exact fun v hv ↦ (Option.some.inj hv).symm
    rw [hfound']
  | some found =>
    rw [hfound] at h
    obtain ⟨b, hb, h⟩ := Traced.result_bind_eq_ok.1 h
    obtain rfl : some b = a := Except.ok.inj h
    obtain ⟨hne, hagain⟩ := hload _ found.1 found.2 b hb
    obtain ⟨h', hfound'⟩ := exists_present?_eq_some hget hne
    simp only [hfound']
    exact congrArg (· >>= fun loaded ↦ pure (some loaded)) (hagain h')

/-- A field with a default is always written. -/
theorem defaulted_again {β : Type} (hload : Restored load again dump) {default : α}
    (hne : dump default ≠ .null) (hdefault : ∀ path h', again path (dump default) h' = pure default)
    {a : Option α} (h : (Context.optional ⟨path, type, entries⟩ key load).result = .ok a)
    (hget : entries'.get? key = some (dump (a.getD default))) (next : α → Load β) :
    (Context.optional ⟨path, type, entries'⟩ key again >>= fun b ↦ next (b.getD default)) =
      Context.optional ⟨path, type, entries⟩ key load >>= fun b ↦ next (b.getD default) := by
  cases a with
  | some b => rw [optional_again hload h hget]
  | none =>
    have habsent : present? key entries = none := by
      cases hfound : present? key entries with
      | none => rfl
      | some found =>
        rw [Context.optional, hfound] at h
        obtain ⟨b, -, h⟩ := Traced.result_bind_eq_ok.1 h
        cases h
    obtain ⟨h', hfound'⟩ := exists_present?_eq_some (v := dump default) hget hne
    simp only [Context.optional, habsent, hfound']
    rw [hdefault]
    rfl

/-- A list that was left out is written as the empty one. -/
theorem list_again {load : Loader entries (List α)} {again : Loader entries' (List α)}
    {dump : List α → Json} (hload : Restored load again dump) (hne : dump [] ≠ .null)
    (hnil : ∀ path h', again path (dump []) h' = pure []) {loaded : List α}
    (h : (Context.list ⟨path, type, entries⟩ key load).result = .ok loaded)
    (hget : entries'.get? key = some (dump loaded)) :
    Context.list ⟨path, type, entries'⟩ key again =
      Context.list ⟨path, type, entries⟩ key load := by
  obtain ⟨a, ha, h⟩ := Traced.result_bind_eq_ok.1 h
  obtain rfl : a.getD [] = loaded := Except.ok.inj h
  exact defaulted_again hload hne hnil ha hget pure

/-! The fields that hold nodes, in the words of the JSON form. -/

variable {node : Loader entries Tree} {node' : Loader entries' Tree}

theorem optionalNode_again (hnode : Restored node node' toJson) {a : Option Tree}
    (h : (Context.optional ⟨path, type, entries⟩ key node).result = .ok a)
    (hget : entries'.get? key = some (optionToJson a)) :
    Context.optional ⟨path, type, entries'⟩ key node' =
      Context.optional ⟨path, type, entries⟩ key node := by
  rw [optionToJson_eq] at hget
  exact optional_again hnode h hget

theorem optionalBlock_again (hnode : Restored node node' toJson) {a : Option (Block Tree)}
    (h : (Context.optional ⟨path, type, entries⟩ key (.block node)).result = .ok a)
    (hget : entries'.get? key = some (blockOptionToJson a)) :
    Context.optional ⟨path, type, entries'⟩ key (.block node') =
      Context.optional ⟨path, type, entries⟩ key (.block node) := by
  rw [blockOptionToJson_eq] at hget
  exact optional_again (Loader.block_restored hnode) h hget

theorem nodes_again (hnode : Restored node node' toJson) {loaded : List Tree}
    (h : (Context.list ⟨path, type, entries⟩ key (.array node)).result = .ok loaded)
    (hget : entries'.get? key = some (.arr (toJsonList loaded))) :
    Context.list ⟨path, type, entries'⟩ key (.array node') =
      Context.list ⟨path, type, entries⟩ key (.array node) := by
  rw [toJsonList_eq_map] at hget
  exact list_again (Loader.array_restored hnode) nofun (fun _ _ ↦ rfl) h hget

theorem params_again (hnode : Restored node node' toJson) {loaded : List (Param Tree)}
    (h : (Context.list ⟨path, type, entries⟩ key (.array (.param node))).result = .ok loaded)
    (hget : entries'.get? key = some (.arr (paramsToJson loaded))) :
    Context.list ⟨path, type, entries'⟩ key (.array (.param node')) =
      Context.list ⟨path, type, entries⟩ key (.array (.param node)) := by
  rw [paramsToJson_eq_map] at hget
  exact list_again (Loader.array_restored (Loader.param_restored hnode)) nofun (fun _ _ ↦ rfl) h
    hget

theorem cases_again (hnode : Restored node node' toJson) {loaded : List (Case Tree)}
    (h : (Context.list ⟨path, type, entries⟩ key (.cases node)).result = .ok loaded)
    (hget : entries'.get? key = some (.arr (casesToJson loaded))) :
    Context.list ⟨path, type, entries'⟩ key (.cases node') =
      Context.list ⟨path, type, entries⟩ key (.cases node) := by
  rw [casesToJson_eq_map] at hget
  exact list_again (Loader.cases_restored hnode) nofun (fun _ _ ↦ rfl) h hget

end Fields

/-! ### Nodes -/

section Nodes

open Loader (Restored)

variable {type : String} {location : Option Location} {node : Loader entries Tree} {t : Tree}

variable (path type location node t) in
/-- A node is written with its type and its location, and its fields load as they did. -/
def LoadsAgain : Prop :=
  ∃ entries' : Entries, toJson t = .obj entries' ∧ entries'.get? "type" = some (.str type) ∧
    loadLocation path entries' = pure location ∧
    ∀ node' : Loader entries' Tree, Restored node node' toJson →
      loadFields ⟨path, type, entries'⟩ location node' =
        loadFields ⟨path, type, entries⟩ location node

/-- Most nodes are written as an object with all their fields. What is left to show is that the
fields load as they did. -/
theorem loadsAgain_of_object {fields : Entries} (hform : toJson t = object type location fields)
    (hfields : ∀ node' : Loader (("type", .str type) ::
        ("locationData", (location.map Location.toJson).getD .null) :: fields) Tree,
      Restored node node' toJson →
        loadFields ⟨path, type, _⟩ location node' =
          loadFields ⟨path, type, entries⟩ location node) :
    LoadsAgain path type location node t := by
  refine ⟨_, hform, rfl, ?_, hfields⟩
  cases location with
  | none => exact loadLocation_of_none fun v hv ↦ (Option.some.inj hv).symm
  | some loc => exact loadLocation_of_get? rfl

/-- An unknown node keeps its payload, and the payload of what is written for it is the same. -/
theorem loadsAgain_unknown (htype : type ∉ nodeTypes) :
    LoadsAgain path type location node (.unknown location type (payload entries)) := by
  refine ⟨_, rfl, rfl, ?_, fun node' hnode ↦ ?_⟩
  · cases location with
    | none =>
      have habsent : Entries.get? "locationData" (("type", .str type) :: payload entries) = none :=
        get?_locationData_payload entries
      exact loadLocation_of_none fun v hv ↦ by cases habsent.symm.trans hv
    | some loc => exact loadLocation_of_get? rfl
  · rw [loadFields_of_not_mem htype, loadFields_of_not_mem htype]
    have hwritten : payload (("type", .str type) ::
        ((location.map fun loc ↦ ("locationData", loc.toJson)).toList ++ payload entries)) =
          payload entries := by
      cases location <;> exact payload_payload entries
    rw [hwritten]

/-! ### Type by type

Each field of the form gives back what was loaded, and the fields are read in the same order. -/

variable (path location node) in
/-- Whatever is loaded as a node of the type loads again. -/
def Reloads (type : String) : Prop :=
  ∀ t, (loadFields ⟨path, type, entries⟩ location node).result = .ok t →
    LoadsAgain path type location node t

/-- The name of an access is written as a literal. -/
theorem reloads_access : Reloads path location node "Access" := by
  intro t h
  simp only [loadFields] at h
  obtain ⟨name, hname, h⟩ := Traced.result_bind_eq_ok.1 h
  obtain rfl := Except.ok.inj h
  refine loadsAgain_of_object rfl fun node' hnode ↦ ?_
  simp only [loadFields]
  rw [required_again (Loader.literal_restored hnode) hname rfl]

/-- The members of an array are always written, even if there are none. -/
theorem reloads_arr : Reloads path location node "Arr" := by
  intro t h
  simp only [loadFields] at h
  obtain ⟨objects, hobjects, h⟩ := Traced.result_bind_eq_ok.1 h
  obtain rfl := Except.ok.inj h
  refine loadsAgain_of_object rfl fun node' hnode ↦ ?_
  simp only [loadFields]
  rw [nodes_again hnode hobjects rfl]

/-- A context that was absent is written as null. -/
theorem reloads_assign : Reloads path location node "Assign" := by
  intro t h
  simp only [loadFields] at h
  obtain ⟨target, htarget, h⟩ := Traced.result_bind_eq_ok.1 h
  obtain ⟨right, hright, h⟩ := Traced.result_bind_eq_ok.1 h
  obtain ⟨context, hcontext, h⟩ := Traced.result_bind_eq_ok.1 h
  obtain rfl := Except.ok.inj h
  refine loadsAgain_of_object rfl fun node' hnode ↦ ?_
  simp only [loadFields]
  rw [required_again hnode htarget rfl, required_again hnode hright rfl,
    optional_again Loader.string_restored hcontext rfl]

theorem reloads_block : Reloads path location node "Block" := by
  intro t h
  simp only [loadFields] at h
  obtain ⟨expressions, hexpressions, h⟩ := Traced.result_bind_eq_ok.1 h
  obtain rfl := Except.ok.inj h
  refine loadsAgain_of_object rfl fun node' hnode ↦ ?_
  simp only [loadFields]
  rw [nodes_again hnode hexpressions rfl]

theorem reloads_bool : Reloads path location node "Bool" := by
  intro t h
  simp only [loadFields] at h
  obtain ⟨val, hval, h⟩ := Traced.result_bind_eq_ok.1 h
  obtain rfl := Except.ok.inj h
  refine loadsAgain_of_object rfl fun node' hnode ↦ ?_
  simp only [loadFields]
  rw [required_again Loader.string_restored hval rfl]

/-- The arguments are always written. -/
theorem reloads_call : Reloads path location node "Call" := by
  intro t h
  simp only [loadFields] at h
  obtain ⟨callee, hcallee, h⟩ := Traced.result_bind_eq_ok.1 h
  obtain ⟨args, hargs, h⟩ := Traced.result_bind_eq_ok.1 h
  obtain rfl := Except.ok.inj h
  refine loadsAgain_of_object rfl fun node' hnode ↦ ?_
  simp only [loadFields]
  rw [required_again hnode hcallee rfl, nodes_again hnode hargs rfl]

/-- The name, the parent and the body of a class are written as null when they are absent. -/
theorem reloads_classNode : Reloads path location node "Class" := by
  intro t h
  simp only [loadFields] at h
  obtain ⟨name, hname, h⟩ := Traced.result_bind_eq_ok.1 h
  obtain ⟨parent, hparent, h⟩ := Traced.result_bind_eq_ok.1 h
  obtain ⟨body, hbody, h⟩ := Traced.result_bind_eq_ok.1 h
  obtain rfl := Except.ok.inj h
  refine loadsAgain_of_object rfl fun node' hnode ↦ ?_
  simp only [loadFields]
  rw [optionalNode_again hnode hname rfl, optionalNode_again hnode hparent rfl,
    optionalBlock_again hnode hbody rfl]

/-- The parameters are always written, and so is the flag. -/
theorem reloads_code : Reloads path location node "Code" := by
  intro t h
  simp only [loadFields] at h
  obtain ⟨params, hparams, h⟩ := Traced.result_bind_eq_ok.1 h
  obtain ⟨body, hbody, h⟩ := Traced.result_bind_eq_ok.1 h
  obtain ⟨bound, hbound, h⟩ := Traced.result_bind_eq_ok.1 h
  obtain rfl := Except.ok.inj h
  refine loadsAgain_of_object rfl fun node' hnode ↦ ?_
  simp only [loadFields]
  rw [params_again hnode hparams rfl, optionalBlock_again hnode hbody rfl]
  -- An absent flag is written as `false`, so the two readings differ until the default is taken.
  refine congrArg _ (funext fun params' ↦ congrArg _ (funext fun body' ↦ ?_))
  exact defaulted_again Loader.boolean_restored nofun (fun _ _ ↦ rfl) hbound (by rfl)
    fun flag ↦ (pure (Tree.code location params' body' flag) : Load Tree)

/-- The body is always there, the alternative may be absent. -/
theorem reloads_ifNode : Reloads path location node "If" := by
  intro t h
  simp only [loadFields] at h
  obtain ⟨condition, hcondition, h⟩ := Traced.result_bind_eq_ok.1 h
  obtain ⟨body, hbody, h⟩ := Traced.result_bind_eq_ok.1 h
  obtain ⟨elseBody, helse, h⟩ := Traced.result_bind_eq_ok.1 h
  obtain rfl := Except.ok.inj h
  refine loadsAgain_of_object rfl fun node' hnode ↦ ?_
  simp only [loadFields]
  rw [required_again hnode hcondition rfl,
    required_again (Loader.block_restored hnode) hbody rfl, optionalNode_again hnode helse rfl]

theorem reloads_index : Reloads path location node "Index" := by
  intro t h
  simp only [loadFields] at h
  obtain ⟨i, hi, h⟩ := Traced.result_bind_eq_ok.1 h
  obtain rfl := Except.ok.inj h
  refine loadsAgain_of_object rfl fun node' hnode ↦ ?_
  simp only [loadFields]
  rw [required_again hnode hi rfl]

/-- A literal is written by its text. -/
theorem reloads_literal : Reloads path location node "Literal" := by
  intro t h
  simp only [loadFields] at h
  obtain ⟨text, htext, h⟩ := Traced.result_bind_eq_ok.1 h
  obtain rfl := Except.ok.inj h
  refine loadsAgain_of_object rfl fun node' hnode ↦ ?_
  simp only [loadFields]
  rw [required_again Loader.string_restored htext rfl]

/-- A null has no field. -/
theorem reloads_null : Reloads path location node "Null" := by
  intro t h
  simp only [loadFields] at h
  obtain rfl := Except.ok.inj h
  refine loadsAgain_of_object rfl fun node' hnode ↦ ?_
  simp only [loadFields]

theorem reloads_obj : Reloads path location node "Obj" := by
  intro t h
  simp only [loadFields] at h
  obtain ⟨properties, hproperties, h⟩ := Traced.result_bind_eq_ok.1 h
  obtain rfl := Except.ok.inj h
  refine loadsAgain_of_object rfl fun node' hnode ↦ ?_
  simp only [loadFields]
  rw [nodes_again hnode hproperties rfl]

/-- A unary operation is written with null for its second operand. -/
theorem reloads_op : Reloads path location node "Op" := by
  intro t h
  simp only [loadFields] at h
  obtain ⟨operator, hoperator, h⟩ := Traced.result_bind_eq_ok.1 h
  obtain ⟨first, hfirst, h⟩ := Traced.result_bind_eq_ok.1 h
  obtain ⟨second, hsecond, h⟩ := Traced.result_bind_eq_ok.1 h
  obtain rfl := Except.ok.inj h
  refine loadsAgain_of_object rfl fun node' hnode ↦ ?_
  simp only [loadFields]
  rw [required_again Loader.string_restored hoperator rfl, required_again hnode hfirst rfl,
    optionalNode_again hnode hsecond rfl]

/-- A parameter without default is written with null for it. -/
theorem reloads_param : Reloads path location node "Param" := by
  intro t h
  simp only [loadFields] at h
  obtain ⟨name, hname, h⟩ := Traced.result_bind_eq_ok.1 h
  obtain ⟨default, hdefault, h⟩ := Traced.result_bind_eq_ok.1 h
  obtain rfl := Except.ok.inj h
  refine loadsAgain_of_object rfl fun node' hnode ↦ ?_
  simp only [loadFields]
  rw [required_again hnode hname rfl, optionalNode_again hnode hdefault rfl]

theorem reloads_parens : Reloads path location node "Parens" := by
  intro t h
  simp only [loadFields] at h
  obtain ⟨body, hbody, h⟩ := Traced.result_bind_eq_ok.1 h
  obtain rfl := Except.ok.inj h
  refine loadsAgain_of_object rfl fun node' hnode ↦ ?_
  simp only [loadFields]
  rw [required_again hnode hbody rfl]

/-- The cases are written as pairs. -/
theorem reloads_switch : Reloads path location node "Switch" := by
  intro t h
  simp only [loadFields] at h
  obtain ⟨subject, hsubject, h⟩ := Traced.result_bind_eq_ok.1 h
  obtain ⟨cases, hcases, h⟩ := Traced.result_bind_eq_ok.1 h
  obtain ⟨otherwise, hotherwise, h⟩ := Traced.result_bind_eq_ok.1 h
  obtain rfl := Except.ok.inj h
  refine loadsAgain_of_object rfl fun node' hnode ↦ ?_
  simp only [loadFields]
  rw [optionalNode_again hnode hsubject rfl, cases_again hnode hcases rfl,
    optionalBlock_again hnode hotherwise rfl]

theorem reloads_value : Reloads path location node "Value" := by
  intro t h
  simp only [loadFields] at h
  obtain ⟨base, hbase, h⟩ := Traced.result_bind_eq_ok.1 h
  obtain ⟨properties, hproperties, h⟩ := Traced.result_bind_eq_ok.1 h
  obtain rfl := Except.ok.inj h
  refine loadsAgain_of_object rfl fun node' hnode ↦ ?_
  simp only [loadFields]
  rw [required_again hnode hbase rfl, nodes_again hnode hproperties rfl]

theorem reloads_whileNode : Reloads path location node "While" := by
  intro t h
  simp only [loadFields] at h
  obtain ⟨condition, hcondition, h⟩ := Traced.result_bind_eq_ok.1 h
  obtain ⟨body, hbody, h⟩ := Traced.result_bind_eq_ok.1 h
  obtain rfl := Except.ok.inj h
  refine loadsAgain_of_object rfl fun node' hnode ↦ ?_
  simp only [loadFields]
  rw [required_again hnode hcondition rfl,
    required_again (Loader.block_restored hnode) hbody rfl]

/-- One step of the induction: the fields of a node load as they did, whatever its type. -/
theorem reloads (type : String) : Reloads path location node type := by
  by_cases htype : type ∈ nodeTypes
  · simp only [nodeTypes, List.mem_cons, List.not_mem_nil, or_false] at htype
    rcases htype with rfl | rfl | rfl | rfl | rfl | rfl | rfl | rfl | rfl | rfl | rfl | rfl | rfl |
      rfl | rfl | rfl | rfl | rfl | rfl
    · exact reloads_access
    · exact reloads_arr
    · exact reloads_assign
    · exact reloads_block
    · exact reloads_bool
    · exact reloads_call
    · exact reloads_classNode
    · exact reloads_code
    · exact reloads_ifNode
    · exact reloads_index
    · exact reloads_literal
    · exact reloads_null
    · exact reloads_obj
    · exact reloads_op
    · exact reloads_param
    · exact reloads_parens
    · exact reloads_switch
    · exact reloads_value
    · exact reloads_whileNode
  · intro t h
    rw [loadFields_of_not_mem htype] at h
    obtain rfl := Except.ok.inj h
    exact loadsAgain_unknown htype

/-- **A node that was loaded is loaded again from its JSON form**, with the same trace. -/
theorem loadNode_toJson {x : Json} (h : (loadNode path x).result = .ok t) :
    loadNode path (toJson t) = loadNode path x := by
  induction path, x using loadNode.induct generalizing t with
  | case1 path entries ih =>
    rw [loadNode_obj] at h
    obtain ⟨type, htype, h⟩ := Traced.result_bind_eq_ok.1 h
    obtain ⟨location, hlocation, h⟩ := Traced.result_bind_eq_ok.1 h
    obtain ⟨entries', hform, hget, hlocation', hfields⟩ := reloads type t h
    have htype' : loadType path entries' = pure type :=
      loadType_of_get? hget (isEmpty_of_loadType htype)
    rw [hform, loadNode_obj, loadNode_obj, htype', hlocation',
      Traced.eq_pure (events_loadType _ _) htype,
      Traced.eq_pure (events_loadLocation _ _) hlocation]
    refine hfields _ fun inner v hv u hu ↦ ?_
    exact ⟨toJson_ne_null u, fun _ ↦ ih type inner v hv hu⟩
  | case2 path x hx =>
    rw [loadNode.eq_def] at h
    split at h
    · exact absurd rfl (hx _)
    · cases h

end Nodes

/-! ### Whole trees -/

/-- A whole tree loads again: its root is still a block. -/
theorem load_again {x : Json} {root : Block Tree} (h : (load x).result = .ok root) :
    load (toJson (.block root)) = load x := by
  obtain ⟨t, ht, h⟩ := Traced.result_bind_eq_ok.1 h
  cases t with
  | block b =>
    obtain rfl : b = root := Except.ok.inj h
    rw [load, load, loadNode_toJson ht]
  | _ => cases h

/-- A tree that was loaded from a text was loaded from a JSON value. -/
theorem exists_loadParsed_eq {parsed : Except Json.TextError Json} {root : Block Tree}
    (h : (loadParsed parsed).result = .ok root) :
    ∃ x, loadParsed parsed = (load x).mapError .format := by
  obtain ⟨x, hx, -⟩ := Traced.result_bind_eq_ok.1 h
  rw [loadParsed, Traced.eq_pure rfl hx]
  exact ⟨x, rfl⟩

namespace Input

/-- A tree that is not at hand is loaded from a JSON value, whatever form it comes in. -/
theorem exists_load_eq {input : Input} (hinput : ∀ root, input ≠ .loaded root) {root : Block Tree}
    (h : input.load.result = .ok root) : ∃ x, input.load = (Tree.load x).mapError .format := by
  cases input with
  | loaded root => exact absurd rfl (hinput root)
  | value x => exact ⟨x, rfl⟩
  | text chars => exact exists_loadParsed_eq h
  | document chars => exact exists_loadParsed_eq h

/-- The same for a tree that comes as a text, or in a document. -/
theorem load_value_toJson {input : Input} (hinput : ∀ root, input ≠ .loaded root)
    {root : Block Tree} (h : input.load.result = .ok root) :
    (value (toJson (.block root))).load = input.load := by
  obtain ⟨x, hx⟩ := exists_load_eq hinput h
  rw [hx] at h ⊢
  exact congrArg (Traced.mapError LoadError.format) (load_again (Traced.result_mapError_eq_ok.1 h))

/-- Of a tree that is not at hand only what is loaded counts. -/
theorem normalize_congr {input other : Input} (hinput : ∀ root, input ≠ .loaded root)
    (hother : ∀ root, other ≠ .loaded root) (hload : input.load = other.load) (names : FileNames)
    (text : List Char) : normalize names text input = normalize names text other := by
  have hlog : Normalization.loadLog input = Normalization.loadLog other := by
    cases input with
    | loaded root => exact absurd rfl (hinput root)
    | _ =>
      cases other with
      | loaded root => exact absurd rfl (hother root)
      | _ => simp only [Normalization.loadLog, hload]
  rw [normalize, normalize, hload, hlog]

/-- **Round trip.** The JSON form of a tree that was loaded loads to the same tree, with the same
unknown nodes recorded. So two trees that were loaded have the same form only if they are the same,
and a source is normalized with the form as it is with what the tree was loaded from. -/
theorem load_toJson {input : Input} (hinput : ∀ root, input ≠ .loaded root) {root : Block Tree}
    (h : input.load.result = .ok root) :
    (value (toJson (.block root))).load = input.load ∧
      (∀ (other : Input) (root' : Block Tree), (∀ r, other ≠ .loaded r) →
        other.load.result = .ok root' → toJson (.block root') = toJson (.block root) →
          root' = root) ∧
      ∀ (names : FileNames) (text : List Char),
        normalize names text (value (toJson (.block root))) = normalize names text input := by
  have hagain := load_value_toJson hinput h
  refine ⟨hagain, fun other root' hother h' hform ↦ ?_, ?_⟩
  · have hsame : other.load = input.load := by
      rw [← hagain, ← hform, load_value_toJson hother h']
    rw [hsame, h] at h'
    exact (Except.ok.inj h').symm
  · exact normalize_congr nofun hinput hagain

/-- A switch with a condition alone and a condition in a list, and an unknown node. Defaults are
left out, a null stands for an absent field, and one key is not in the format. -/
def switchJson : Json :=
  .obj [("note", .int 1), ("type", .str "Block"), ("expressions", .arr [
    .obj [("type", .str "Switch"), ("subject", .null), ("cases", .arr [
      .arr [.obj [("type", .str "Null")], .obj [("type", .str "Block")]],
      .arr [.arr [.obj [("type", .str "Null")]], .obj [("type", .str "Block")]]])],
    .obj [("locationData", Location.toJson ⟨⟨0, 0⟩, ⟨0, 4⟩⟩), ("depth", .int 2),
      ("type", .str "Throw")]])]

def switchRoot : Block Tree :=
  ⟨none, [.switch none none
      [⟨.one (.null none), ⟨none, []⟩⟩, ⟨.many [.null none], ⟨none, []⟩⟩] none,
    .unknown (some ⟨⟨0, 0⟩, ⟨0, 4⟩⟩) "Throw" [("depth", .int 2)]]⟩

theorem load_switchJson : (value switchJson).load.result = .ok switchRoot := by
  with_unfolding_all rfl

theorem load_toJson_switch :
    (value switchJson).load.result = .ok switchRoot ∧
      (value (toJson (.block switchRoot))).load = (value switchJson).load ∧
      ∀ (names : FileNames) (text : List Char),
        normalize names text (value (toJson (.block switchRoot))) =
          normalize names text (value switchJson) := by
  have hvalue : ∀ root, value switchJson ≠ .loaded root := nofun
  obtain ⟨hagain, -, hnormalize⟩ := load_toJson hvalue load_switchJson
  exact ⟨load_switchJson, hagain, hnormalize⟩

end Input

end Tree

end CoffeeTree
