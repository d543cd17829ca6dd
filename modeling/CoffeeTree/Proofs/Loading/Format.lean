import CoffeeTree.Proofs.Loading.Fields
import CoffeeTree.Tree.Input

/-!
# The format of parse trees

The JSON values that are parse trees, as a grammar of its own. The table `format` lists the types
of nodes with their fields, and `Conforms` says inductively which values fit a place. Neither
mentions loading: there is no order in which a value is looked at, no path and no tree that comes
out.

Loading succeeds on exactly the values of the format (`load_succeeds_iff`). Both directions are
carried at once. A computation is described by the condition under which it succeeds and by what is
known of its result (`Loads`); a sequence succeeds when all of its steps do. So the fields of a type
are read off its row in the table, one step for each, and the result is only needed for one thing:
a place that asks for a node of one type looks at the tree that was loaded, where the grammar looks
at the type in the value.
-/

namespace CoffeeTree

namespace Tree

open Json (Entries)

/-! ### The grammar -/

/-- The location of a node is absent, null, or an object with four integers that are not
negative. -/
def LocationFits (entries : Entries) : Prop :=
  ∀ v, entries.get? "locationData" = some v → v = .null ∨ ∃ fields : Entries, v = .obj fields ∧
    ∀ key ∈ ["first_line", "first_column", "last_line", "last_column"],
      ∃ n : Nat, fields.get? key = some (.int n)

/-- The key has a value other than null. -/
def Present (key : String) (entries : Entries) : Prop :=
  ∃ v, entries.get? key = some v ∧ v ≠ .null

/-- **The values that fit a place.** A node of a type that is not in the table may have any other
entries. In a node of the table the required fields are there, and every field that is there fits;
entries that are no fields of the type are not looked at. -/
inductive Conforms : Form → Json → Prop where
  | string (text : String) : Conforms .string (.str text)
  | boolean (b : Bool) : Conforms .boolean (.bool b)
  | array {item : Form} {items : List Json} (hitems : ∀ x ∈ items, Conforms item x) :
      Conforms (.array item) (.arr items)
  | one {x : Json} (hnode : Conforms .node x) : Conforms .conditions x
  | many {x : Json} (hnodes : Conforms (.array .node) x) : Conforms .conditions x
  | case {tests body : Json} (htests : Conforms .conditions tests)
      (hbody : Conforms (.nodeOf "Block") body) : Conforms .case (.arr [tests, body])
  | nodeOf {type : String} {x : Json} (htype : x.step? (.key "type") = some (.str type))
      (hnode : Conforms .node x) : Conforms (.nodeOf type) x
  | unknown {type : String} {entries : Entries} (htype : entries.get? "type" = some (.str type))
      (hempty : type ≠ "") (hlocation : LocationFits entries) (hunknown : type ∉ nodeTypes) :
      Conforms .node (.obj entries)
  | known {type : String} {rules : List FieldRule} {entries : Entries}
      (htype : entries.get? "type" = some (.str type)) (hlocation : LocationFits entries)
      (hrules : (type, rules) ∈ format)
      (hrequired : ∀ rule ∈ rules, rule.required = true → Present rule.key entries)
      (hfields : ∀ rule ∈ rules, ∀ v, entries.get? rule.key = some v → v ≠ .null →
        Conforms rule.form v) : Conforms .node (.obj entries)

/-! ### Inversion -/

/-- The field is there if it has to be, and it fits if it is there. -/
structure FieldRule.Holds (rule : FieldRule) (entries : Entries) : Prop where
  present : rule.required = true → Present rule.key entries
  fits : ∀ v, entries.get? rule.key = some v → v ≠ .null → Conforms rule.form v

theorem conforms_array_iff {item : Form} {x : Json} :
    Conforms (.array item) x ↔ ∃ items, x = .arr items ∧ ∀ y ∈ items, Conforms item y := by
  constructor
  · intro h
    cases h with
    | array hitems => exact ⟨_, rfl, hitems⟩
  · rintro ⟨items, rfl, hitems⟩
    exact .array hitems

/-- Conditions are one node, or an array of them. -/
theorem conforms_conditions_iff {x : Json} :
    Conforms .conditions x ↔ Conforms .node x ∨ Conforms (.array .node) x := by
  constructor
  · intro h
    cases h with
    | one hnode => exact .inl hnode
    | many hnodes => exact .inr hnodes
  · rintro (hnode | hnodes)
    · exact .one hnode
    · exact .many hnodes

theorem conforms_nodeOf_iff {type : String} {x : Json} :
    Conforms (.nodeOf type) x ↔
      Conforms .node x ∧ x.step? (.key "type") = some (.str type) := by
  constructor
  · intro h
    cases h with
    | nodeOf htype hnode => exact ⟨hnode, htype⟩
  · rintro ⟨hnode, htype⟩
    exact .nodeOf htype hnode

/-- A node is an object with a type and a fitting location, which keeps the rules of its type if the
type is known. -/
theorem conforms_node_iff {x : Json} :
    Conforms .node x ↔ ∃ (entries : Entries) (type : String), x = .obj entries ∧
      entries.get? "type" = some (.str type) ∧ type ≠ "" ∧ LocationFits entries ∧
      (type ∉ nodeTypes ∨ ∃ rules, (type, rules) ∈ format ∧ ∀ r ∈ rules, r.Holds entries) := by
  constructor
  · intro h
    cases h with
    | unknown htype hempty hlocation hunknown =>
      exact ⟨_, _, rfl, htype, hempty, hlocation, .inl hunknown⟩
    | known htype hlocation hrules hrequired hfields =>
      refine ⟨_, _, rfl, htype, ?_, hlocation, .inr ⟨_, hrules, fun rule hrule ↦ ?_⟩⟩
      · rintro rfl
        exact absurd (mem_nodeTypes_of_mem_format hrules) (by decide)
      · exact ⟨hrequired rule hrule, hfields rule hrule⟩
  · rintro ⟨entries, type, rfl, htype, hempty, hlocation, hunknown | ⟨rules, hrules, hholds⟩⟩
    · exact .unknown htype hempty hlocation hunknown
    · exact .known htype hlocation hrules (fun rule hrule ↦ (hholds rule hrule).present)
        fun rule hrule ↦ (hholds rule hrule).fits

/-! ### Computations that succeed under a condition -/

section Loads

variable {α β : Type} {c : Load α} {P P' : Prop} {Q : α → Prop} {R : β → Prop}

/-- The computation succeeds exactly when `P` holds, and its result satisfies `Q`. -/
structure Loads (c : Load α) (P : Prop) (Q : α → Prop) : Prop where
  succeeds_iff : (∃ a, c.result = .ok a) ↔ P
  result : ∀ a, c.result = .ok a → Q a

theorem Loads.of_pure {a : α} (h : Q a) : Loads (pure a) True Q :=
  ⟨iff_true_intro ⟨a, rfl⟩, fun _ hb ↦ Except.ok.inj hb ▸ h⟩

/-- What fails succeeds under no condition. -/
theorem Loads.of_fail {error : FormatError} : Loads (Traced.fail error : Load α) False Q :=
  ⟨iff_false_intro fun ⟨_, ha⟩ ↦ (nomatch ha), fun _ ha ↦ nomatch ha⟩

theorem Loads.of_violation {path : Json.Path} {requirement : Requirement} :
    Loads (violation path requirement) False Q :=
  Loads.of_fail

theorem Loads.iff (h : Loads c P Q) (hiff : P ↔ P') : Loads c P' Q :=
  ⟨h.succeeds_iff.trans hiff, h.result⟩

/-- A sequence succeeds when the first step does and the second one does on its result. -/
theorem Loads.bind {next : α → Load β} (h : Loads c P Q)
    (hnext : ∀ a, Q a → Loads (next a) P' R) : Loads (c >>= next) (P ∧ P') R := by
  constructor
  · constructor
    · rintro ⟨b, hb⟩
      obtain ⟨a, ha, hb⟩ := Traced.result_bind_eq_ok.1 hb
      exact ⟨h.succeeds_iff.1 ⟨a, ha⟩, (hnext a (h.result a ha)).succeeds_iff.1 ⟨b, hb⟩⟩
    · rintro ⟨hP, hP'⟩
      obtain ⟨a, ha⟩ := h.succeeds_iff.2 hP
      obtain ⟨b, hb⟩ := (hnext a (h.result a ha)).succeeds_iff.2 hP'
      exact ⟨b, Traced.result_bind_eq_ok.2 ⟨a, ha, hb⟩⟩
  · intro b hb
    obtain ⟨a, ha, hb⟩ := Traced.result_bind_eq_ok.1 hb
    exact (hnext a (h.result a ha)).result b hb

/-- What is made of a result does not change when it is there. -/
theorem Loads.map (h : Loads c P Q) (f : α → β) (hf : ∀ a, Q a → R (f a)) :
    Loads (c >>= fun a ↦ pure (f a)) P R :=
  (h.bind fun a ha ↦ .of_pure (hf a ha)).iff (and_iff_left trivial)

end Loads

/-! ### Loaders -/

/-- What is known of a tree that was loaded from a value: its type is the one in the value. -/
def HasTypeOf (v : Json) (t : Tree) : Prop :=
  ∃ type, v.step? (.key "type") = some (.str type) ∧ IsOf type t

/-- The type of the loaded node is the one in the value. -/
theorem HasTypeOf.step?_eq_iff {v : Json} {t : Tree} (h : HasTypeOf v t) {type : String} :
    v.step? (.key "type") = some (.str type) ↔ t.typeName = type := by
  obtain ⟨type', htype, hof⟩ := h
  rw [htype, hof.typeName_eq]
  simp

/-- An unknown node has none of the names of the format. -/
theorem HasTypeOf.typeName_ne {v : Json} {location : Option Location} {name type : String}
    {payload : Entries} (h : HasTypeOf v (.unknown location name payload))
    (htype : type ∈ nodeTypes) : name ≠ type := by
  obtain ⟨type', -, hname, hknown⟩ := h
  rintro rfl
  obtain rfl : name = type' := hname
  exact hknown htype location name payload rfl

namespace Loader

variable {entries : Entries} {α : Type}

/-- The loader accepts the values that fit a place. -/
def Accepts (load : Loader entries α) (form : Form) : Prop :=
  ∀ path v h, Loads (load path v h) (Conforms form v) fun _ ↦ True

theorem string_accepts : Accepts (@string entries) .string := by
  intro path v h
  cases v with
  | str text => exact (Loads.of_pure trivial).iff (iff_of_true trivial (.string text))
  | _ => exact Loads.of_violation.iff (iff_of_false not_false nofun)

theorem boolean_accepts : Accepts (@boolean entries) .boolean := by
  intro path v h
  cases v with
  | bool b => exact (Loads.of_pure trivial).iff (iff_of_true trivial (.boolean b))
  | _ => exact Loads.of_violation.iff (iff_of_false not_false nofun)

/-- The loader accepts all nodes, and gives trees of the types that stand in the values. -/
def AcceptsNodes (node : Loader entries Tree) : Prop :=
  ∀ path v h, Loads (node path v h) (Conforms .node v) (HasTypeOf v)

variable {node : Loader entries Tree} (hnode : AcceptsNodes node)

include hnode

/-- Knowing the type of what is loaded is more than knowing that it is loaded. -/
theorem node_accepts : Accepts node .node := by
  intro path v h
  have hloads := hnode path v h
  exact ⟨hloads.succeeds_iff, fun _ _ ↦ trivial⟩

/-- A loader that asks for one kind of node accepts the nodes of its type. -/
theorem accepts_of_kind {keep : Json.Path → Tree → Load α} {type : String}
    (hkeep : ∀ path v t, HasTypeOf v t → Loads (keep path t) (t.typeName = type) fun _ ↦ True) :
    Accepts (fun path v h ↦ node path v h >>= keep path) (.nodeOf type) := by
  intro path v h
  have hkind : ∀ t, HasTypeOf v t →
      Loads (keep path t) (v.step? (.key "type") = some (.str type)) fun _ ↦ True :=
    fun t ht ↦ (hkeep path v t ht).iff ht.step?_eq_iff.symm
  exact ((hnode path v h).bind hkind).iff conforms_nodeOf_iff.symm

/-- Asking for a block accepts the nodes of that type. -/
theorem block_accepts : Accepts (block node) (.nodeOf "Block") := by
  refine accepts_of_kind hnode fun path v t ht ↦ ?_
  cases t with
  | block b => exact (Loads.of_pure trivial).iff (iff_of_true trivial rfl)
  | unknown location name payload =>
    exact Loads.of_violation.iff (iff_of_false not_false (ht.typeName_ne (by decide)))
  | _ => exact Loads.of_violation.iff (by simp [typeName])

theorem literal_accepts : Accepts (literal node) (.nodeOf "Literal") := by
  refine accepts_of_kind hnode fun path v t ht ↦ ?_
  cases t with
  | literal l => exact (Loads.of_pure trivial).iff (iff_of_true trivial rfl)
  | unknown location name payload =>
    exact Loads.of_violation.iff (iff_of_false not_false (ht.typeName_ne (by decide)))
  | _ => exact Loads.of_violation.iff (by simp [typeName])

theorem param_accepts : Accepts (param node) (.nodeOf "Param") := by
  refine accepts_of_kind hnode fun path v t ht ↦ ?_
  cases t with
  | param p => exact (Loads.of_pure trivial).iff (iff_of_true trivial rfl)
  | unknown location name payload =>
    exact Loads.of_violation.iff (iff_of_false not_false (ht.typeName_ne (by decide)))
  | _ => exact Loads.of_violation.iff (by simp [typeName])

omit hnode

/-- The items of an array are all loaded if they are all in form. -/
theorem items_loads {item : Loader entries α} {form : Form} (hitem : Accepts item form)
    (path : Json.Path) (i : Nat) (values : List Json) (h : sizeOf values < sizeOf entries) :
    Loads (items item path i values h) (∀ x ∈ values, Conforms form x) fun _ ↦ True := by
  induction values generalizing i with
  | nil => exact (Loads.of_pure trivial).iff (by simp)
  | cons v rest ih =>
    have hrest := ih (i + 1) (sizeOf_tail_lt h)
    refine Loads.iff ?_ List.forall_mem_cons.symm
    refine (hitem _ v (sizeOf_head_lt h)).bind fun first _ ↦ ?_
    exact hrest.map (first :: ·) fun _ _ ↦ trivial

/-- An array is accepted if its items are. -/
theorem array_accepts {item : Loader entries α} {form : Form} (hitem : Accepts item form) :
    Accepts (array item) (.array form) := by
  intro path v h
  cases v with
  | arr values =>
    exact (items_loads hitem path 0 values _).iff (by simp [conforms_array_iff])
  | _ => exact Loads.of_violation.iff (by simp [conforms_array_iff])

include hnode

/-- No array is a node, so the two kinds of conditions exclude each other. -/
theorem conditions_accepts : Accepts (conditions node) .conditions := by
  intro path v h
  have hnodes := node_accepts hnode
  by_cases harr : ∃ values, v = .arr values
  · obtain ⟨values, rfl⟩ := harr
    have hno : ¬ Conforms .node (.arr values) := by simp [conforms_node_iff]
    refine ((items_loads hnodes path 0 values (sizeOf_items_lt h)).map Conditions.many
      fun _ _ ↦ trivial).iff ?_
    rw [conforms_conditions_iff, or_iff_right hno, conforms_array_iff]
    simp
  · have hno : ¬ Conforms (.array .node) v := by
      rw [conforms_array_iff]
      rintro ⟨values, rfl, -⟩
      exact harr ⟨values, rfl⟩
    have hone : conditions node path v h = node path v h >>= fun tree ↦ pure (.one tree) := by
      cases v with
      | arr values => exact absurd ⟨values, rfl⟩ harr
      | _ => rfl
    rw [hone]
    refine ((hnodes path v h).map Conditions.one fun _ _ ↦ trivial).iff ?_
    rw [conforms_conditions_iff, or_iff_left hno]

/-- A case is a pair: its conditions, and a block. -/
theorem case_accepts : Accepts (case node) .case := by
  intro path v h
  by_cases hpair : ∃ tests body, v = .arr [tests, body]
  · -- A pair is in form if both of its parts are, which are loaded one after the other.
    obtain ⟨tests, body, rfl⟩ := hpair
    have hiff : Conforms .conditions tests ∧ Conforms (.nodeOf "Block") body ↔
        Conforms .case (.arr [tests, body]) := by
      constructor
      · rintro ⟨htests, hbody⟩
        exact .case htests hbody
      · intro hcase
        cases hcase with
        | case htests hbody => exact ⟨htests, hbody⟩
    refine Loads.iff ?_ hiff
    refine (conditions_accepts hnode _ tests _).bind fun loaded _ ↦ ?_
    exact (block_accepts hnode _ body _).map (Case.mk loaded) fun _ _ ↦ trivial
  · rw [case_of_not_pair node path v h hpair]
    refine Loads.of_violation.iff (iff_of_false not_false ?_)
    intro hcase
    cases hcase with
    | case htests hbody => exact hpair ⟨_, _, rfl⟩

theorem cases_accepts : Accepts (cases node) (.array .case) := by
  intro path v h
  cases v with
  | arr values =>
    exact (items_loads (case_accepts hnode) path 0 values _).iff (by simp [conforms_array_iff])
  | _ => exact Loads.of_violation.iff (by simp [conforms_array_iff])

/-- Every loader accepts the values of its form. -/
theorem accepts_of_reads {form : Form} {load load' : Loader entries α}
    (h : Reads node node form load load') : Accepts load form := by
  induction h with
  | string => exact string_accepts
  | boolean => exact boolean_accepts
  | node => exact node_accepts hnode
  | block => exact block_accepts hnode
  | literal => exact literal_accepts hnode
  | param => exact param_accepts hnode
  | array _ _ ih => exact array_accepts ih
  | conditions => exact conditions_accepts hnode
  | case => exact case_accepts hnode
  | cases => exact cases_accepts hnode

end Loader

/-! ### Fields -/

section Fields

open Loader (Accepts AcceptsNodes)

variable {α : Type} {path : Json.Path} {type key : String} {entries : Entries} {form : Form}

/-- A field is present if it is there and not null, which is when it is found. -/
theorem present_iff : Present key entries ↔ ∃ found, present? key entries = some found := by
  constructor
  · rintro ⟨v, hget, hv⟩
    obtain ⟨h, hfound⟩ := exists_present?_eq_some hget hv
    exact ⟨⟨v, h⟩, hfound⟩
  · rintro ⟨⟨v, h⟩, hfound⟩
    exact ⟨v, map_present?_eq_some_iff.1 (by rw [hfound]; rfl)⟩

/-- A field that is absent holds unless it is required. -/
theorem holds_of_none {required : Bool} (h : present? key entries = none) :
    FieldRule.Holds ⟨key, required, form⟩ entries ↔ ¬ required = true := by
  have habsent : ¬ Present key entries := by
    rw [present_iff, h]
    simp
  constructor
  · intro hholds hrequired
    exact habsent (hholds.present hrequired)
  · intro hrequired
    exact ⟨fun hr ↦ absurd hr hrequired, fun v hget hv ↦ absurd ⟨v, hget, hv⟩ habsent⟩

/-- A field that is there holds if its value fits. -/
theorem holds_of_some {required : Bool} {found : { v : Json // sizeOf v < sizeOf entries }}
    (h : present? key entries = some found) :
    FieldRule.Holds ⟨key, required, form⟩ entries ↔ Conforms form found.1 := by
  obtain ⟨hget, hne⟩ := map_present?_eq_some_iff.1 (show (present? key entries).map Subtype.val =
    some found.1 by rw [h]; rfl)
  constructor
  · intro hholds
    exact hholds.fits found.1 hget hne
  · intro hfits
    refine ⟨fun _ ↦ ⟨found.1, hget, hne⟩, fun v hv _ ↦ ?_⟩
    obtain rfl : found.1 = v := Option.some.inj (hget.symm.trans hv)
    exact hfits

/-- A required field is loaded if it is present and in form. -/
theorem required_loads {load : Loader entries α} (hload : Accepts load form) :
    Loads (Context.required ⟨path, type, entries⟩ key load)
      (FieldRule.Holds ⟨key, true, form⟩ entries) fun _ ↦ True := by
  unfold Context.required
  cases hfound : present? key entries with
  | none => exact Loads.of_violation.iff (by simp [holds_of_none hfound])
  | some found => exact (hload _ found.1 found.2).iff (holds_of_some hfound).symm

/-- An optional one is loaded if it is absent as well. -/
theorem optional_loads {load : Loader entries α} (hload : Accepts load form) :
    Loads (Context.optional ⟨path, type, entries⟩ key load)
      (FieldRule.Holds ⟨key, false, form⟩ entries) fun _ ↦ True := by
  unfold Context.optional
  cases hfound : present? key entries with
  | none => exact (Loads.of_pure trivial).iff (by simp [holds_of_none hfound])
  | some found =>
    refine Loads.iff ?_ (holds_of_some hfound).symm
    exact (hload _ found.1 found.2).map some fun _ _ ↦ trivial

/-- The first rule is that of the field that is loaded first. -/
theorem Loads.field {β : Type} {c : Load α} {next : α → Load β} {rule : FieldRule}
    {rules : List FieldRule} {Q : β → Prop} (h : Loads c (rule.Holds entries) fun _ ↦ True)
    (hnext : ∀ a, Loads (next a) (∀ r ∈ rules, r.Holds entries) Q) :
    Loads (c >>= next) (∀ r ∈ rule :: rules, r.Holds entries) Q := by
  refine Loads.iff ?_ List.forall_mem_cons.symm
  exact h.bind fun a _ ↦ hnext a

/-- There are no more fields to load. -/
theorem Loads.done {a : α} {Q : α → Prop} (h : Q a) :
    Loads (pure a) (∀ r ∈ ([] : List FieldRule), r.Holds entries) Q :=
  (Loads.of_pure h).iff (by simp)

/-- What reads the fields by some rules loads them when the rules hold. -/
theorem ReadsFields.loads {node : Loader entries Tree} (hnode : AcceptsNodes node)
    {rules : List FieldRule} {c c' : Load Tree}
    (h : ReadsFields path type node node rules c c') :
    Loads c (∀ r ∈ rules, r.Holds entries) (IsOf type) := by
  induction h with
  | done hof => exact .done hof
  | required hload _ ih => exact .field (required_loads (Loader.accepts_of_reads hnode hload)) ih
  | optional hload _ ih => exact .field (optional_loads (Loader.accepts_of_reads hnode hload)) ih

/-- **The fields of a type are loaded when its rules hold.** -/
theorem loadFields_loads {location : Option Location} {node : Loader entries Tree}
    (hnode : AcceptsNodes node) {rules : List FieldRule} (hrules : (type, rules) ∈ format) :
    Loads (loadFields ⟨path, type, entries⟩ location node) (∀ r ∈ rules, r.Holds entries)
      (IsOf type) := by
  rw [← fieldsOf_of_mem hrules]
  exact (loadFields_reads node node (mem_nodeTypes_of_mem_format hrules)).loads hnode

/-- A node of an unknown type is kept, whatever it holds. -/
theorem loadFields_loads_iff {location : Option Location} {node : Loader entries Tree}
    (hnode : AcceptsNodes node) :
    Loads (loadFields ⟨path, type, entries⟩ location node)
      (type ∉ nodeTypes ∨ ∃ rules, (type, rules) ∈ format ∧ ∀ r ∈ rules, r.Holds entries)
      (IsOf type) := by
  by_cases hknown : type ∈ nodeTypes
  · obtain ⟨rules, hrules⟩ := exists_mem_format hknown
    refine (loadFields_loads hnode hrules).iff
      ⟨fun hholds ↦ .inr ⟨rules, hrules, hholds⟩, ?_⟩
    rintro (hunknown | ⟨rules', hrules', hholds⟩)
    · exact absurd hknown hunknown
    · -- The type has one row.
      obtain rfl : rules' = rules := (fieldsOf_of_mem hrules').symm.trans (fieldsOf_of_mem hrules)
      exact hholds
  · rw [loadFields_of_not_mem hknown]
    refine ⟨iff_of_true ⟨_, rfl⟩ (.inl hknown), fun t ht ↦ ?_⟩
    obtain rfl := Except.ok.inj ht
    exact ⟨rfl, fun hmem ↦ absurd hmem hknown⟩

end Fields

/-! ### Types and locations -/

section

variable {path : Json.Path} {entries : Entries}

/-- The type has to be a string that is not empty. -/
theorem loadType_eq_ok_iff {type : String} :
    (loadType path entries).result = .ok type ↔
      entries.get? "type" = some (.str type) ∧ type ≠ "" := by
  constructor
  · intro h
    have hempty := isEmpty_of_loadType h
    rw [loadType] at h
    split at h
    · next found hget =>
      split at h
      · cases h
      · obtain rfl : found = type := Except.ok.inj h
        exact ⟨hget, by rintro rfl; cases hempty⟩
    · cases h
  · rintro ⟨hget, hempty⟩
    rw [loadType_of_get? hget (by simpa using hempty)]
    rfl

/-- A coordinate has to be a number that is not negative. -/
theorem loadCoordinate_loads {fields : Entries} {key : String} :
    Loads (loadCoordinate path fields key) (∃ n : Nat, fields.get? key = some (.int n))
      fun _ ↦ True := by
  rw [loadCoordinate]
  split
  · next n hget =>
    rw [hget]
    by_cases hn : 0 ≤ n
    · rw [if_pos hn]
      refine (Loads.of_pure trivial).iff (iff_of_true trivial ⟨n.toNat, ?_⟩)
      rw [Int.toNat_of_nonneg hn]
    · rw [if_neg hn]
      refine Loads.of_violation.iff (iff_of_false not_false ?_)
      rintro ⟨m, hm⟩
      obtain rfl : n = m := by simpa using hm
      exact hn (Int.natCast_nonneg m)
  · next hget =>
    refine Loads.of_violation.iff (iff_of_false not_false ?_)
    rintro ⟨m, hm⟩
    exact hget m hm

/-- A location may be left out. Otherwise it needs all its coordinates. -/
theorem loadLocation_loads :
    Loads (loadLocation path entries) (LocationFits entries) fun _ ↦ True := by
  rw [loadLocation, LocationFits]
  split
  · next hget => exact (Loads.of_pure trivial).iff (by simp [hget])
  · next hget => exact (Loads.of_pure trivial).iff (by simp [hget])
  · next fields hget =>
    refine Loads.iff (loadCoordinate_loads.bind fun firstLine _ ↦
      loadCoordinate_loads.bind fun firstColumn _ ↦ loadCoordinate_loads.bind fun lastLine _ ↦
        loadCoordinate_loads.map _ fun _ _ ↦ trivial) ?_
    simp [hget]
  · next v hnull hobj hget =>
    refine Loads.of_violation.iff (iff_of_false not_false fun hfits ↦ ?_)
    rcases hfits v hget with hv | ⟨fields, hv, -⟩
    · exact hnull hv
    · exact hobj fields hv

end

/-! ### Trees -/

/-- **The nodes that are loaded are those of the format.** -/
theorem loadNode_loads (path : Json.Path) (x : Json) :
    Loads (loadNode path x) (Conforms .node x) (HasTypeOf x) := by
  induction path, x using loadNode.induct with
  | case1 path entries ih =>
    -- The fields are loaded once the type is known, with the loader of the smaller values.
    have hfields : ∀ type location,
        Loads (loadFields ⟨path, type, entries⟩ location fun inner v _ ↦ loadNode inner v)
          (type ∉ nodeTypes ∨ ∃ rules, (type, rules) ∈ format ∧ ∀ r ∈ rules, r.Holds entries)
          (IsOf type) :=
      fun type _ ↦ loadFields_loads_iff fun inner v hv ↦ ih type inner v hv
    have hplace : Loads (loadLocation path entries) (LocationFits entries) fun _ ↦ True :=
      loadLocation_loads
    rw [loadNode_obj]
    constructor
    · rw [conforms_node_iff]
      constructor
      · rintro ⟨t, h⟩
        obtain ⟨type, htype, h⟩ := Traced.result_bind_eq_ok.1 h
        obtain ⟨location, hlocation, h⟩ := Traced.result_bind_eq_ok.1 h
        obtain ⟨hget, hempty⟩ := loadType_eq_ok_iff.1 htype
        exact ⟨entries, type, rfl, hget, hempty, hplace.succeeds_iff.1 ⟨location, hlocation⟩,
          (hfields type location).succeeds_iff.1 ⟨t, h⟩⟩
      · rintro ⟨_, type, hobj, hget, hempty, hfits, hrules⟩
        cases hobj
        obtain ⟨location, hlocation⟩ := hplace.succeeds_iff.2 hfits
        obtain ⟨t, ht⟩ := (hfields type location).succeeds_iff.2 hrules
        refine ⟨t, Traced.result_bind_eq_ok.2 ⟨type, loadType_eq_ok_iff.2 ⟨hget, hempty⟩, ?_⟩⟩
        exact Traced.result_bind_eq_ok.2 ⟨location, hlocation, ht⟩
    · intro t h
      obtain ⟨type, htype, h⟩ := Traced.result_bind_eq_ok.1 h
      obtain ⟨location, -, h⟩ := Traced.result_bind_eq_ok.1 h
      exact ⟨type, (loadType_eq_ok_iff.1 htype).1, (hfields type location).result t h⟩
  | case2 path x hx =>
    rw [loadNode_of_not_obj hx]
    refine Loads.of_violation.iff (iff_of_false not_false ?_)
    rw [conforms_node_iff]
    rintro ⟨entries, type, rfl, -⟩
    exact hx entries rfl

/-- **A tree is loaded if it is a block in form.** -/
theorem load_loads (x : Json) : Loads (load x) (Conforms (.nodeOf "Block") x) fun _ ↦ True := by
  refine Loads.iff ?_ conforms_nodeOf_iff.symm
  refine (loadNode_loads [] x).bind fun t ht ↦ ?_
  refine Loads.iff ?_ ht.step?_eq_iff.symm
  cases t with
  | block root => exact (Loads.of_pure trivial).iff (iff_of_true trivial rfl)
  | unknown location name payload =>
    exact Loads.of_fail.iff (iff_of_false not_false (ht.typeName_ne (by decide)))
  | _ => exact Loads.of_fail.iff (by simp [typeName])

/-- A tree comes from a text that was read and gave a value of the format. -/
theorem exists_loadParsed_iff (parsed : Except Json.TextError Json) :
    (∃ root, (loadParsed parsed).result = .ok root) ↔
      ∃ x, parsed = .ok x ∧ Conforms (.nodeOf "Block") x := by
  cases parsed with
  | error e =>
    have hfailed : (loadParsed (.error e)).result = .error (.ofText e) := rfl
    simp [hfailed]
  | ok x =>
    have hread : (loadParsed (.ok x)).result = ((load x).mapError .format).result := rfl
    simp [hread, Traced.result_mapError_eq_ok, (load_loads x).succeeds_iff]

/-- **Loading succeeds on exactly the values of the format**: those that conform to the grammar and
have a block at the root. A tree that is given as a text, or as a text that was decoded from bytes,
is loaded when the text can be read and the value is of the format. -/
theorem load_succeeds_iff :
    (∀ x, (∃ root, (load x).result = .ok root) ↔ Conforms (.nodeOf "Block") x) ∧
      (∀ text, (∃ root, (loadText text).result = .ok root) ↔
        ∃ x, Json.parse text = .ok x ∧ Conforms (.nodeOf "Block") x) ∧
      ∀ text, (∃ root, (Input.document text).load.result = .ok root) ↔
        ∃ x, Json.parseDecoded text = .ok x ∧ Conforms (.nodeOf "Block") x := by
  refine ⟨fun x ↦ ?_, fun text ↦ ?_, fun text ↦ ?_⟩
  · exact (load_loads x).succeeds_iff
  · exact exists_loadParsed_iff (Json.parse text)
  · exact exists_loadParsed_iff (Json.parseDecoded text)

end Tree

end CoffeeTree
