import CoffeeTree.Proofs.Loading.Format
import Mathlib.Data.List.Forall2
import Mathlib.Logic.Relation

/-!
# The presentation of a tree

The same tree can be written down in many ways: the entries of a node may come in any order, there
may be entries that are no fields of it, and a field that is absent may be written as null. An
`Edit` changes one of these at one place of a value, and loading does not see it: the block that
comes out is the same, and so is the error if there is one (`load_eq_of_edits`).

A value is edited deep inside, while a loader looks at it from the place where it stands, and there
it may ask for a node, for an array of them or for a string. So edited values are compared by all
loaders at once (`Alike`). Arrays are alike if their items are, and nodes are if their types, their
locations and their fields are; the latter goes by `ReadsFields`, for all types of nodes at once. A
node of an unknown type is the one that shows its presentation, since it keeps its entries, and only
its location may change.
-/

namespace CoffeeTree

/-- What follows has to be the same only after a success. -/
theorem Traced.bind_congr {ω ε α β : Type} {c : Traced ω ε α} {next next' : α → Traced ω ε β}
    (h : ∀ a, c.result = .ok a → next a = next' a) : c >>= next = c >>= next' := by
  rw [bind_def, bind_def, andThen, andThen]
  cases hresult : c.result with
  | error e => rfl
  | ok a => simp only [h a hresult]

/-! ### Entries -/

namespace Json.Entries

variable {key key' : String} {before after entries entries' : Entries} {v : Json}

theorem get?_append (key : String) (before after : Entries) :
    get? key (before ++ after) = (get? key before).or (get? key after) := by
  induction before with
  | nil => rfl
  | cons entry rest ih =>
    obtain ⟨k, v⟩ := entry
    rw [List.cons_append, get?, get?]
    split
    · rfl
    · exact ih

/-- An entry is not seen under other keys. -/
theorem get?_insert_of_ne (hkey : key' ≠ key) :
    get? key (before ++ (key', v) :: after) = get? key (before ++ after) := by
  rw [get?_append, get?_append, get?, if_neg hkey]

/-- Under its own key it is seen only if none comes before it. -/
theorem get?_insert_self :
    get? key (before ++ (key, v) :: after) = (get? key before).or (some v) := by
  rw [get?_append, get?, if_pos rfl]

/-- A value that is replaced is seen under its key or nowhere. -/
theorem get?_replace_cases (before after : Entries) (key k : String) (x y : Json) :
    get? k (before ++ (key, x) :: after) = get? k (before ++ (key, y) :: after) ∨
      key = k ∧ get? k (before ++ (key, x) :: after) = some x ∧
        get? k (before ++ (key, y) :: after) = some y := by
  by_cases hkey : key = k
  · subst hkey
    rw [get?_insert_self, get?_insert_self]
    cases get? key before with
    | some v => exact .inl rfl
    | none => exact .inr ⟨rfl, rfl, rfl⟩
  · rw [get?_insert_of_ne hkey, get?_insert_of_ne hkey]
    exact .inl rfl

/-- The order of the entries does not matter if no key stands twice. -/
theorem get?_perm (hkeys : (entries.map Prod.fst).Nodup) (hperm : entries.Perm entries')
    (key : String) : get? key entries = get? key entries' := by
  induction hperm with
  | nil => rfl
  | cons entry _ ih =>
    rw [get?, get?, ih (List.nodup_cons.1 hkeys).2]
  | swap first second rest =>
    obtain ⟨k, v⟩ := first
    obtain ⟨k', v'⟩ := second
    have hne : k' ≠ k := fun h ↦ (List.nodup_cons.1 hkeys).1 (by simp [h])
    simp only [get?]
    split <;> split <;> simp_all
  | trans hfirst _ ih ih' =>
    exact (ih hkeys).trans (ih' ((hfirst.map Prod.fst).nodup_iff.1 hkeys))

end Json.Entries

namespace Tree

open Json (Entries)

/-- The value of a field. A field that is null is absent. -/
def field? (key : String) (entries : Entries) : Option Json :=
  (present? key entries).map Subtype.val

section Field

variable {key : String} {entries entries' : Entries}

theorem field?_eq_some_iff {v : Json} :
    field? key entries = some v ↔ entries.get? key = some v ∧ v ≠ .null :=
  map_present?_eq_some_iff

theorem field?_congr (h : entries.get? key = entries'.get? key) :
    field? key entries = field? key entries' := by
  refine Option.ext fun v ↦ ?_
  rw [field?_eq_some_iff, field?_eq_some_iff, h]

/-- A field that is null counts as absent. -/
theorem field?_eq_none_iff :
    field? key entries = none ↔ entries.get? key = none ∨ entries.get? key = some .null := by
  rw [field?, Option.map_eq_none_iff, present?_eq_none_iff]
  cases entries.get? key <;> simp

/-- A field that is absent may as well be null. -/
theorem field?_insert_null {before after : Entries}
    (habsent : (before ++ after).get? key = none) :
    field? key (before ++ after) = field? key (before ++ (key, .null) :: after) := by
  have hbefore : before.get? key = none := by
    rw [Entries.get?_append, Option.or_eq_none_iff] at habsent
    exact habsent.1
  rw [field?_eq_none_iff.2 (.inl habsent), field?_eq_none_iff.2]
  rw [Entries.get?_insert_self, hbefore]
  exact .inr rfl

/-- Two fields have the same value if their keys do, or if both are absent. -/
theorem get?_cases (h : field? key entries = field? key entries') :
    entries.get? key = entries'.get? key ∨
      (entries.get? key = none ∨ entries.get? key = some .null) ∧
        (entries'.get? key = none ∨ entries'.get? key = some .null) := by
  rw [← field?_eq_none_iff, ← field?_eq_none_iff]
  cases hfound : field? key entries with
  | none => exact .inr ⟨rfl, h.symm.trans hfound⟩
  | some v =>
    left
    rw [(field?_eq_some_iff.1 hfound).1, (field?_eq_some_iff.1 (h.symm.trans hfound)).1]

/-- The type is read as a field, so null and absence are the same to it. -/
theorem loadType_congr {path : Json.Path} (h : field? "type" entries = field? "type" entries') :
    loadType path entries = loadType path entries' := by
  rw [loadType, loadType]
  rcases get?_cases h with heq | ⟨h₁ | h₁, h₂ | h₂⟩
  · rw [heq]
  all_goals rw [h₁, h₂]

/-- So is a coordinate. -/
theorem loadCoordinate_congr {path : Json.Path} (h : field? key entries = field? key entries') :
    loadCoordinate path entries key = loadCoordinate path entries' key := by
  rw [loadCoordinate, loadCoordinate]
  rcases get?_cases h with heq | ⟨h₁ | h₁, h₂ | h₂⟩
  · rw [heq]
  all_goals rw [h₁, h₂]

/-- So is the location as a whole. -/
theorem loadLocation_congr {path : Json.Path}
    (h : field? "locationData" entries = field? "locationData" entries') :
    loadLocation path entries = loadLocation path entries' := by
  rw [loadLocation, loadLocation]
  rcases get?_cases h with heq | ⟨h₁ | h₁, h₂ | h₂⟩
  · rw [heq]
  all_goals rw [h₁, h₂]

end Field

/-! ### Values that load alike -/

/-- The loader for nodes inside some entries. -/
def nodeLoader (entries : Entries) : Loader entries Tree := fun inner v _ ↦ loadNode inner v

/-- The two values give the same result in every place, whatever the place asks for. -/
def Alike (v v' : Json) : Prop :=
  ∀ (entries entries' : Entries) (α : Type) (form : Form) (load : Loader entries α)
    (load' : Loader entries' α), Reads (nodeLoader entries) (nodeLoader entries') form load load' →
    ∀ path h h', load path v h = load' path v' h'

section Alike

variable {entries entries' : Entries} {α : Type}

/-- Arrays load alike when their items do, place by place. -/
theorem items_congr {item : Loader entries α} {item' : Loader entries' α}
    {values values' : List Json}
    (hitems : List.Forall₂ (fun v v' ↦ ∀ path h h', item path v h = item' path v' h')
      values values') (path : Json.Path) (i : Nat) (h : sizeOf values < sizeOf entries)
    (h' : sizeOf values' < sizeOf entries') :
    Loader.items item path i values h = Loader.items item' path i values' h' := by
  induction hitems generalizing i with
  | nil => rfl
  | cons hfirst _ ih =>
    rw [Loader.items, Loader.items, hfirst _ _ (sizeOf_head_lt h'),
      ih (i + 1) _ (sizeOf_tail_lt h')]

/-- Arrays load alike if their items do. -/
theorem Alike.arr {values values' : List Json} (hitems : List.Forall₂ Alike values values') :
    Alike (.arr values) (.arr values') := by
  intro entries entries' α form load load' hreads path h h'
  have hnode : loadNode path (.arr values) = loadNode path (.arr values') := by
    rw [loadNode_of_not_obj (by simp), loadNode_of_not_obj (by simp)]
  have hagree : ∀ {β : Type} {item : Form} {each : Loader entries β} {each' : Loader entries' β},
      Reads (nodeLoader entries) (nodeLoader entries') item each each' →
      List.Forall₂ (fun v v' ↦ ∀ path h h', each path v h = each' path v' h') values values' :=
    fun hitem ↦ hitems.imp fun v v' hv ↦ hv entries entries' _ _ _ _ hitem
  cases hreads with
  | string => rfl
  | boolean => rfl
  | node => exact hnode
  | block => simp only [Loader.block, nodeLoader, hnode]
  | literal => simp only [Loader.literal, nodeLoader, hnode]
  | param => simp only [Loader.param, nodeLoader, hnode]
  | array _ hitem => exact items_congr (hagree hitem) path 0 _ _
  | conditions =>
    simp only [Loader.conditions]
    rw [items_congr (hagree .node) path 0 _ (sizeOf_items_lt h')]
  | case =>
    -- Only a pair is followed further, and the two arrays have the same length.
    rcases hitems with _ | ⟨htests, _ | ⟨hbody, _ | _⟩⟩
    · rfl
    · rfl
    · simp only [Loader.case]
      rw [htests entries entries' _ _ _ _ .conditions _ _
          (sizeOf_head_lt (sizeOf_items_lt h')),
        hbody entries entries' _ _ _ _ .block _ _
          (sizeOf_head_lt (sizeOf_tail_lt (sizeOf_items_lt h')))]
    · rfl
  | cases => exact items_congr (hagree .case) path 0 _ _

/-- Objects load alike if they are the same node. -/
theorem Alike.obj {fields fields' : Entries}
    (hnode : ∀ path, loadNode path (.obj fields) = loadNode path (.obj fields')) :
    Alike (.obj fields) (.obj fields') := by
  intro entries entries' α form load load' hreads path h h'
  cases hreads with
  | node => exact hnode path
  | block => simp only [Loader.block, nodeLoader, hnode]
  | literal => simp only [Loader.literal, nodeLoader, hnode]
  | param => simp only [Loader.param, nodeLoader, hnode]
  | conditions => simp only [Loader.conditions, nodeLoader, hnode]
  | _ => rfl

theorem Alike.refl (v : Json) : Alike v v := by
  induction hsize : sizeOf v using Nat.strongRecOn generalizing v with
  | ind n ih =>
    cases v with
    | obj fields => exact .obj fun _ ↦ rfl
    | arr values =>
      refine .arr (List.forall₂_same.2 fun v hv ↦ ih (sizeOf v) ?_ v rfl)
      have := List.sizeOf_lt_of_mem hv
      rw [← hsize, Json.arr.sizeOf_spec]
      omega
    | _ =>
      intro entries entries' α form load load' hreads path h h'
      cases hreads <;> rfl

end Alike

/-! ### Nodes that load alike -/

section Nodes

variable {path : Json.Path} {type key : String} {entries entries' : Entries} {α : Type}
  {form : Form} {load : Loader entries α} {load' : Loader entries' α}

/-- A field is absent on both sides, or it is there with values that load alike. -/
theorem present?_cases (h : Option.Rel Alike (field? key entries) (field? key entries')) :
    (present? key entries = none ∧ present? key entries' = none) ∨
      ∃ found found', present? key entries = some found ∧ present? key entries' = some found' ∧
        Alike found.1 found'.1 := by
  rw [field?, field?] at h
  cases hfound : present? key entries with
  | none =>
    cases hfound' : present? key entries' with
    | none => exact .inl ⟨rfl, rfl⟩
    | some found' =>
      rw [hfound, hfound'] at h
      cases h
  | some found =>
    cases hfound' : present? key entries' with
    | none =>
      rw [hfound, hfound'] at h
      cases h
    | some found' =>
      rw [hfound, hfound'] at h
      cases h with
      | some halike => exact .inr ⟨found, found', rfl, rfl, halike⟩

/-- A required field loads alike in values that load alike. -/
theorem required_congr (hload : Reads (nodeLoader entries) (nodeLoader entries') form load load')
    (h : Option.Rel Alike (field? key entries) (field? key entries')) :
    Context.required ⟨path, type, entries⟩ key load =
      Context.required ⟨path, type, entries'⟩ key load' := by
  unfold Context.required
  rcases present?_cases h with ⟨hnone, hnone'⟩ | ⟨found, found', hfound, hfound', halike⟩
  · simp only [hnone, hnone']
  · simp only [hfound, hfound']
    exact halike _ _ _ _ _ _ hload _ _ _

/-- So does an optional one. -/
theorem optional_congr (hload : Reads (nodeLoader entries) (nodeLoader entries') form load load')
    (h : Option.Rel Alike (field? key entries) (field? key entries')) :
    Context.optional ⟨path, type, entries⟩ key load =
      Context.optional ⟨path, type, entries'⟩ key load' := by
  unfold Context.optional
  rcases present?_cases h with ⟨hnone, hnone'⟩ | ⟨found, found', hfound, hfound', halike⟩
  · simp only [hnone, hnone']
  · simp only [hfound, hfound']
    rw [halike _ _ _ _ _ _ hload _ _ found'.2]

/-- Fields that load alike one by one make the same node. -/
theorem ReadsFields.eq {rules : List FieldRule} {c c' : Load Tree}
    (h : ReadsFields path type (nodeLoader entries) (nodeLoader entries') rules c c')
    (hfields : ∀ rule ∈ rules,
      Option.Rel Alike (field? rule.key entries) (field? rule.key entries')) : c = c' := by
  induction h with
  | done => rfl
  | required hload _ ih =>
    obtain ⟨hfield, hrest⟩ := List.forall_mem_cons.1 hfields
    rw [required_congr hload hfield]
    exact congrArg _ (funext fun a ↦ ih a hrest)
  | optional hload _ ih =>
    obtain ⟨hfield, hrest⟩ := List.forall_mem_cons.1 hfields
    rw [optional_congr hload hfield]
    exact congrArg _ (funext fun a ↦ ih a hrest)

/-- The two objects are the same node but for their presentation. -/
structure SameNode (entries entries' : Entries) : Prop where
  type : ∀ path, loadType path entries = loadType path entries'
  location : ∀ path, loadLocation path entries = loadLocation path entries'
  fields : ∀ type, entries.get? "type" = some (.str type) → ∀ rule ∈ fieldsOf type,
    Option.Rel Alike (field? rule.key entries) (field? rule.key entries')
  payload : ∀ type, entries.get? "type" = some (.str type) → type ∉ nodeTypes →
    payload entries = payload entries'

/-- **Entries that say the same make the same node.** -/
theorem SameNode.loadNode_eq (h : SameNode entries entries') (path : Json.Path) :
    loadNode path (.obj entries) = loadNode path (.obj entries') := by
  rw [loadNode_obj, loadNode_obj, ← h.type path, ← h.location path]
  refine Traced.bind_congr fun type htype ↦ Traced.bind_congr fun location _ ↦ ?_
  have hget : entries.get? "type" = some (.str type) := (loadType_eq_ok_iff.1 htype).1
  by_cases hknown : type ∈ nodeTypes
  · exact (loadFields_reads (nodeLoader entries) (nodeLoader entries') hknown).eq
      (h.fields type hget)
  · rw [loadFields_of_not_mem hknown, loadFields_of_not_mem hknown, h.payload type hget hknown]

end Nodes

/-! ### Presentation -/

/-- A change of entries of which only the fields with some keys matter: the entries are put in
another order, an entry is added that is no field, or a field that is absent is written as null. -/
inductive Reword (keys : List String) : Entries → Entries → Prop where
  | permute {entries entries' : Entries} (hkeys : (entries.map Prod.fst).Nodup)
      (hperm : entries.Perm entries') : Reword keys entries entries'
  | add (before after : Entries) {key : String} (v : Json) (hkey : key ∉ keys) :
      Reword keys (before ++ after) (before ++ (key, v) :: after)
  | spell (before after : Entries) {key : String} (hkey : key ∈ keys)
      (habsent : (before ++ after).get? key = none) :
      Reword keys (before ++ after) (before ++ (key, .null) :: after)

/-- **A change of presentation at one place of a value.** Nodes of the types of the format and
locations are reworded, where it is the place that makes an object a location. What is inside a node
of another type is kept as it is, apart from its location. -/
inductive Edit : Json → Json → Prop where
  | node {type : String} {entries entries' : Entries}
      (htype : entries.get? "type" = some (.str type)) (hknown : type ∈ nodeTypes)
      (h : Reword ("type" :: "locationData" :: (fieldsOf type).map FieldRule.key)
        entries entries') : Edit (.obj entries) (.obj entries')
  | location (before after : Entries) {fields fields' : Entries}
      (h : Reword locationKeys fields fields') :
      Edit (.obj (before ++ ("locationData", .obj fields) :: after))
        (.obj (before ++ ("locationData", .obj fields') :: after))
  /-- A node of any type may say that it has no location. -/
  | noLocation (before after : Entries)
      (habsent : (before ++ after).get? "locationData" = none) :
      Edit (.obj (before ++ after)) (.obj (before ++ ("locationData", .null) :: after))
  /-- Inside an item of an array. -/
  | item (before after : List Json) {x y : Json} (h : Edit x y) :
      Edit (.arr (before ++ x :: after)) (.arr (before ++ y :: after))
  /-- Inside the value of a key. -/
  | entry (before after : Entries) {key : String} {x y : Json}
      (hlocation : key = "locationData" → ∀ fields, x ≠ .obj fields)
      (hknown : ∀ type, Entries.get? "type" (before ++ (key, x) :: after) = some (.str type) →
        type ∈ nodeTypes) (h : Edit x y) :
      Edit (.obj (before ++ (key, x) :: after)) (.obj (before ++ (key, y) :: after))
  /-- Inside the value of a key of a location. -/
  | locationEntry (before after before' after' : Entries) {key : String} {x y : Json}
      (h : Edit x y) :
      Edit (.obj (before ++ ("locationData", .obj (before' ++ (key, x) :: after')) :: after))
        (.obj (before ++ ("locationData", .obj (before' ++ (key, y) :: after')) :: after))

/-- Rewording keeps the fields. -/
theorem Reword.field?_eq {keys : List String} {entries entries' : Entries}
    (h : Reword keys entries entries') {key : String} (hmem : key ∈ keys) :
    field? key entries = field? key entries' := by
  cases h with
  | permute hkeys hperm => exact field?_congr (Entries.get?_perm hkeys hperm key)
  | add before after v hkey =>
    refine field?_congr (Entries.get?_insert_of_ne ?_).symm
    rintro rfl
    exact hkey hmem
  | @spell before after absent hkey habsent =>
    by_cases hne : absent = key
    · subst hne
      exact field?_insert_null habsent
    · exact field?_congr (Entries.get?_insert_of_ne hne).symm

/-! ### Loading does not see the presentation -/

/-- What is edited is an object or an array, and stays one. -/
theorem Edit.obj_or_arr {x y : Json} (h : Edit x y) :
    (∃ entries entries', x = .obj entries ∧ y = .obj entries') ∨
      ∃ values values', x = .arr values ∧ y = .arr values' := by
  cases h with
  | item _ _ _ => exact .inr ⟨_, _, rfl, rfl⟩
  | _ => exact .inl ⟨_, _, rfl, rfl⟩

/-- A coordinate is a number, and an edit changes no numbers. -/
theorem Edit.loadCoordinate_eq {x y : Json} (h : Edit x y) (path : Json.Path)
    (before after : Entries) (key k : String) :
    loadCoordinate path (before ++ (key, x) :: after) k =
      loadCoordinate path (before ++ (key, y) :: after) k := by
  rw [loadCoordinate, loadCoordinate]
  rcases Entries.get?_replace_cases before after key k x y with heq | ⟨-, hx, hy⟩
  · rw [heq]
  · rw [hx, hy]
    rcases h.obj_or_arr with ⟨_, _, rfl, rfl⟩ | ⟨_, _, rfl, rfl⟩ <;> rfl

/-- Nor does it change strings. -/
theorem Edit.loadType_eq {x y : Json} (h : Edit x y) (path : Json.Path)
    (before after : Entries) (key : String) :
    loadType path (before ++ (key, x) :: after) = loadType path (before ++ (key, y) :: after) := by
  rw [loadType, loadType]
  rcases Entries.get?_replace_cases before after key "type" x y with heq | ⟨-, hx, hy⟩
  · rw [heq]
  · rw [hx, hy]
    rcases h.obj_or_arr with ⟨_, _, rfl, rfl⟩ | ⟨_, _, rfl, rfl⟩ <;> rfl

/-- An edit of the value of a key is not seen where no location is asked for. -/
theorem Edit.loadLocation_eq {x y : Json} (h : Edit x y) (path : Json.Path)
    (before after : Entries) (key : String)
    (hlocation : key = "locationData" → ∀ fields, x ≠ .obj fields) :
    loadLocation path (before ++ (key, x) :: after) =
      loadLocation path (before ++ (key, y) :: after) := by
  rw [loadLocation, loadLocation]
  rcases Entries.get?_replace_cases before after key "locationData" x y with heq | ⟨hkey, hx, hy⟩
  · rw [heq]
  · rw [hx, hy]
    rcases h.obj_or_arr with ⟨fields, _, rfl, rfl⟩ | ⟨_, _, rfl, rfl⟩
    · exact absurd rfl (hlocation hkey fields)
    · rfl

/-- A location is its four coordinates. -/
theorem loadLocation_replace {fields fields' : Entries} (before after : Entries)
    (hcoordinates : ∀ path, ∀ key ∈ locationKeys,
      loadCoordinate path fields key = loadCoordinate path fields' key) (path : Json.Path) :
    loadLocation path (before ++ ("locationData", .obj fields) :: after) =
      loadLocation path (before ++ ("locationData", .obj fields') :: after) := by
  rw [loadLocation, loadLocation]
  rcases Entries.get?_replace_cases before after "locationData" "locationData" (.obj fields)
    (.obj fields') with heq | ⟨-, hx, hy⟩
  · rw [heq]
  · rw [hx, hy]
    simp only [hcoordinates _ "first_line" (by decide), hcoordinates _ "first_column" (by decide),
      hcoordinates _ "last_line" (by decide), hcoordinates _ "last_column" (by decide)]

theorem rel_alike_refl (found : Option Json) : Option.Rel Alike found found := by
  cases found with
  | none => exact .none
  | some v => exact .some (.refl v)

/-- The location is no field of any type. -/
theorem ne_locationData_of_mem_fieldsOf {type : String} {rule : FieldRule}
    (h : rule ∈ fieldsOf type) : rule.key ≠ "locationData" := by
  obtain ⟨row, hrow, hrule⟩ := exists_row_of_mem_fieldsOf h
  have hrows : ∀ row ∈ format, ∀ rule ∈ row.2, rule.key ≠ "locationData" := by decide +kernel
  exact hrows row hrow rule hrule

/-- A node whose location is presented in another way is the same node. -/
theorem SameNode.of_location {entries entries' : Entries}
    (hget : ∀ key, key ≠ "locationData" → entries.get? key = entries'.get? key)
    (hlocation : ∀ path, loadLocation path entries = loadLocation path entries')
    (hpayload : Tree.payload entries = Tree.payload entries') : SameNode entries entries' where
  type path := loadType_congr (field?_congr (hget "type" (by decide)))
  location := hlocation
  fields type _ rule hrule := by
    rw [field?_congr (hget rule.key (ne_locationData_of_mem_fieldsOf hrule))]
    exact rel_alike_refl _
  payload _ _ _ := hpayload

/-- Nor is it kept with an unknown node. -/
theorem payload_insert_locationData (before after : Entries) (v : Json) :
    payload (before ++ ("locationData", v) :: after) = payload (before ++ after) := by
  simp [payload, List.filter_append]

/-- A reworded node is the same node. -/
theorem SameNode.of_reword {type : String} {entries entries' : Entries}
    (htype : entries.get? "type" = some (.str type)) (hknown : type ∈ nodeTypes)
    (h : Reword ("type" :: "locationData" :: (fieldsOf type).map FieldRule.key) entries entries') :
    SameNode entries entries' where
  type path := loadType_congr (h.field?_eq (by simp))
  location path := loadLocation_congr (h.field?_eq (by simp))
  fields type' htype' rule hrule := by
    obtain rfl : type = type' := by simpa [htype] using htype'
    have hmem : rule.key ∈ (fieldsOf type).map FieldRule.key := List.mem_map_of_mem hrule
    rw [h.field?_eq (List.mem_cons_of_mem _ (List.mem_cons_of_mem _ hmem))]
    exact rel_alike_refl _
  payload type' htype' hunknown := by
    obtain rfl : type = type' := by simpa [htype] using htype'
    exact absurd hknown hunknown

/-- A node with a field that loads alike is the same node. -/
theorem SameNode.of_entry {before after : Entries} {key : String} {x y : Json} (hedit : Edit x y)
    (halike : Alike x y) (hlocation : key = "locationData" → ∀ fields, x ≠ .obj fields)
    (hknown : ∀ type, Entries.get? "type" (before ++ (key, x) :: after) = some (.str type) →
      type ∈ nodeTypes) : SameNode (before ++ (key, x) :: after) (before ++ (key, y) :: after) where
  type path := hedit.loadType_eq path before after key
  location path := hedit.loadLocation_eq path before after key hlocation
  fields type _ rule _ := by
    rcases Entries.get?_replace_cases before after key rule.key x y with heq | ⟨-, hx, hy⟩
    · rw [field?_congr heq]
      exact rel_alike_refl _
    · have hnull : x ≠ .null ∧ y ≠ .null := by
        rcases hedit.obj_or_arr with ⟨_, _, rfl, rfl⟩ | ⟨_, _, rfl, rfl⟩ <;> simp
      rw [field?_eq_some_iff.2 ⟨hx, hnull.1⟩, field?_eq_some_iff.2 ⟨hy, hnull.2⟩]
      exact .some halike
  payload type htype hunknown := absurd (hknown type htype) hunknown

/-- **Values that differ by an edit load alike**, in every place. -/
theorem Edit.alike {x y : Json} (h : Edit x y) : Alike x y := by
  induction h with
  | node htype hknown h => exact .obj (SameNode.of_reword htype hknown h).loadNode_eq
  -- Only the location is edited, so the other keys are found as before.
  | location before after h =>
    refine .obj (SameNode.of_location (fun key hkey ↦ ?_) ?_ ?_).loadNode_eq
    · rw [Entries.get?_insert_of_ne hkey.symm, Entries.get?_insert_of_ne hkey.symm]
    · exact loadLocation_replace before after fun path key hkey ↦
        loadCoordinate_congr (h.field?_eq hkey)
    · rw [payload_insert_locationData, payload_insert_locationData]
  | noLocation before after habsent =>
    refine .obj (SameNode.of_location (fun key hkey ↦ ?_) (fun path ↦ ?_) ?_).loadNode_eq
    · rw [Entries.get?_insert_of_ne hkey.symm]
    · exact loadLocation_congr (field?_insert_null habsent)
    · rw [payload_insert_locationData]
  | item before after _ ih =>
    have hsame : ∀ values, List.Forall₂ Alike values values :=
      fun values ↦ List.forall₂_same.2 fun v _ ↦ .refl v
    exact .arr (List.rel_append (hsame _) (.cons ih (hsame _)))
  | entry before after hlocation hknown h ih =>
    exact .obj (SameNode.of_entry h ih hlocation hknown).loadNode_eq
  | locationEntry before after before' after' h _ =>
    refine .obj (SameNode.of_location (fun key hkey ↦ ?_) ?_ ?_).loadNode_eq
    · rw [Entries.get?_insert_of_ne hkey.symm, Entries.get?_insert_of_ne hkey.symm]
    · exact loadLocation_replace before after fun path k _ ↦
        h.loadCoordinate_eq path before' after' _ k
    · rw [payload_insert_locationData, payload_insert_locationData]

/-- Values that load alike as nodes load alike as trees. -/
theorem Alike.load_eq {x y : Json} (h : Alike x y) : load x = load y := by
  have hnode : loadNode [] x = loadNode [] y :=
    h [("", x)] [("", y)] _ _ _ _ .node [] (sizeOf_entry_lt "" x []) (sizeOf_entry_lt "" y [])
  rw [load, load, hnode]

/-- **Loading does not see the presentation of a tree.** Values that differ by edits, in any number
of places and in either direction, give the same block, or the same error, and the same record of
unknown nodes. -/
theorem load_eq_of_edits {x y : Json} (h : Relation.EqvGen Edit x y) : load x = load y := by
  induction h with
  | rel x y h => exact h.alike.load_eq
  | refl x => rfl
  | symm x y _ ih => exact ih.symm
  | trans x y z _ _ ih ih' => exact ih.trans ih'

/-- A block of one expression. -/
def blockOf (x : Json) : Json := .obj [("type", .str "Block"), ("expressions", .arr [x])]

/-- An edit in an expression is an edit in the block around it. -/
theorem Edit.blockOf {x y : Json} (h : Edit x y) : Edit (blockOf x) (blockOf y) := by
  refine .entry [("type", .str "Block")] [] nofun ?_ (.item [] [] h)
  intro type htype
  obtain rfl : "Block" = type := by simpa [Entries.get?] using htype
  decide

/-- A literal that lacks its value, and the last column of its location. -/
def sparseLiteral : Json :=
  .obj [("type", .str "Literal"), ("locationData",
    .obj [("first_line", .int 0), ("first_column", .int 0), ("last_line", .int 0)])]

/-- The same literal in other words: it says that it has no value. -/
def wordyLiteral : Json :=
  .obj [("value", .null), ("type", .str "Literal"), ("locationData",
    .obj [("last_line", .int 0), ("first_line", .int 0), ("first_column", .int 0)])]

/-- A block with a note in it, whose type comes last. -/
def wordyTree : Json :=
  .obj [("expressions", .arr [wordyLiteral]), ("note", .bool true), ("type", .str "Block")]

theorem load_eq_of_edits_wordy :
    Relation.EqvGen Edit (blockOf sparseLiteral) wordyTree ∧
      (load wordyTree).result = .error (.violated
        [.key "expressions", .index 0, .key "locationData", .key "last_column"] .coordinate) := by
  have hpermute : Edit sparseLiteral (.obj [("type", .str "Literal"), ("locationData",
      .obj [("last_line", .int 0), ("first_line", .int 0), ("first_column", .int 0)])]) :=
    .location [("type", .str "Literal")] [] (.permute (by decide)
      (List.perm_append_singleton ("last_line", Json.int 0)
        [("first_line", Json.int 0), ("first_column", Json.int 0)]))
  have hspell : Edit (.obj [("type", .str "Literal"), ("locationData",
      .obj [("last_line", .int 0), ("first_line", .int 0), ("first_column", .int 0)])])
      wordyLiteral :=
    .node rfl (by decide) (.spell [] _ (by decide +kernel) rfl)
  have hadd : Edit (blockOf wordyLiteral) (.obj [("type", .str "Block"),
      ("expressions", .arr [wordyLiteral]), ("note", .bool true)]) :=
    .node rfl (by decide) (.add [_, _] [] _ (by decide +kernel))
  have hturn : Edit (.obj [("type", .str "Block"), ("expressions", .arr [wordyLiteral]),
      ("note", .bool true)]) wordyTree :=
    .node rfl (by decide) (.permute (by decide)
      (List.perm_append_singleton ("type", Json.str "Block") _).symm)
  have hedits : Relation.EqvGen Edit (blockOf sparseLiteral) wordyTree :=
    .trans _ _ _ (.rel _ _ hpermute.blockOf) (.trans _ _ _ (.rel _ _ hspell.blockOf)
      (.trans _ _ _ (.rel _ _ hadd) (.rel _ _ hturn)))
  refine ⟨hedits, ?_⟩
  rw [← load_eq_of_edits hedits]
  with_unfolding_all rfl

end Tree

end CoffeeTree
