import CoffeeTree.Proofs.Loading.Format
import CoffeeTree.Proofs.Paths

/-!
# What a tree has to be, place by place

The format as a sequence of demands. A demand is a place in a value and what has to stand there, and
`demands` lists them in order: the type of a node, its location, its fields in the order of the
table, each depth first. Like the grammar, the list is drawn from the table `format` and does not
mention loading. Where the grammar says which values are trees, the list says where a value stops
being one: at the first demand that is not met (`FirstOffence`).

Every demand is about a place that the value has room for (`demands_sound`), so the path of an
offence can be followed up to its last step.
-/

namespace CoffeeTree

namespace Tree

open Json (Entries)

/-! ### What is asked of a value -/

/-- The type that stands in an object. -/
def typeIn? (x : Json) : Option String :=
  match x.step? (.key "type") with
  | some (.str type) => some type
  | _ => none

/-- What stands at a place is as it has to be. Nothing stands at the place of a key that is not
there. -/
def Requirement.metBy : Requirement → Option Json → Bool
  | nodeObject, some (.obj _) => true
  | typeName, some (.str type) => !type.isEmpty
  | locationObject, none => true
  | locationObject, some .null => true
  | locationObject, some (.obj _) => true
  | coordinate, some (.int n) => decide (0 ≤ n)
  | required _, some .null => false
  | required _, some _ => true
  | array, some (.arr _) => true
  | boolean, some (.bool _) => true
  | string, some (.str _) => true
  | casePairs, some (.arr _) => true
  | casePair, some (.arr [_, _]) => true
  | nodeOfType type _, some x => typeIn? x == some type
  | _, _ => false

/-- A place that is looked at, and what it has to be. -/
structure Demand where
  path : Json.Path
  requirement : Requirement
  deriving DecidableEq, Repr

namespace Demand

/-- The same place seen from one step further out. -/
def under (step : Json.Step) (d : Demand) : Demand := ⟨step :: d.path, d.requirement⟩

/-- The place in `x` is as it has to be. -/
def met (x : Json) (d : Demand) : Bool := d.requirement.metBy (x.follow? d.path)

end Demand

/-- What an array has to be: cases have a requirement of their own. -/
def Form.arrayOf : Form → Requirement
  | case => .casePairs
  | _ => .array

/-- The location, then its coordinates if it is an object. -/
def locationDemands (entries : Entries) : List Demand :=
  ⟨[.key "locationData"], .locationObject⟩ ::
    match entries.get? "locationData" with
    | some (.obj _) =>
      locationKeys.map fun key ↦ ⟨[.key "locationData", .key key], .coordinate⟩
    | _ => []

mutual

/-- **What is asked of a value that stands in a place, in order and depth first.** A node is an
object, and its type comes first, then its location, then its fields in the order of the table. A
place for one type of nodes asks for the type last, when the node itself is known. Where the value
cannot be followed there is nothing more to ask. -/
def demands : Form → Json → List Demand
  | .string, _ => [⟨[], .string⟩]
  | .boolean, _ => [⟨[], .boolean⟩]
  | .node, .obj entries =>
    ⟨[], .nodeObject⟩ :: ⟨[.key "type"], .typeName⟩ :: (locationDemands entries ++
      (typeIn? (.obj entries)).toList.flatMap fun type ↦
        (fieldsOf type).flatMap fun rule ↦ ruleDemands type entries rule)
  | .node, _ => [⟨[], .nodeObject⟩]
  | .nodeOf type, x =>
    demands .node x ++ (typeIn? x).toList.map fun found ↦ ⟨[], .nodeOfType type found⟩
  | .array item, .arr values => ⟨[], item.arrayOf⟩ :: itemDemands item 0 values
  | .array item, _ => [⟨[], item.arrayOf⟩]
  | .conditions, .arr values => itemDemands .node 0 values
  | .conditions, x => demands .node x
  | .case, .arr [tests, body] =>
    ⟨[], .casePair⟩ :: ((demands .conditions tests).map (Demand.under (.index 0)) ++
      (demands (.nodeOf "Block") body).map (Demand.under (.index 1)))
  | .case, _ => [⟨[], .casePair⟩]
termination_by form x => (sizeOf x, if form = .node then 0 else 1)

/-- What is asked of one field: that it is there if it has to be, then what is asked of its
value. -/
def ruleDemands (type : String) (entries : Entries) (rule : FieldRule) : List Demand :=
  (if rule.required then [⟨[.key rule.key], .required type⟩] else []) ++
    match present? rule.key entries with
    | none => []
    | some ⟨v, _smaller⟩ => (demands rule.form v).map (Demand.under (.key rule.key))
termination_by (sizeOf entries, 0)

/-- What is asked of the items of an array from the one with index `i` on. -/
def itemDemands (item : Form) (i : Nat) : List Json → List Demand
  | [] => []
  | v :: rest => (demands item v).map (Demand.under (.index i)) ++ itemDemands item (i + 1) rest
termination_by values => (sizeOf values, 0)

end

/-- Nothing more is asked of a value that is no object. -/
theorem demands_of_not_obj {x : Json} (hx : ∀ entries, x ≠ .obj entries) :
    demands .node x = [⟨[], .nodeObject⟩] := by
  cases x with
  | obj entries => exact absurd rfl (hx entries)
  | _ => rw [demands]; nofun

/-- A field that is there is what its key leads to. -/
theorem get?_of_present? {key : String} {entries : Entries}
    {found : { v : Json // sizeOf v < sizeOf entries }}
    (h : present? key entries = some found) : entries.get? key = some found.1 ∧ found.1 ≠ .null :=
  map_present?_eq_some_iff.1 (by rw [h]; rfl)

/-! ### Places -/

/-- The types that a requirement names stand in the value: the type of the node that lacks a field,
and the type that was found instead of another one. -/
def Demand.NamesTypes (x : Json) (d : Demand) : Prop :=
  match d.requirement with
  | .required type => ∃ parent key y, d.path = parent ++ [.key key] ∧
      x.follow? parent = some y ∧ typeIn? y = some type
  | .nodeOfType _ found => ∃ y, x.follow? d.path = some y ∧ typeIn? y = some found
  | _ => True

/-- What is asked for is asked of a place in the value. -/
structure Demand.Sound (x : Json) (d : Demand) : Prop where
  reached : x.Reached d.path
  named : d.NamesTypes x
  worded : d.path.Worded

/-- A demand on a part is sound in the whole. -/
theorem Demand.Sound.under {x y : Json} {step : Json.Step} {d : Demand}
    (hstep : x.step? step = some y) (hword : Json.Path.Worded [step]) (h : d.Sound y) :
    (d.under step).Sound x := by
  have hfollow : ∀ path, x.follow? (step :: path) = y.follow? path := by
    intro path
    rw [Json.follow?, hstep]
  obtain ⟨path, requirement⟩ := d
  refine ⟨h.reached.under hstep, ?_, Json.Path.worded_cons_iff.2 ⟨hword, h.worded⟩⟩
  have hnamed := h.named
  cases requirement with
  | required type =>
    obtain ⟨parent, key, z, hpath, hz, htype⟩ := hnamed
    obtain rfl : path = parent ++ [.key key] := hpath
    exact ⟨step :: parent, key, z, rfl, (hfollow parent).trans hz, htype⟩
  | nodeOfType type found =>
    obtain ⟨z, hz, htype⟩ := hnamed
    exact ⟨z, (hfollow path).trans hz, htype⟩
  | _ => trivial

theorem worded_index (i : Nat) : Json.Path.Worded [.index i] := by
  intro name hname
  simp at hname

theorem worded_key {key : String} (h : key.toList.all Json.isWordChar) :
    Json.Path.Worded [.key key] := by
  intro name hname
  obtain rfl : name = key := by simpa using hname
  exact h

/-- The keys of the table are words. -/
theorem all_isWordChar_of_mem_fieldsOf {type : String} {rule : FieldRule}
    (h : rule ∈ fieldsOf type) : rule.key.toList.all Json.isWordChar := by
  obtain ⟨row, hrow, hrule⟩ := exists_row_of_mem_fieldsOf h
  have hrows : ∀ row ∈ format, ∀ rule ∈ row.2, rule.key.toList.all Json.isWordChar := by
    decide +kernel
  exact hrows row hrow rule hrule

/-- The same for all demands on a part. -/
theorem forall_mem_map_under {x y : Json} {step : Json.Step} {asked : List Demand}
    (hstep : x.step? step = some y) (hword : Json.Path.Worded [step])
    (h : ∀ d ∈ asked, d.Sound y) : ∀ d ∈ asked.map (Demand.under step), d.Sound x := by
  intro d hd
  obtain ⟨inner, hinner, rfl⟩ := List.mem_map.1 hd
  exact (h inner hinner).under hstep hword

/-- A demand on the value itself needs no path. -/
theorem sound_here {x : Json} {requirement : Requirement}
    (h : Demand.NamesTypes x ⟨[], requirement⟩) : Demand.Sound x ⟨[], requirement⟩ :=
  ⟨Json.reached_nil x, h, nofun⟩

/-- A demand on a field needs the key only, even if the field is missing. -/
theorem sound_key {entries : Entries} {key : String} {requirement : Requirement}
    (hkey : key.toList.all Json.isWordChar)
    (h : Demand.NamesTypes (.obj entries) ⟨[.key key], requirement⟩) :
    Demand.Sound (.obj entries) ⟨[.key key], requirement⟩ :=
  ⟨Json.reached_singleton ⟨entries, rfl⟩, h, worded_key hkey⟩

theorem sound_arrayOf (x : Json) (item : Form) : Demand.Sound x ⟨[], item.arrayOf⟩ := by
  refine sound_here ?_
  cases item <;> trivial

theorem locationDemands_sound (entries : Entries) :
    ∀ d ∈ locationDemands entries, d.Sound (.obj entries) := by
  have hlocation : "locationData".toList.all Json.isWordChar := by decide +kernel
  refine List.forall_mem_cons.2 ⟨sound_key hlocation trivial, ?_⟩
  cases hget : entries.get? "locationData" with
  | none => nofun
  | some v =>
    cases v with
    | obj fields =>
      have hkeys : ∀ key ∈ locationKeys, key.toList.all Json.isWordChar := by decide +kernel
      intro d hd
      obtain ⟨key, hkey, rfl⟩ := List.mem_map.1 hd
      have hstep : (Json.obj entries).step? (.key "locationData") = some (.obj fields) := hget
      have hinside : Demand.Sound (.obj fields) ⟨[.key key], .coordinate⟩ :=
        sound_key (hkeys key hkey) trivial
      exact hinside.under hstep (worded_key hlocation)
    | _ => nofun

/-- **Whatever is asked for is asked of a place in the value.** The induction is on the demands
themselves: the items of an array stand in the whole array, and the fields of a node in the node. -/
theorem demands_sound (form : Form) (x : Json) : ∀ d ∈ demands form x, d.Sound x := by
  refine demands.induct (fun form x ↦ ∀ d ∈ demands form x, d.Sound x)
    (fun item i values ↦ ∀ all : List Json, (∀ j, all[i + j]? = values[j]?) →
      ∀ d ∈ itemDemands item i values, d.Sound (.arr all))
    (fun type entries rule ↦ typeIn? (.obj entries) = some type →
      rule.key.toList.all Json.isWordChar →
      ∀ d ∈ ruleDemands type entries rule, d.Sound (.obj entries))
    ?string ?boolean ?object ?noObject ?nodeOf ?array ?noArray ?many ?one ?case ?noCase ?nil ?cons
    ?rule form x
  case string =>
    intro x
    rw [demands]
    exact List.forall_mem_singleton.2 (sound_here trivial)
  case boolean =>
    intro x
    rw [demands]
    exact List.forall_mem_singleton.2 (sound_here trivial)
  case object =>
    intro entries hrules
    rw [demands]
    refine List.forall_mem_cons.2 ⟨sound_here trivial, List.forall_mem_cons.2 ⟨?_, ?_⟩⟩
    · exact sound_key (by decide +kernel) trivial
    · refine List.forall_mem_append.2 ⟨locationDemands_sound entries, fun d hd ↦ ?_⟩
      obtain ⟨type, htype, hd⟩ := List.mem_flatMap.1 hd
      obtain ⟨rule, hrule, hd⟩ := List.mem_flatMap.1 hd
      exact hrules type rule (Option.mem_toList.1 htype) (all_isWordChar_of_mem_fieldsOf hrule) d hd
  case noObject =>
    intro x hx
    rw [demands_of_not_obj hx]
    exact List.forall_mem_singleton.2 (sound_here trivial)
  case nodeOf =>
    intro type x hnode
    rw [demands]
    refine List.forall_mem_append.2 ⟨hnode, fun d hd ↦ ?_⟩
    obtain ⟨found, hfound, rfl⟩ := List.mem_map.1 hd
    exact sound_here ⟨x, rfl, Option.mem_toList.1 hfound⟩
  case array =>
    intro item values hitems
    rw [demands]
    refine List.forall_mem_cons.2 ⟨sound_arrayOf _ item, hitems values fun j ↦ ?_⟩
    rw [Nat.zero_add]
  case noArray =>
    intro item x hx
    rw [demands]
    · exact List.forall_mem_singleton.2 (sound_arrayOf x item)
    · exact hx
  case many =>
    intro values hitems
    rw [demands]
    exact hitems values fun j ↦ by rw [Nat.zero_add]
  case one =>
    intro x hx hnode
    rw [demands]
    · exact hnode
    · exact hx
  case case =>
    intro tests body htests hbody
    rw [demands]
    refine List.forall_mem_cons.2 ⟨sound_here trivial, List.forall_mem_append.2 ⟨?_, ?_⟩⟩
    · exact forall_mem_map_under rfl (worded_index 0) htests
    · exact forall_mem_map_under rfl (worded_index 1) hbody
  case noCase =>
    intro x hx
    rw [demands]
    · exact List.forall_mem_singleton.2 (sound_here trivial)
    · exact hx
  case nil =>
    intro item i all _
    rw [itemDemands]
    nofun
  case cons =>
    intro item i v rest hv hrest all hall
    rw [itemDemands]
    refine List.forall_mem_append.2 ⟨forall_mem_map_under (hall 0) (worded_index i) hv, ?_⟩
    refine hrest all fun j ↦ ?_
    rw [Nat.add_assoc, Nat.add_comm 1 j, hall, List.getElem?_cons_succ]
  case rule =>
    intro type entries rule hvalue htype hkey
    rw [ruleDemands]
    refine List.forall_mem_append.2 ⟨?_, ?_⟩
    · split
      · refine List.forall_mem_singleton.2 (sound_key hkey ?_)
        exact ⟨[], rule.key, .obj entries, rfl, rfl, htype⟩
      · nofun
    · split
      · nofun
      · next found smaller hfound =>
        exact forall_mem_map_under (get?_of_present? hfound).1 (worded_key hkey)
          (hvalue found smaller)

/-! ### The first offence -/

/-- **The first offence of a tree**: the path of a place, and what it should have been. -/
structure FirstOffence (x : Json) (path : Json.Path) (requirement : Requirement) : Prop where
  /-- The path can be followed from the root up to its last step. -/
  reached : x.Reached path
  /-- What stands there is not as it has to be, or it is not there. -/
  unmet : requirement.metBy (x.follow? path) = false
  /-- The types that the requirement names are those in the tree. -/
  named : Demand.NamesTypes x ⟨path, requirement⟩
  /-- Everything that comes before it is as it has to be. -/
  first : ∃ before after, demands .node x = before ++ ⟨path, requirement⟩ :: after ∧
    ∀ d ∈ before, d.met x = true

/-- The first offence is the first demand that is not met. -/
theorem firstOffence_iff {x : Json} {d : Demand} :
    FirstOffence x d.path d.requirement ↔
      (demands .node x).find? (fun d ↦ !d.met x) = some d := by
  rw [List.find?_eq_some_iff_append]
  constructor
  · intro h
    obtain ⟨before, after, hdemands, hbefore⟩ := h.first
    have hunmet : d.met x = false := h.unmet
    exact ⟨by rw [hunmet]; rfl, before, after, hdemands, fun u hu ↦ by simp [hbefore u hu]⟩
  · rintro ⟨hunmet, before, after, hdemands, hbefore⟩
    have hsound : d.Sound x := demands_sound .node x d (by rw [hdemands]; simp)
    have hmet : d.met x = false := by simpa using hunmet
    exact ⟨hsound.reached, hmet, hsound.named, before, after, hdemands,
      fun u hu ↦ by simpa using hbefore u hu⟩

/-- The path of an offence can be read back from its text. -/
theorem FirstOffence.worded {x : Json} {path : Json.Path} {requirement : Requirement}
    (h : FirstOffence x path requirement) : path.Worded := by
  obtain ⟨before, after, hdemands, -⟩ := h.first
  exact (demands_sound .node x ⟨path, requirement⟩ (by rw [hdemands]; simp)).worded

end Tree

end CoffeeTree
