import CoffeeTree.Tree.Json
import CoffeeTree.Tree.Load

/-!
# What a loader reads

A node is loaded from the entries of an object: its type, its location, its fields. This module says
for each of these readings what it depends on.

A field is read with `present?`, which carries a proof that the value is smaller than the entries.
What it finds is the value of the key unless that is null (`map_present?_eq_some_iff`,
`present?_eq_none_iff`), so a field can be followed through `Json.Entries.get?` alone. The type and
the location are read without a trace, and each is given back by what is written for it. A type that
is none of `nodeTypes` makes an unknown node, which keeps the entries that are left (`payload`).
-/

namespace CoffeeTree

namespace Traced

variable {ω ε α β : Type} {c : Traced ω ε α}

/-- A computation that records nothing and succeeds is its result. -/
theorem eq_pure {a : α} (hevents : c.events = []) (hresult : c.result = .ok a) : c = pure a := by
  obtain ⟨events, result⟩ := c
  obtain rfl : events = [] := hevents
  obtain rfl : result = .ok a := hresult
  rfl

/-- A sequence of steps that record nothing records nothing. -/
theorem events_bind_eq_nil {next : α → Traced ω ε β} (hc : c.events = [])
    (hnext : ∀ a, (next a).events = []) : (c >>= next).events = [] := by
  cases hresult : c.result with
  | error e => rw [events_bind_of_error hresult, hc]
  | ok a => rw [events_bind_of_ok hresult, hc, hnext, List.append_nil]

end Traced

namespace Tree

open Json (Entries)

/-! ### Keys -/

theorem present?_cons_null (key : String) (rest : Entries) :
    present? key ((key, .null) :: rest) = none :=
  if_pos rfl

theorem present?_cons_self {key : String} {v : Json} {rest : Entries} (hv : v ≠ .null) :
    present? key ((key, v) :: rest) = some ⟨v, sizeOf_entry_lt key v rest⟩ := by
  cases v with
  | null => exact absurd rfl hv
  | _ => exact if_pos rfl

theorem map_present?_cons_of_ne {key k : String} {v : Json} {rest : Entries} (hk : k ≠ key) :
    (present? key ((k, v) :: rest)).map Subtype.val = (present? key rest).map Subtype.val := by
  have hrest : present? key ((k, v) :: rest) = (present? key rest).map fun found ↦
      ⟨found.1, Nat.lt_trans found.2 (sizeOf_entries_lt (k, v) rest)⟩ := if_neg hk
  rw [hrest, Option.map_map]
  rfl

/-- A field is there when its key has a value that is not null. -/
theorem map_present?_eq_some_iff {key : String} {entries : Entries} {v : Json} :
    (present? key entries).map Subtype.val = some v ↔ entries.get? key = some v ∧ v ≠ .null := by
  induction entries with
  | nil => simp [present?, Entries.get?]
  | cons entry rest ih =>
    obtain ⟨k, w⟩ := entry
    by_cases hk : k = key
    · subst hk
      rw [Entries.get?, if_pos rfl, Option.some_inj]
      by_cases hw : w = .null
      · rw [hw, present?_cons_null]
        exact ⟨nofun, fun h ↦ absurd h.1.symm h.2⟩
      · rw [present?_cons_self hw]
        constructor
        · intro h
          obtain rfl : w = v := Option.some.inj h
          exact ⟨rfl, hw⟩
        · intro h
          exact congrArg some h.1
    · rw [map_present?_cons_of_ne hk, Entries.get?, if_neg hk]
      exact ih

/-- A value under the key is found, with a proof that it is smaller. -/
theorem exists_present?_eq_some {key : String} {entries : Entries} {v : Json}
    (hget : entries.get? key = some v) (hv : v ≠ .null) :
    ∃ h, present? key entries = some ⟨v, h⟩ := by
  obtain ⟨⟨w, h⟩, hfound, rfl⟩ :=
    Option.map_eq_some_iff.1 (map_present?_eq_some_iff.2 ⟨hget, hv⟩)
  exact ⟨h, hfound⟩

/-- Nothing is found if the key is missing or null. -/
theorem present?_eq_none_iff {key : String} {entries : Entries} :
    present? key entries = none ↔ ∀ v, entries.get? key = some v → v = .null := by
  rw [← Option.map_eq_none_iff (f := Subtype.val), Option.eq_none_iff_forall_ne_some]
  refine forall_congr' fun v ↦ ?_
  rw [Ne, map_present?_eq_some_iff, not_and, Classical.not_not]

/-! ### Types and locations -/

theorem events_loadType (path : Json.Path) (entries : Entries) :
    (loadType path entries).events = [] := by
  rw [loadType]
  split
  · split <;> rfl
  · rfl

/-- A type is never empty. -/
theorem isEmpty_of_loadType {path : Json.Path} {entries : Entries} {type : String}
    (h : (loadType path entries).result = .ok type) : type.isEmpty = false := by
  rw [loadType] at h
  split at h
  · split at h
    · cases h
    · next hempty =>
      obtain rfl := Except.ok.inj h
      exact Bool.eq_false_iff.2 hempty
  · cases h

/-- A type that is written is read back. -/
theorem loadType_of_get? {path : Json.Path} {entries : Entries} {type : String}
    (hget : entries.get? "type" = some (.str type)) (htype : type.isEmpty = false) :
    loadType path entries = pure type := by
  rw [loadType, hget]
  exact if_neg (Bool.eq_false_iff.1 htype)

theorem events_loadCoordinate (path : Json.Path) (entries : Entries) (key : String) :
    (loadCoordinate path entries key).events = [] := by
  rw [loadCoordinate]
  split
  · split <;> rfl
  · rfl

theorem events_loadLocation (path : Json.Path) (entries : Entries) :
    (loadLocation path entries).events = [] := by
  rw [loadLocation]
  split
  · rfl
  · rfl
  · refine Traced.events_bind_eq_nil (events_loadCoordinate _ _ _) fun firstLine ↦ ?_
    refine Traced.events_bind_eq_nil (events_loadCoordinate _ _ _) fun firstColumn ↦ ?_
    refine Traced.events_bind_eq_nil (events_loadCoordinate _ _ _) fun lastLine ↦ ?_
    exact Traced.events_bind_eq_nil (events_loadCoordinate _ _ _) fun lastColumn ↦ rfl
  · rfl

/-- A location is given back by its JSON form. -/
theorem loadLocation_of_get? {path : Json.Path} {entries : Entries} {loc : Location}
    (h : entries.get? "locationData" = some loc.toJson) :
    loadLocation path entries = pure (some loc) := by
  rw [loadLocation, h]
  rfl

/-- A location that is missing or null is none. -/
theorem loadLocation_of_none {path : Json.Path} {entries : Entries}
    (h : ∀ v, entries.get? "locationData" = some v → v = .null) :
    loadLocation path entries = pure none := by
  rw [loadLocation]
  cases hget : entries.get? "locationData" with
  | none => rfl
  | some v =>
    obtain rfl : v = .null := h v hget
    rfl

/-! ### Nodes -/

theorem loadNode_obj (path : Json.Path) (entries : Entries) :
    loadNode path (.obj entries) = (do
      let type ← loadType path entries
      let location ← loadLocation path entries
      loadFields ⟨path, type, entries⟩ location fun inner v _ ↦ loadNode inner v) := by
  rw [loadNode]

/-- The types of nodes that the format knows. -/
def nodeTypes : List String :=
  ["Access", "Arr", "Assign", "Block", "Bool", "Call", "Class", "Code", "If", "Index", "Literal",
    "Null", "Obj", "Op", "Param", "Parens", "Switch", "Value", "While"]

/-- A node of an unknown type is recorded and kept with its payload. -/
theorem loadFields_of_not_mem {path : Json.Path} {type : String} {entries : Entries}
    {location : Option Location} {node : Loader entries Tree} (htype : type ∉ nodeTypes) :
    loadFields ⟨path, type, entries⟩ location node = (do
      Traced.record ⟨type, path⟩
      pure (.unknown location type (payload entries))) := by
  unfold loadFields
  split
  case h_20 => rfl
  all_goals
    next hname =>
      obtain rfl : type = _ := hname
      exact absurd (by simp [nodeTypes]) htype

/-- The payload has no location, which the node keeps itself. -/
theorem get?_locationData_payload (entries : Entries) :
    (payload entries).get? "locationData" = none := by
  induction entries with
  | nil => rfl
  | cons entry rest ih =>
    rw [payload, List.filter_cons]
    split
    · next hkept =>
      have hkey : entry.1 ≠ "locationData" := by simp at hkept; exact hkept.2
      rw [Entries.get?, if_neg hkey]
      exact ih
    · exact ih

/-- Nothing is left to remove from a payload. -/
theorem payload_payload (entries : Entries) : payload (payload entries) = payload entries := by
  rw [payload, payload, List.filter_filter]
  simp

end Tree

end CoffeeTree
