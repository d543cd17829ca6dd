import CoffeeTree.Node.Json
import Mathlib.Data.List.Nodup

/-!
# The document of a node

The JSON form of a node is one flat object (`Node.toJson_eq`): the type, where the node stands, and
its fields, all under keys of their own. No key stands twice (`Node.nodup_keys`), whatever the kind
of the node is, so an entry is found under its key (`Node.get?_entries`), and what the object has no
entry for is not found (`Json.Entries.get?_eq_none`).
-/

namespace CoffeeTree

namespace Json.Entries

variable {entries : Entries} {key : String} {v : Json}

theorem get?_eq_none (h : key ∉ entries.map Prod.fst) : entries.get? key = none := by
  induction entries with
  | nil => rfl
  | cons entry rest ih =>
    obtain ⟨k, v⟩ := entry
    rw [List.map_cons, List.mem_cons, not_or] at h
    rw [get?, if_neg (Ne.symm h.1), ih h.2]

/-- Every entry is found if the keys are different. -/
theorem get?_of_mem (hkeys : (entries.map Prod.fst).Nodup) (h : (key, v) ∈ entries) :
    entries.get? key = some v := by
  induction entries with
  | nil => exact absurd h List.not_mem_nil
  | cons entry rest ih =>
    obtain ⟨k, w⟩ := entry
    obtain ⟨hfirst, hrest⟩ := List.nodup_cons.1 hkeys
    rw [get?]
    rcases List.mem_cons.1 h with heq | hmem
    · obtain ⟨rfl, rfl⟩ := Prod.mk.inj heq
      exact if_pos rfl
    · -- The key stands further on, so it is not the first one.
      have hmemKeys : key ∈ rest.map Prod.fst := List.mem_map_of_mem hmem
      have hne : k ≠ key := fun hk ↦ hfirst (hk ▸ hmemKeys)
      rw [if_neg hne, ih hrest hmem]

end Json.Entries

/-- The keys under which a document can say where a node stands. -/
def Place.keys : List String := ["virtual", "line", "column", "range", "raw"]

/-- The keys of a node, whatever is said about its place, are all different. -/
theorem Shape.nodup_keys {α : Type} (shape : Shape α) :
    ("type" :: (Place.keys ++ shape.fields.map (·.1.camel))).Nodup := by
  cases shape <;> simp [fields, FieldName.camel, FieldName.snake, Place.keys]

/-- A place has some of its keys, in their order. -/
theorem Place.sublist_keys (raw : Bool) (place : Option Place) :
    ((entries raw place).map Prod.fst).Sublist keys := by
  cases place with
  | none => cases raw <;> decide
  | some place =>
    cases raw with
    | false => exact (by decide : ["line", "column", "range"].Sublist keys)
    | true => exact (by decide : ["line", "column", "range", "raw"].Sublist keys)

namespace Node

variable {raw : Bool}

/-- The entries of the document of a node. -/
def entries (raw : Bool) (n : Node) : Json.Entries :=
  ("type", .str n.kind.name) :: (Place.entries raw n.place ++
    n.shape.fields.map fun entry ↦ (entry.1.camel, (entry.2.map (toJson raw)).toJson))

/-- **The document of a node** is the object of its entries, in which each part stands with its own
document. -/
theorem toJson_eq (raw : Bool) (n : Node) : n.toJson raw = .obj (n.entries raw) := by
  cases n with
  | mk place shape =>
    rw [toJson, fold, objectOf, kind_foldShape, fields_foldShape, List.map_map]
    rfl

theorem map_fst_entries (raw : Bool) (n : Node) : (n.entries raw).map Prod.fst =
    "type" :: ((Place.entries raw n.place).map Prod.fst ++ n.shape.fields.map (·.1.camel)) := by
  rw [entries, List.map_cons, List.map_append, List.map_map]
  rfl

/-- **The keys of a node are different**: those of its place, of its fields, and the type. -/
theorem nodup_keys (raw : Bool) (n : Node) : ((n.entries raw).map Prod.fst).Nodup := by
  rw [map_fst_entries]
  refine n.shape.nodup_keys.sublist (List.Sublist.cons_cons _ ?_)
  exact (Place.sublist_keys raw n.place).append (List.Sublist.refl _)

/-- So everything that is written of a node is found under its key. -/
theorem get?_entries {n : Node} {key : String} {v : Json} (h : (key, v) ∈ n.entries raw) :
    (n.entries raw).get? key = some v :=
  Json.Entries.get?_of_mem (n.nodup_keys raw) h

theorem get?_type (n : Node) : (n.entries raw).get? "type" = some (.str n.kind.name) :=
  get?_entries List.mem_cons_self

theorem get?_place {n : Node} {key : String} {v : Json} (h : (key, v) ∈ Place.entries raw n.place) :
    (n.entries raw).get? key = some v :=
  get?_entries (List.mem_cons_of_mem _ (List.mem_append_left _ h))

theorem get?_field {n : Node} {entry : FieldName × Field Node} (h : entry ∈ n.shape.fields) :
    (n.entries raw).get? entry.1.camel = some (entry.2.map (toJson raw)).toJson :=
  get?_entries (List.mem_cons_of_mem _ (List.mem_append_right _ (List.mem_map_of_mem h)))

/-- A node that has a place does not say that it is virtual. -/
theorem get?_virtual {n : Node} {place : Place} (h : n.place = some place) :
    (n.entries raw).get? "virtual" = none := by
  refine Json.Entries.get?_eq_none fun hmem ↦ ?_
  rw [map_fst_entries, h] at hmem
  have hnodup := (List.nodup_cons.1 n.shape.nodup_keys).2
  have hfields : "virtual" ∉ n.shape.fields.map (·.1.camel) :=
    List.disjoint_of_nodup_append hnodup (by decide)
  rcases List.mem_cons.1 hmem with htype | hmem
  · exact absurd htype (by decide)
  · rcases List.mem_append.1 hmem with hplace | hfield
    · cases raw <;> exact absurd hplace (by simp [Place.entries])
    · exact hfields hfield

end Node

end CoffeeTree
