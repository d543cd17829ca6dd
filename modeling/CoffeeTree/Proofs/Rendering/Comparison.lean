import CoffeeTree.Json.Basic
import CoffeeTree.Proofs.Relocation
import Mathlib.Algebra.Field.Rat
import Mathlib.Data.List.Forall2

/-!
# Comparing documents and trees

Documents are compared by what they say: an object is the same as another one if each key has the
same value in both, in whatever order the keys stand, and a number is the same as another one if
they are the same number, written as an integer, as a double or as a truth value (`Json.Same`).
Trees are compared node by node: place, kind and every field (`Node.Same`).

Both leave open when two doubles count as the same. `Binary64.SameNumber` compares them as numbers,
so that a zero has no sign. With equality in its place, nodes are the same only if they are equal
(`Node.same_eq_iff`), and every document is the same as itself (`Json.Same.refl`).
-/

namespace CoffeeTree

/-! ### Numbers -/

namespace Binary64

/-- The number that a sign, a mantissa and an exponent stand for. -/
def number (negative : Bool) (mantissa : Nat) (exponent : Int) : ℚ :=
  (if negative then -1 else 1) * mantissa * 2 ^ exponent

/-- The same number or the same infinity. What is not a number is the same as nothing. -/
inductive SameNumber : Binary64 → Binary64 → Prop where
  | finite {negative negative' : Bool} {mantissa mantissa' : Nat} {exponent exponent' : Int}
      (h : number negative mantissa exponent = number negative' mantissa' exponent') :
      SameNumber (.finite negative mantissa exponent) (.finite negative' mantissa' exponent')
  | infinite (negative : Bool) : SameNumber (.infinite negative) (.infinite negative)

end Binary64

/-! ### Documents -/

namespace Json

/-- The integer that a value is, where truth values are zero and one. -/
def integer? : Json → Option Int
  | bool value => some (if value then 1 else 0)
  | int value => some value
  | _ => none

/-- The two values say the same, where `doubles` tells which doubles are the same. -/
inductive Same (doubles : Binary64 → Binary64 → Prop) : Json → Json → Prop where
  | null : Same doubles null null
  | str (value : String) : Same doubles (str value) (str value)
  | integer {x y : Json} {n : Int} (hx : x.integer? = some n) (hy : y.integer? = some n) :
      Same doubles x y
  | float {x y : Binary64} (h : doubles x y) : Same doubles (float x) (float y)
  | integerFloat {x : Json} {y : Binary64} {n : Int} (hx : x.integer? = some n)
      (hy : y.toInt? = some n) : Same doubles x (float y)
  | floatInteger {x : Binary64} {y : Json} {n : Int} (hx : x.toInt? = some n)
      (hy : y.integer? = some n) : Same doubles (float x) y
  | arr {items items' : List Json} (h : List.Forall₂ (Same doubles) items items') :
      Same doubles (arr items) (arr items')
  | obj {entries entries' : Entries}
      (h : ∀ key, Option.Rel (Same doubles) (entries.get? key) (entries'.get? key)) :
      Same doubles (obj entries) (obj entries')

/-- Entries that belong together one by one have values that belong together under every key. -/
theorem Entries.rel_get? {R : Json → Json → Prop} {entries entries' : Entries}
    (h : List.Forall₂ (fun entry entry' ↦ entry.1 = entry'.1 ∧ R entry.2 entry'.2) entries entries')
    (key : String) : Option.Rel R (entries.get? key) (entries'.get? key) := by
  induction h with
  | nil => exact .none
  | @cons entry entry' _ _ hentry _ ih =>
    obtain ⟨k, v⟩ := entry
    obtain ⟨k', v'⟩ := entry'
    obtain ⟨rfl, hv⟩ : k = k' ∧ R v v' := hentry
    rw [Entries.get?, Entries.get?]
    split
    · exact .some hv
    · exact ih

section

variable {doubles : Binary64 → Binary64 → Prop}

@[simp] theorem same_str_iff {value value' : String} :
    Same doubles (str value) (str value') ↔ value = value' := by
  constructor
  · intro h
    cases h with
    | str => rfl
    | integer hx => exact absurd hx (by simp [integer?])
  · rintro rfl
    exact .str value

@[simp] theorem same_int_iff {value value' : Int} :
    Same doubles (int value) (int value') ↔ value = value' := by
  constructor
  · intro h
    cases h with
    | integer hx hy => exact Option.some.inj (hx.trans hy.symm)
  · rintro rfl
    exact .integer rfl rfl

@[simp] theorem same_bool_iff {value value' : Bool} :
    Same doubles (bool value) (bool value') ↔ value = value' := by
  constructor
  · intro h
    cases h with
    | integer hx hy =>
      have hsame := Option.some.inj (hx.trans hy.symm)
      revert hsame
      cases value <;> cases value' <;> decide
  · rintro rfl
    exact .integer rfl rfl

/-- How doubles are compared is left open. -/
@[simp] theorem same_float_iff {x y : Binary64} :
    Same doubles (float x) (float y) ↔ doubles x y := by
  constructor
  · intro h
    cases h with
    | float h => exact h
    | integer hx => exact absurd hx (by simp [integer?])
    | integerFloat hx => exact absurd hx (by simp [integer?])
    | floatInteger _ hy => exact absurd hy (by simp [integer?])
  · exact .float

@[simp] theorem same_arr_iff {items items' : List Json} :
    Same doubles (arr items) (arr items') ↔ List.Forall₂ (Same doubles) items items' := by
  constructor
  · intro h
    cases h with
    | arr h => exact h
    | integer hx => exact absurd hx (by simp [integer?])
  · exact .arr

/-- Objects are compared by their keys, in any order. -/
@[simp] theorem same_obj_iff {entries entries' : Entries} :
    Same doubles (obj entries) (obj entries') ↔
      ∀ key, Option.Rel (Same doubles) (entries.get? key) (entries'.get? key) := by
  constructor
  · intro h
    cases h with
    | obj h => exact h
    | integer hx => exact absurd hx (by simp [integer?])
  · exact .obj

@[simp] theorem not_same_null_obj {entries : Entries} : ¬ Same doubles null (obj entries) := by
  intro h
  cases h with
  | integer hx => exact absurd hx (by simp [integer?])

@[simp] theorem not_same_obj_null {entries : Entries} : ¬ Same doubles (obj entries) null := by
  intro h
  cases h with
  | integer hx => exact absurd hx (by simp [integer?])

end

namespace Same

variable {doubles : Binary64 → Binary64 → Prop}

/-- Entries that are the same one by one make the same object. -/
theorem of_entries {entries entries' : Entries}
    (h : List.Forall₂ (fun entry entry' ↦ entry.1 = entry'.1 ∧ Same doubles entry.2 entry'.2)
      entries entries') : Same doubles (.obj entries) (.obj entries') :=
  .obj fun key ↦ Entries.rel_get? h key

/-- A document is the same as itself, unless its doubles are not. -/
theorem refl (hdoubles : ∀ x, doubles x x) (v : Json) : Same doubles v v := by
  -- By induction on the size, since objects are compared by their keys and not entry by entry.
  induction hsize : sizeOf v using Nat.strongRecOn generalizing v with
  | ind n ih =>
    cases v with
    | null => exact .null
    | bool value => exact .integer rfl rfl
    | int value => exact .integer rfl rfl
    | float value => exact .float (hdoubles value)
    | str value => exact .str value
    | arr items =>
      refine .arr (List.forall₂_same.2 fun item hitem ↦ ih (sizeOf item) ?_ item rfl)
      have := List.sizeOf_lt_of_mem hitem
      rw [← hsize, Json.arr.sizeOf_spec]
      omega
    | obj entries =>
      refine .of_entries (List.forall₂_same.2 fun entry hentry ↦ ⟨rfl, ?_⟩)
      refine ih (sizeOf entry.2) ?_ entry.2 rfl
      have := List.sizeOf_lt_of_mem hentry
      obtain ⟨key, value⟩ := entry
      rw [Prod.mk.sizeOf_spec] at this
      rw [← hsize, Json.obj.sizeOf_spec]
      show sizeOf value < _
      omega

end Same

end Json

/-! ### Trees -/

/-- The two parts that are no nodes say the same. -/
def Scalar.Same (doubles : Binary64 → Binary64 → Prop) : Scalar → Scalar → Prop
  | str value, str value' => value = value'
  | int value, int value' => value = value'
  | float value, float value' => doubles value value'
  | bool value, bool value' => value = value'
  | _, _ => False

/-- If doubles are compared by equality then so are all scalars. -/
theorem Scalar.same_eq_iff {x y : Scalar} : x.Same (· = ·) y ↔ x = y := by
  cases x <;> cases y <;> simp [Same]

/-- The two fields hold the same, where `parts` tells which parts are the same. -/
inductive Field.Same (doubles : Binary64 → Binary64 → Prop) {α β : Type} (parts : α → β → Prop) :
    Field α → Field β → Prop where
  | scalar {x y : Scalar} (h : x.Same doubles y) : Same doubles parts (scalar x) (scalar y)
  | one {x : α} {y : β} (h : parts x y) : Same doubles parts (one x) (one y)
  | opt {x : Option α} {y : Option β} (h : Option.Rel parts x y) :
      Same doubles parts (opt x) (opt y)
  | many {x : List α} {y : List β} (h : List.Forall₂ parts x y) :
      Same doubles parts (many x) (many y)

/-- The two shapes are of one kind, and their fields hold the same under the same names. -/
structure Shape.Same (doubles : Binary64 → Binary64 → Prop) {α β : Type} (parts : α → β → Prop)
    (s : Shape α) (t : Shape β) : Prop where
  kind_eq : s.kind = t.kind
  fields : List.Forall₂ (fun entry entry' ↦
    entry.1 = entry'.1 ∧ Field.Same doubles parts entry.2 entry'.2) s.fields t.fields

/-- The two nodes stand at the same place and are the same there. -/
def Node.Same (doubles : Binary64 → Binary64 → Prop) : Node → Node → Prop :=
  fold fun place shape other ↦
    place = other.place ∧ shape.Same doubles (fun part otherPart ↦ part otherPart) other.shape

section

variable {doubles : Binary64 → Binary64 → Prop} {α β γ : Type}

/-- A relation between lists may be weakened on their members. -/
theorem forall₂_imp_of_mem {R S : α → β → Prop} {l : List α} {l' : List β}
    (h : List.Forall₂ R l l') (himp : ∀ a ∈ l, ∀ b ∈ l', R a b → S a b) :
    List.Forall₂ S l l' := by
  obtain ⟨hlength, hpairs⟩ := List.forall₂_iff_zip.1 h
  refine List.forall₂_iff_zip.2 ⟨hlength, fun hab ↦ ?_⟩
  obtain ⟨ha, hb⟩ := List.of_mem_zip hab
  exact himp _ ha _ hb (hpairs hab)

namespace Field

theorem same_map_iff {parts : β → γ → Prop} {g : α → β} {x : Field α} {y : Field γ} :
    Same doubles parts (x.map g) y ↔ Same doubles (fun a c ↦ parts (g a) c) x y := by
  constructor
  · intro h
    cases x with
    | scalar value =>
      cases h with
      | scalar h => exact .scalar h
    | one part =>
      cases h with
      | one h => exact .one h
    | opt part =>
      cases part with
      | none =>
        rcases h with _ | _ | ⟨_ | _⟩
        exact .opt .none
      | some part =>
        rcases h with _ | _ | ⟨⟨h⟩⟩
        exact .opt (.some h)
    | many parts =>
      cases h with
      | many h => exact .many (List.forall₂_map_left_iff.1 h)
  · intro h
    cases h with
    | scalar h => exact .scalar h
    | one h => exact .one h
    | opt h =>
      cases h with
      | none => exact .opt .none
      | some h => exact .opt (.some h)
    | many h => exact .many (List.forall₂_map_left_iff.2 h)

/-- Only the parts that the fields hold matter. -/
theorem Same.imp {parts parts' : α → β → Prop} {x : Field α} {y : Field β}
    (h : Same doubles parts x y) (himp : ∀ a ∈ x.parts, ∀ b ∈ y.parts, parts a b → parts' a b) :
    Same doubles parts' x y := by
  cases h with
  | scalar h => exact .scalar h
  | one h => exact .one (himp _ List.mem_cons_self _ List.mem_cons_self h)
  | opt h =>
    cases h with
    | none => exact .opt .none
    | some h => exact .opt (.some (himp _ List.mem_cons_self _ List.mem_cons_self h))
  | many h => exact .many (forall₂_imp_of_mem h himp)

/-- Equal scalars and equal parts make equal fields. -/
theorem eq_of_same {x y : Field α} (h : Same (· = ·) (· = ·) x y) : x = y := by
  cases h with
  | scalar h => rw [Scalar.same_eq_iff.1 h]
  | one h => rw [h]
  | opt h =>
    cases h with
    | none => rfl
    | some h => rw [h]
  | many h =>
    rw [List.forall₂_eq_eq_eq] at h
    rw [h]

theorem same_self (x : Field α) : Same (· = ·) (· = ·) x x := by
  cases x with
  | scalar value => exact .scalar (Scalar.same_eq_iff.2 rfl)
  | one part => exact .one rfl
  | opt part =>
    cases part with
    | none => exact .opt .none
    | some part => exact .opt (.some rfl)
  | many parts => exact .many (List.forall₂_same.2 fun _ _ ↦ rfl)

end Field

namespace Shape

theorem Same.imp {parts parts' : α → β → Prop} {s : Shape α} {t : Shape β}
    (h : s.Same doubles parts t)
    (himp : ∀ a ∈ s.children, ∀ b ∈ t.children, parts a b → parts' a b) :
    s.Same doubles parts' t := by
  refine ⟨h.kind_eq, forall₂_imp_of_mem h.fields fun entry hentry entry' hentry' hfield ↦ ?_⟩
  refine ⟨hfield.1, hfield.2.imp fun a ha b hb ↦ himp a ?_ b ?_⟩
  · exact List.mem_flatMap.2 ⟨entry, hentry, ha⟩
  · exact List.mem_flatMap.2 ⟨entry', hentry', hb⟩

theorem same_map_iff {parts : β → γ → Prop} {g : α → β} {s : Shape α} {t : Shape γ} :
    (s.map g).Same doubles parts t ↔ s.Same doubles (fun a c ↦ parts (g a) c) t := by
  have hfields : List.Forall₂ (fun entry entry' ↦
        entry.1 = entry'.1 ∧ Field.Same doubles parts entry.2 entry'.2) (s.map g).fields t.fields ↔
      List.Forall₂ (fun entry entry' ↦ entry.1 = entry'.1 ∧
        Field.Same doubles (fun a c ↦ parts (g a) c) entry.2 entry'.2) s.fields t.fields := by
    rw [fields_map, List.forall₂_map_left_iff]
    simp only [Field.same_map_iff]
  constructor
  · rintro ⟨hkind, h⟩
    exact ⟨(kind_map g s).symm.trans hkind, hfields.1 h⟩
  · rintro ⟨hkind, h⟩
    exact ⟨(kind_map g s).trans hkind, hfields.2 h⟩

/-- A shape is its kind and its fields. -/
theorem eq_of_fields {s t : Shape α} (hkind : s.kind = t.kind) (hfields : s.fields = t.fields) :
    s = t := by
  cases s <;> cases t <;> simp only [kind, reduceCtorEq, Kind.binary.injEq, Kind.unary.injEq,
    Kind.function.injEq] at hkind <;> simp_all [fields]

theorem same_eq_iff {s t : Shape α} : s.Same (· = ·) (· = ·) t ↔ s = t := by
  constructor
  · rintro ⟨hkind, h⟩
    have hfields : List.Forall₂ (· = ·) s.fields t.fields :=
      h.imp fun _ _ hentry ↦ Prod.ext hentry.1 (Field.eq_of_same hentry.2)
    rw [List.forall₂_eq_eq_eq] at hfields
    exact eq_of_fields hkind hfields
  · rintro rfl
    exact ⟨rfl, List.forall₂_same.2 fun entry _ ↦ ⟨rfl, entry.2.same_self⟩⟩

end Shape

namespace Node

/-- **What it means for two nodes to be the same.** -/
theorem same_iff {a b : Node} :
    a.Same doubles b ↔ a.place = b.place ∧ a.shape.Same doubles (Same doubles) b.shape := by
  cases a with
  | mk place shape =>
    show place = b.place ∧ (foldShape _ shape).Same doubles _ b.shape ↔ _
    rw [foldShape_eq_map, Shape.same_map_iff]
    rfl

/-- If doubles are the same only when they are equal, then so are nodes. -/
theorem same_eq_iff {a b : Node} : a.Same (· = ·) b ↔ a = b := by
  induction a using induction_children generalizing b with
  | hstep a ih =>
    obtain ⟨place, shape⟩ := a
    obtain ⟨place', shape'⟩ := b
    have hshape : shape.Same (· = ·) (Same (· = ·)) shape' ↔ shape.Same (· = ·) (· = ·) shape' :=
      ⟨fun h ↦ h.imp fun c hc _ _ ↦ (ih c hc).1, fun h ↦ h.imp fun c hc _ _ ↦ (ih c hc).2⟩
    rw [same_iff, mk.injEq, ← Shape.same_eq_iff, ← hshape]
    rfl

end Node

end

end CoffeeTree
