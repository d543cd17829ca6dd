/-!
# Positions and locations

A parse tree places its nodes by *locations*: a first and a last position, both inclusive, each a
line and a column counted from zero. A location need not be ordered, and nothing here assumes that
it is.

Locations are combined by taking their *hull*, the earliest first position and the latest last
position. Only the order of coordinates matters for that, so `Extent` is generic in them and
`Location` is its instance at the natural numbers.
-/

namespace CoffeeTree

/-- A line and a column. -/
structure Position (α : Type) where
  line : α
  column : α
  deriving DecidableEq, Repr

namespace Position

variable {α : Type} [LT α]

/-- Positions are ordered by line, and by column on one line. -/
def Before (p q : Position α) : Prop :=
  p.line < q.line ∨ ¬ q.line < p.line ∧ p.column < q.column

instance : LT (Position α) := ⟨Before⟩

instance [DecidableLT α] : DecidableLT (Position α) := fun p q ↦
  inferInstanceAs (Decidable (p.line < q.line ∨ ¬ q.line < p.line ∧ p.column < q.column))

theorem lt_asymm {p q : Position Nat} (h : p < q) : ¬ q < p := by
  have hlt : p.line < q.line ∨ ¬ q.line < p.line ∧ p.column < q.column := h
  show ¬ (q.line < p.line ∨ ¬ p.line < q.line ∧ q.column < p.column)
  omega

end Position

/-- A stretch from a first to a last position, both inclusive. -/
structure Extent (α : Type) where
  first : Position α
  last : Position α
  deriving DecidableEq, Repr

/-- Where a parse tree says that a node stands. -/
abbrev Location := Extent Nat

namespace Extent

variable {α : Type} [LT α] [DecidableLT α]

/-- The least extent that reaches from the earlier first position to the later last position. -/
def merge (a b : Extent α) : Extent α where
  first := if a.first < b.first then a.first else b.first
  last := if a.last < b.last then b.last else a.last

/-- The hull of the extents that are present, if there is one. -/
def hull : List (Option (Extent α)) → Option (Extent α)
  | [] => none
  | none :: rest => hull rest
  | some a :: rest =>
    match hull rest with
    | none => some a
    | some b => some (a.merge b)

/-- What holds of all extents and passes to merged ones holds of their hull. -/
theorem forall_mem_hull {P : Extent α → Prop} (hmerge : ∀ {a b}, P a → P b → P (a.merge b))
    {extents : List (Option (Extent α))} (h : ∀ extent ∈ extents, ∀ a ∈ extent, P a) :
    ∀ a ∈ hull extents, P a := by
  induction extents with
  | nil => exact fun a ha ↦ absurd ha (by simp [hull])
  | cons extent rest ih =>
    have hrest := ih fun other hother ↦ h other (List.mem_cons_of_mem _ hother)
    cases extent with
    | none => exact hrest
    | some a =>
      have ha : P a := h _ List.mem_cons_self a rfl
      rw [hull]
      cases hhull : hull rest with
      | none =>
        intro c hc
        exact Option.some.inj hc ▸ ha
      | some b =>
        intro c hc
        exact Option.some.inj hc ▸ hmerge ha (hrest b hhull)

/-- There is a hull as soon as there is an extent. -/
theorem isSome_hull_iff {extents : List (Option (Extent α))} :
    (hull extents).isSome ↔ ∃ extent ∈ extents, extent.isSome := by
  induction extents with
  | nil => simp [hull]
  | cons extent rest ih =>
    rcases extent with _ | a
    · simpa [hull] using ih
    · have hsome : (hull (some a :: rest)).isSome := by
        rw [hull]
        split <;> rfl
      exact iff_of_true hsome ⟨some a, List.mem_cons_self, rfl⟩

end Extent

end CoffeeTree
