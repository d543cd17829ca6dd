import CoffeeTree.Proofs.Positions
import Mathlib.Data.Prod.Lex
import Mathlib.Order.Bounds.Basic

/-!
# Hulls

The hull of a list of extents is computed from the right, one merge at a time, and a merge treats
its two sides differently when they tie. None of that can be seen in the result. Positions are
linearly ordered, by line and then by column, so a merge is a minimum and a maximum
(`Extent.merge_eq`), and the hull goes from the least first position to the greatest last position
among the extents that are present (`Extent.hull_eq_some_iff`). It depends on nothing but which
extents these are (`Extent.hull_congr`), and a part of the list may be merged beforehand
(`Extent.hull_hull_cons`). `Extent.hull_exact` says all of it at once.

Coordinates are those of any linear order, and an extent may end before it starts.

In a source, the order of positions is that of their offsets, as long as the positions are on their
lines. Then the offsets of a hull are the least and the greatest offset
(`Source.offset_hull`). A column that runs over the end of its line breaks this: its line still
comes first, but its offset belongs to a later line.
-/

namespace CoffeeTree

/-! ### The order of positions -/

namespace Position

variable {α : Type}

/-- The line and the column as a pair, which is compared by its first component first. -/
def key (p : Position α) : α ×ₗ α := toLex (p.line, p.column)

/-- A position is told by its line and its column. -/
theorem key_injective : Function.Injective (key : Position α → α ×ₗ α) := by
  rintro ⟨line, column⟩ ⟨line', column'⟩ h
  obtain ⟨hline, hcolumn⟩ := Prod.mk.inj (toLex.injective h)
  rw [Position.mk.injEq]
  exact ⟨hline, hcolumn⟩

variable [LinearOrder α]

/-- Positions are ordered by their lines, and on one line by their columns. -/
theorem lt_iff_key_lt {p q : Position α} : p < q ↔ p.key < q.key := by
  show p.line < q.line ∨ ¬ q.line < p.line ∧ p.column < q.column ↔ _
  rw [key, key, Prod.Lex.toLex_lt_toLex]
  constructor
  · rintro (hline | ⟨hline, hcolumn⟩)
    · exact .inl hline
    · rcases (not_lt.1 hline).lt_or_eq with hlt | heq
      · exact .inl hlt
      · exact .inr ⟨heq, hcolumn⟩
  · rintro (hline | ⟨hline, hcolumn⟩)
    · exact .inl hline
    · exact .inr ⟨hline.not_gt, hcolumn⟩

/-- Positions are linearly ordered, and `<` is the order that they have already. -/
instance : LinearOrder (Position α) where
  le p q := p.key ≤ q.key
  lt p q := p < q
  le_refl p := le_refl p.key
  le_trans p q r hpq hqr := le_trans (a := p.key) hpq hqr
  lt_iff_le_not_ge _ _ := lt_iff_key_lt.trans lt_iff_le_not_ge
  le_antisymm _ _ hpq hqp := key_injective (le_antisymm hpq hqp)
  le_total p q := le_total p.key q.key
  toDecidableLE p q := inferInstanceAs (Decidable (p.key ≤ q.key))
  toDecidableLT := inferInstance

end Position

namespace Extent

variable {α : Type}

/-- The extents that are present in a list. -/
def present (extents : List (Option (Extent α))) : Set (Extent α) := {a | some a ∈ extents}

theorem present_cons_none (extents : List (Option (Extent α))) :
    present (none :: extents) = present extents := by
  ext a
  simp [present]

theorem present_cons_some (a : Extent α) (extents : List (Option (Extent α))) :
    present (some a :: extents) = insert a (present extents) := by
  ext b
  simp [present]

variable [LinearOrder α]

/-! ### Merging two extents -/

/-- **A merge is a minimum and a maximum.** -/
theorem merge_eq (a b : Extent α) : a.merge b = ⟨min a.first b.first, max a.last b.last⟩ := by
  have hfirst : (a.merge b).first = min a.first b.first := by
    show (if a.first < b.first then a.first else b.first) = _
    by_cases h : a.first < b.first
    · rw [if_pos h, min_eq_left h.le]
    · rw [if_neg h, min_eq_right (not_lt.1 h)]
  have hlast : (a.merge b).last = max a.last b.last := by
    show (if a.last < b.last then b.last else a.last) = _
    by_cases h : a.last < b.last
    · rw [if_pos h, max_eq_right h.le]
    · rw [if_neg h, max_eq_left (not_lt.1 h)]
  rw [← hfirst, ← hlast]

theorem merge_assoc (a b c : Extent α) : (a.merge b).merge c = a.merge (b.merge c) := by
  rw [merge_eq, merge_eq, merge_eq, merge_eq, min_assoc, max_assoc]

/-! ### The hull of a list -/

/-- The extent goes from the least first position to the greatest last position of those that are
present. -/
structure IsHull (extents : List (Option (Extent α))) (c : Extent α) : Prop where
  first : IsLeast (Extent.first '' present extents) c.first
  last : IsGreatest (Extent.last '' present extents) c.last

/-- There is at most one hull. -/
theorem IsHull.unique {extents : List (Option (Extent α))} {c d : Extent α}
    (hc : IsHull extents c) (hd : IsHull extents d) : c = d := by
  obtain ⟨first, last⟩ := c
  obtain ⟨first', last'⟩ := d
  obtain rfl : first = first' := hc.first.unique hd.first
  obtain rfl : last = last' := hc.last.unique hd.last
  rfl

/-- There is no hull if nothing is present. -/
theorem hull_eq_none_iff {extents : List (Option (Extent α))} :
    hull extents = none ↔ ∀ extent ∈ extents, extent = none := by
  rw [← Option.not_isSome_iff_eq_none, isSome_hull_iff]
  simp

theorem present_eq_empty_iff {extents : List (Option (Extent α))} :
    present extents = ∅ ↔ hull extents = none := by
  rw [hull_eq_none_iff, Set.eq_empty_iff_forall_notMem]
  constructor
  · intro h extent hextent
    rcases extent with _ | a
    · rfl
    · exact absurd hextent (h a)
  · intro h a ha
    exact absurd (h (some a) ha) (by simp)

/-- What the recursion computes is the hull. -/
theorem isHull_of_hull {extents : List (Option (Extent α))} {c : Extent α}
    (h : hull extents = some c) : IsHull extents c := by
  induction extents generalizing c with
  | nil => exact absurd h (by simp [hull])
  | cons extent rest ih =>
    rcases extent with _ | a
    · obtain ⟨hfirst, hlast⟩ := ih h
      rw [← present_cons_none rest] at hfirst hlast
      exact ⟨hfirst, hlast⟩
    · rw [hull] at h
      -- Whether `a` is the only extent that is present decides which ends are compared.
      rcases hrest : hull rest with _ | b
      · rw [hrest] at h
        obtain rfl := Option.some.inj h
        have hpresent : present (some a :: rest) = {a} := by
          rw [present_cons_some, present_eq_empty_iff.2 hrest, insert_empty_eq]
        refine ⟨?_, ?_⟩
        · rw [hpresent, Set.image_singleton]
          exact isLeast_singleton
        · rw [hpresent, Set.image_singleton]
          exact isGreatest_singleton
      · rw [hrest] at h
        obtain rfl := Option.some.inj h
        obtain ⟨hfirst, hlast⟩ := ih hrest
        refine ⟨?_, ?_⟩
        · rw [present_cons_some, Set.image_insert_eq, merge_eq]
          exact hfirst.insert a.first
        · rw [present_cons_some, Set.image_insert_eq, merge_eq]
          exact hlast.insert a.last

/-- **The hull reaches from the least first position to the greatest last position.** -/
theorem hull_eq_some_iff {extents : List (Option (Extent α))} {c : Extent α} :
    hull extents = some c ↔ IsHull extents c := by
  refine ⟨isHull_of_hull, fun h ↦ ?_⟩
  rcases hhull : hull extents with _ | d
  · -- A least position is that of an extent, so one is present.
    obtain ⟨a, ha, -⟩ := h.first.1
    rw [present_eq_empty_iff.2 hhull] at ha
    exact absurd ha (Set.notMem_empty a)
  · rw [(isHull_of_hull hhull).unique h]

/-- **The hull depends only on which extents are present**, not on their order, nor on how often
they occur, nor on what is missing between them. -/
theorem hull_congr {extents others : List (Option (Extent α))}
    (h : ∀ a, some a ∈ extents ↔ some a ∈ others) : hull extents = hull others := by
  have hpresent : present extents = present others := Set.ext h
  rcases hhull : hull others with _ | c
  · rw [← present_eq_empty_iff, hpresent, present_eq_empty_iff, hhull]
  · obtain ⟨hfirst, hlast⟩ := hull_eq_some_iff.1 hhull
    rw [← hpresent] at hfirst hlast
    exact hull_eq_some_iff.2 ⟨hfirst, hlast⟩

/-- The order of the list does not matter. -/
theorem hull_perm {extents others : List (Option (Extent α))} (h : extents.Perm others) :
    hull extents = hull others :=
  hull_congr fun _ ↦ h.mem_iff

/-- **A part at the front may be merged beforehand.** -/
theorem hull_hull_cons (part rest : List (Option (Extent α))) :
    hull (hull part :: rest) = hull (part ++ rest) := by
  induction part with
  | nil => rfl
  | cons extent part ih =>
    rcases extent with _ | a
    · exact ih
    · rw [List.cons_append, hull, hull, ← ih]
      rcases hull part with _ | b
      · rfl
      · rw [hull, hull]
        rcases hull rest with _ | c
        · rfl
        · show some ((a.merge b).merge c) = some (a.merge (b.merge c))
          rw [merge_assoc]

/-- **The hull in full.** There is none exactly when no extent is present. Otherwise it goes from
the least first position to the greatest last position of those that are, and that determines it. It
stays the same when the list is permuted, when one of its elements is put in once more, when a
missing one is put in, and when some of its elements, wherever they stand, are replaced by their own
hull. -/
theorem hull_exact (extents : List (Option (Extent α))) :
    (hull extents = none ↔ ∀ extent ∈ extents, extent = none) ∧
    (∀ c, hull extents = some c ↔
      IsLeast (Extent.first '' {a | some a ∈ extents}) c.first ∧
        IsGreatest (Extent.last '' {a | some a ∈ extents}) c.last) ∧
    (∀ others, extents.Perm others → hull others = hull extents) ∧
    (∀ before after, extents = before ++ after →
      (∀ extent ∈ extents, hull (before ++ extent :: after) = hull extents) ∧
        hull (before ++ none :: after) = hull extents) ∧
    (∀ part before after, extents.Perm (part ++ (before ++ after)) →
      hull (before ++ hull part :: after) = hull extents) := by
  refine ⟨hull_eq_none_iff, fun c ↦ ?_, fun others h ↦ (hull_perm h).symm, ?_, ?_⟩
  · rw [hull_eq_some_iff]
    exact ⟨fun h ↦ ⟨h.first, h.last⟩, fun h ↦ ⟨h.1, h.2⟩⟩
  · rintro before after rfl
    refine ⟨fun extent hextent ↦ hull_congr fun a ↦ ?_, hull_congr fun a ↦ by simp⟩
    rw [List.perm_middle.mem_iff, List.mem_cons, or_iff_right_of_imp]
    rintro rfl
    exact hextent
  · intro part before after h
    -- The part is brought to the front, spread out there, and brought back.
    calc hull (before ++ hull part :: after) = hull (hull part :: (before ++ after)) :=
          hull_perm List.perm_middle
      _ = hull (part ++ (before ++ after)) := hull_hull_cons part (before ++ after)
      _ = hull extents := (hull_perm h).symm

/-- Three extents with a gap between them. The first one ends before it starts, and the other two
end at the same position. -/
def mixedExtents : List (Option (Extent Int)) :=
  [some ⟨⟨2, 7⟩, ⟨0, 3⟩⟩, none, some ⟨⟨1, 9⟩, ⟨3, 0⟩⟩, some ⟨⟨1, 4⟩, ⟨3, 0⟩⟩]

/-- The outer two are merged beforehand, and the result is put at the end. -/
theorem hull_exact_mixed :
    hull mixedExtents = some ⟨⟨1, 4⟩, ⟨3, 0⟩⟩ ∧
      IsLeast (Extent.first '' {a | some a ∈ mixedExtents}) ⟨1, 4⟩ ∧
      hull mixedExtents.reverse = hull mixedExtents ∧
      hull (some ⟨⟨1, 4⟩, ⟨3, 0⟩⟩ :: mixedExtents) = hull mixedExtents ∧
      hull (none :: mixedExtents) = hull mixedExtents ∧
      hull [none, some ⟨⟨1, 9⟩, ⟨3, 0⟩⟩,
        hull [some ⟨⟨2, 7⟩, ⟨0, 3⟩⟩, some ⟨⟨1, 4⟩, ⟨3, 0⟩⟩]] = hull mixedExtents := by
  obtain ⟨-, hsome, hperm, hinsert, hpart⟩ := hull_exact mixedExtents
  have hhull : hull mixedExtents = some ⟨⟨1, 4⟩, ⟨3, 0⟩⟩ := by decide
  obtain ⟨htwice, hmissing⟩ := hinsert [] mixedExtents rfl
  refine ⟨hhull, ((hsome _).1 hhull).1, hperm _ (List.reverse_perm _).symm,
    htwice _ (by decide), hmissing, ?_⟩
  exact hpart [some ⟨⟨2, 7⟩, ⟨0, 3⟩⟩, some ⟨⟨1, 4⟩, ⟨3, 0⟩⟩]
    [none, some ⟨⟨1, 9⟩, ⟨3, 0⟩⟩] [] (by decide)

end Extent

/-! ### Offsets of a hull -/

namespace Source

variable {s : Source}

/-- Positions on their lines are ordered as their offsets. -/
theorem OnLine.lt_iff {p q : Position Nat} {x y : Int} (hp : s.OnLine p) (hq : s.OnLine q)
    (hx : s.offset p.line p.column = .ok x) (hy : s.offset q.line q.column = .ok y) :
    p < q ↔ x < y := by
  obtain ⟨a, rfl⟩ := onLine_iff.1 hp
  obtain ⟨b, rfl⟩ := onLine_iff.1 hq
  obtain rfl := Except.ok.inj ((s.offset_positionAt a).symm.trans hx)
  obtain rfl := Except.ok.inj ((s.offset_positionAt b).symm.trans hy)
  rw [Text.positionAt_lt_iff, Int.ofNat_lt]

/-- On their lines, positions are ordered as their offsets are. -/
theorem OnLine.le_iff {p q : Position Nat} {x y : Int} (hp : s.OnLine p) (hq : s.OnLine q)
    (hx : s.offset p.line p.column = .ok x) (hy : s.offset q.line q.column = .ok y) :
    p ≤ q ↔ x ≤ y := by
  rw [← not_lt, hq.lt_iff hp hy hx, not_lt]

/-- **The offsets of a hull are the least and the greatest offset**, if all positions are on their
lines. -/
theorem offset_hull (s : Source) {extents : List (Option Location)}
    (hpresent : ∃ a, some a ∈ extents)
    (honLine : ∀ a, some a ∈ extents → s.OnLine a.first ∧ s.OnLine a.last) :
    ∃ c first last, Extent.hull extents = some c ∧
      s.offset c.first.line c.first.column = .ok first ∧
      s.offset c.last.line c.last.column = .ok last ∧
      IsLeast {x | ∃ a, some a ∈ extents ∧ s.offset a.first.line a.first.column = .ok x} first ∧
      IsGreatest {x | ∃ a, some a ∈ extents ∧ s.offset a.last.line a.last.column = .ok x} last := by
  obtain ⟨a, ha⟩ := hpresent
  obtain ⟨c, hc⟩ := Option.isSome_iff_exists.1 (Extent.isSome_hull_iff.2 ⟨some a, ha, rfl⟩)
  obtain ⟨⟨⟨d, hd, hfirst⟩, hleast⟩, ⟨⟨e, he, hlast⟩, hgreatest⟩⟩ := Extent.hull_eq_some_iff.1 hc
  -- The two ends of the hull are ends of extents, so they are on their lines as well.
  obtain ⟨first, hfirstOffset, -⟩ := (honLine d hd).1
  obtain ⟨last, hlastOffset, -⟩ := (honLine e he).2
  refine ⟨c, first, last, hc, hfirst ▸ hfirstOffset, hlast ▸ hlastOffset,
    ⟨⟨d, hd, hfirstOffset⟩, ?_⟩, ⟨⟨e, he, hlastOffset⟩, ?_⟩⟩
  · rintro x ⟨b, hb, hx⟩
    have hle : d.first ≤ b.first := hfirst ▸ hleast ⟨b, hb, rfl⟩
    exact ((honLine d hd).1.le_iff (honLine b hb).1 hfirstOffset hx).1 hle
  · rintro x ⟨b, hb, hx⟩
    have hle : b.last ≤ e.last := hlast ▸ hgreatest ⟨b, hb, rfl⟩
    exact ((honLine b hb).2.le_iff (honLine e he).2 hx hlastOffset).1 hle

/-- Two stretches with a gap between them: one of them runs backwards, the other one from the line
feed of the first line to a column that the text does not have. -/
def fourLinesExtents : List (Option Location) :=
  [some (fourLines.stretch 4 3), none, some (fourLines.stretch 2 16)]

theorem offset_hull_fourLines :
    Extent.hull fourLinesExtents = some ⟨⟨0, 2⟩, ⟨3, 9⟩⟩ ∧ fourLines.offset 0 2 = .ok 2 ∧
      fourLines.offset 3 9 = .ok 16 ∧
      IsLeast {x | ∃ a, some a ∈ fourLinesExtents ∧
        fourLines.offset a.first.line a.first.column = .ok x} 2 ∧
      IsGreatest {x | ∃ a, some a ∈ fourLinesExtents ∧
        fourLines.offset a.last.line a.last.column = .ok x} 16 := by
  have honLine : ∀ a, some a ∈ fourLinesExtents →
      fourLines.OnLine a.first ∧ fourLines.OnLine a.last := by
    intro a ha
    have hstretch : a = fourLines.stretch 4 3 ∨ a = fourLines.stretch 2 16 := by
      simpa [fourLinesExtents] using ha
    rcases hstretch with rfl | rfl
    · exact ⟨onLine_iff.2 ⟨4, rfl⟩, onLine_iff.2 ⟨3, rfl⟩⟩
    · exact ⟨onLine_iff.2 ⟨2, rfl⟩, onLine_iff.2 ⟨16, rfl⟩⟩
  have hhull : Extent.hull fourLinesExtents = some ⟨⟨0, 2⟩, ⟨3, 9⟩⟩ := by decide
  obtain ⟨c, first, last, hc, hfirst, hlast, hleast, hgreatest⟩ :=
    offset_hull fourLines ⟨_, List.mem_cons_self⟩ honLine
  obtain rfl := Option.some.inj (hhull.symm.trans hc)
  obtain rfl : 2 = first := Except.ok.inj hfirst
  obtain rfl : 16 = last := Except.ok.inj hlast
  exact ⟨hhull, hfirst, hlast, hleast, hgreatest⟩

/-- Column 5 runs over the end of its line. The hull starts there, at offset 5, although the other
location starts at offset 3. -/
example : Extent.hull [some ⟨⟨0, 5⟩, ⟨1, 0⟩⟩, some ⟨⟨1, 0⟩, ⟨1, 0⟩⟩] =
    some (⟨⟨0, 5⟩, ⟨1, 0⟩⟩ : Location) ∧
      fourLines.offset 0 5 = .ok 5 ∧ fourLines.offset 1 0 = .ok 3 :=
  ⟨by decide, rfl, rfl⟩

end Source

end CoffeeTree
