import CoffeeTree.Proofs.Built

/-!
# Widening and clamping

A range is widened until it covers the located nodes among the fields of a shape, and clamped to the
text. Widening gives the least range that covers them all (`Range.coverAll_isCover`), and there is
only one such range, so neither the order of the nodes nor their distribution over the fields
matters.

Nodes that are built earlier lie in the text. If all do, then a range whose ends are in order may as
well be clamped first: that holds for one node (`Range.clamp_cover`), widening keeps the ends in
order, and so it holds for all of them. With a reversed range the order of the two steps does
matter: clamping it first moves its stop to its start, which a node before the stop does not ask
for.
-/

namespace CoffeeTree

/-- The located nodes in fields, one field after the other. -/
def Node.locatedIn (fields : List (Field Node)) : List Node :=
  (fields.flatMap Field.parts).filter (!·.virtual)

/-- The ranges of the located nodes in fields. -/
def Node.rangesIn (fields : List (Field Node)) : List Range := (locatedIn fields).filterMap range?

namespace Range

variable {own r p q : Range} {others : List Range} {length : Nat}

/-- The range lies in a text of the given length. -/
def Inside (r : Range) (length : Nat) : Prop := 0 ≤ r.start ∧ r.start ≤ r.stop ∧ r.stop ≤ length

instance (r : Range) (length : Nat) : Decidable (r.Inside length) :=
  inferInstanceAs (Decidable (_ ∧ _ ∧ _))

theorem Contains.antisymm (h : r.Contains q) (h' : q.Contains r) : r = q := by
  obtain ⟨start, stop⟩ := r
  obtain ⟨start', stop'⟩ := q
  obtain rfl : start = start' := Int.le_antisymm h.1 h'.1
  obtain rfl : stop = stop' := Int.le_antisymm h'.2 h.2
  rfl

/-! ### The least cover -/

/-- The range contains `own` and the others, and each range that does contains it. -/
structure IsCover (own : Range) (others : List Range) (r : Range) : Prop where
  contains_own : r.Contains own
  contains : ∀ q ∈ others, r.Contains q
  least : ∀ p : Range, p.Contains own → (∀ q ∈ others, p.Contains q) → p.Contains r

/-- There is one least cover. -/
theorem IsCover.unique (hr : IsCover own others r) (hp : IsCover own others p) : r = p := by
  have hrp : r.Contains p := hp.least r hr.contains_own hr.contains
  exact hrp.antisymm (hr.least p hp.contains_own hp.contains)

/-- **Covering gives the least cover.** -/
theorem coverAll_isCover (own : Range) (others : List Range) :
    IsCover own others (own.coverAll others) where
  contains_own := ⟨start_coverAll_le_iff.2 (.inl (Int.le_refl _)),
    le_stop_coverAll_iff.2 (.inl (Int.le_refl _))⟩
  contains q hq := ⟨start_coverAll_le_iff.2 (.inr ⟨q, hq, Int.le_refl _⟩),
    le_stop_coverAll_iff.2 (.inr ⟨q, hq, Int.le_refl _⟩)⟩
  least _ hown hothers := ⟨le_start_coverAll_iff.2 ⟨hown.1, fun q hq ↦ (hothers q hq).1⟩,
    stop_coverAll_le_iff.2 ⟨hown.2, fun q hq ↦ (hothers q hq).2⟩⟩

/-- So the order of the ranges does not matter. -/
theorem coverAll_perm {others' : List Range} (h : others.Perm others') :
    own.coverAll others = own.coverAll others' := by
  obtain ⟨hown, hcontains, hleast⟩ := coverAll_isCover own others'
  refine (coverAll_isCover own others).unique
    ⟨hown, fun q hq ↦ hcontains q (h.mem_iff.1 hq), fun p hp hothers ↦ ?_⟩
  exact hleast p hp fun q hq ↦ hothers q (h.mem_iff.2 hq)

/-! ### Clamping before covering -/

/-- A range in the text may be covered before or after clamping. -/
theorem clamp_cover (hown : own.start ≤ own.stop) (hq : q.Inside length) :
    (own.cover q).clamp length = (own.clamp length).cover q := by
  obtain ⟨start, stop⟩ := own
  obtain ⟨start', stop'⟩ := q
  obtain ⟨hnonneg, hordered, hlength⟩ := hq
  dsimp only at hown hnonneg hordered hlength
  simp only [cover, clamp, Range.mk.injEq]
  omega

theorem cover_start_le_stop (h : own.start ≤ own.stop) (q : Range) :
    (own.cover q).start ≤ (own.cover q).stop := by
  show min own.start q.start ≤ max own.stop q.stop
  omega

/-- Ranges that are inside already are not clamped again. -/
theorem clamp_coverAll (hown : own.start ≤ own.stop) (hothers : ∀ q ∈ others, q.Inside length) :
    (own.coverAll others).clamp length = (own.clamp length).coverAll others := by
  induction others generalizing own with
  | nil => rfl
  | cons q rest ih =>
    obtain ⟨hq, hrest⟩ := List.forall_mem_cons.1 hothers
    show ((own.cover q).coverAll rest).clamp length = ((own.clamp length).cover q).coverAll rest
    rw [ih (cover_start_le_stop hown q) hrest, clamp_cover hown hq]

/-! ### Fields -/

/-- Virtual nodes, and fields that hold no nodes, do not widen a range. -/
theorem widen_eq_coverAll (own : Range) (fields : List (Field Node)) :
    own.widen fields = own.coverAll (Node.rangesIn fields) := by
  have hranges : (fields.flatMap Field.parts).filterMap Node.range? = Node.rangesIn fields := by
    rw [Node.rangesIn, Node.locatedIn, List.filterMap_filter]
    refine List.filterMap_congr fun node _ ↦ ?_
    rw [Node.range?, Node.virtual]
    rcases node.place with _ | place
    · rfl
    · rfl
  rw [widen, hranges]

/-- Nor does it matter how the parts are grouped into fields. -/
theorem widen_perm (own : Range) {fields regrouped : List (Field Node)}
    (h : (Node.locatedIn regrouped).Perm (Node.locatedIn fields)) :
    own.widen regrouped = own.widen fields := by
  rw [widen_eq_coverAll, widen_eq_coverAll]
  exact coverAll_perm (h.filterMap _)

/-- **Widening and clamping commute and ignore order.** For a range whose ends are in order and
fields whose located nodes lie in the text, it does not matter which of the two comes first, nor in
which order the located nodes stand and how they are distributed over fields; and the result is the
least range that contains the clamped range and every located node. -/
theorem clamp_widen {initial : Range} (hordered : initial.start ≤ initial.stop)
    {fields : List (Field Node)} (hinside : ∀ r ∈ Node.rangesIn fields, r.Inside length) :
    (initial.widen fields).clamp length = (initial.clamp length).widen fields ∧
      (∀ regrouped, (Node.locatedIn regrouped).Perm (Node.locatedIn fields) →
        (initial.widen regrouped).clamp length = (initial.widen fields).clamp length ∧
        (initial.clamp length).widen regrouped = (initial.clamp length).widen fields) ∧
      IsCover (initial.clamp length) (Node.rangesIn fields)
        ((initial.widen fields).clamp length) := by
  have hcommute : (initial.widen fields).clamp length = (initial.clamp length).widen fields := by
    rw [widen_eq_coverAll, widen_eq_coverAll, clamp_coverAll hordered hinside]
  refine ⟨hcommute, fun regrouped hperm ↦ ⟨?_, widen_perm _ hperm⟩, ?_⟩
  · rw [widen_perm _ hperm]
  · rw [hcommute, widen_eq_coverAll]
    exact coverAll_isCover _ _

end Range

/-- A node at the given range, for ranges alone. -/
def Node.thisAt (start stop : Int) : Node := mk (some ⟨1, 1, ⟨start, stop⟩, ""⟩) .this

namespace Range

/-- A list with a located and a virtual node, an optional node that is missing, a flag and a node of
its own. -/
def mixedFields : List (Field Node) :=
  [.many [.thisAt 4 5, .mk none .this], .opt none, .scalar (.bool true), .one (.thisAt 1 2)]

/-- The located nodes of `mixedFields` in the other order and in one list. -/
def regroupedFields : List (Field Node) := [.many [.thisAt 1 2, .thisAt 4 5]]

/-- A range past the end of a text with six characters is cut to the end, and then reaches back to
the nodes. -/
theorem clamp_widen_mixed :
    (⟨7, 9⟩ : Range).start ≤ (⟨7, 9⟩ : Range).stop ∧
      (∀ r ∈ Node.rangesIn mixedFields, r.Inside 6) ∧
      (Node.locatedIn regroupedFields).Perm (Node.locatedIn mixedFields) ∧
      ((⟨7, 9⟩ : Range).widen mixedFields).clamp 6 = ⟨1, 6⟩ ∧
      ((⟨7, 9⟩ : Range).clamp 6).widen mixedFields = ⟨1, 6⟩ ∧
      ((⟨7, 9⟩ : Range).widen regroupedFields).clamp 6 = ⟨1, 6⟩ := by
  have hordered : (⟨7, 9⟩ : Range).start ≤ (⟨7, 9⟩ : Range).stop := by decide
  have hinside : ∀ r ∈ Node.rangesIn mixedFields, r.Inside 6 := by decide
  have hperm : (Node.locatedIn regroupedFields).Perm (Node.locatedIn mixedFields) := .swap _ _ _
  have hwiden : ((⟨7, 9⟩ : Range).widen mixedFields).clamp 6 = ⟨1, 6⟩ := by decide
  obtain ⟨hcommute, hregroup, -⟩ := clamp_widen hordered hinside
  exact ⟨hordered, hinside, hperm, hwiden, hcommute.symm.trans hwiden,
    (hregroup _ hperm).1.trans hwiden⟩

end Range

end CoffeeTree
