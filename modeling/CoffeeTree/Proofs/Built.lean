import CoffeeTree.Conversion.Build
import CoffeeTree.Proofs.Descendants
import CoffeeTree.Proofs.Lines
import Mathlib.Data.List.Basic

/-!
# Built nodes

A node is *built* when it came out of `Node.build` and all of its parts were built before it. The
converter makes nodes in no other way, so what can be said about its output follows from what one
building step does.

That step has one equation (`Node.build_some`): the range is the *reach* of the location and of the
located parts, clamped to the source. Ranges are compared through the lemmas that say when a reach
starts or stops before an offset; with them the facts about built nodes are arithmetic:

* the place of a built node fits its source (`Node.Built.fits`);
* a built node contains its located parts (`Node.Built.contains_child`), because they fit the source
  already and clamping cannot cut into them;
* what else it contains is decided by its own location and its located parts alone
  (`Node.Built.contains_iff`). Virtual parts are not seen through;
* clamping changes a reach only if the location stops past the end of the text, or before it starts
  and no part is located (`Node.clamp_reach_eq_self_iff`).
-/

namespace CoffeeTree

namespace Range

/-- The first range covers the second. -/
def Contains (r q : Range) : Prop := r.start ≤ q.start ∧ q.stop ≤ r.stop

instance (r q : Range) : Decidable (r.Contains q) :=
  inferInstanceAs (Decidable (r.start ≤ q.start ∧ q.stop ≤ r.stop))

/-! ### Covering a list of ranges -/

/-- The cover starts where the first of the ranges starts. -/
theorem start_coverAll_le_iff {a : Range} {others : List Range} {x : Int} :
    (a.coverAll others).start ≤ x ↔ a.start ≤ x ∨ ∃ r ∈ others, r.start ≤ x := by
  induction others generalizing a with
  | nil => simp [coverAll]
  | cons r rest ih =>
    show ((a.cover r).coverAll rest).start ≤ x ↔ _
    have hcover : (a.cover r).start ≤ x ↔ a.start ≤ x ∨ r.start ≤ x := by
      show min a.start r.start ≤ x ↔ _
      omega
    rw [ih, hcover, List.exists_mem_cons_iff, or_assoc]

/-- It ends where the last one ends. -/
theorem le_stop_coverAll_iff {a : Range} {others : List Range} {x : Int} :
    x ≤ (a.coverAll others).stop ↔ x ≤ a.stop ∨ ∃ r ∈ others, x ≤ r.stop := by
  induction others generalizing a with
  | nil => simp [coverAll]
  | cons r rest ih =>
    show x ≤ ((a.cover r).coverAll rest).stop ↔ _
    have hcover : x ≤ (a.cover r).stop ↔ x ≤ a.stop ∨ x ≤ r.stop := by
      show x ≤ max a.stop r.stop ↔ _
      omega
    rw [ih, hcover, List.exists_mem_cons_iff, or_assoc]

/-- The same from the other side: a bound on all starts bounds the cover. -/
theorem le_start_coverAll_iff {a : Range} {others : List Range} {x : Int} :
    x ≤ (a.coverAll others).start ↔ x ≤ a.start ∧ ∀ r ∈ others, x ≤ r.start := by
  induction others generalizing a with
  | nil => simp [coverAll]
  | cons r rest ih =>
    show x ≤ ((a.cover r).coverAll rest).start ↔ _
    have hcover : x ≤ (a.cover r).start ↔ x ≤ a.start ∧ x ≤ r.start := by
      show x ≤ min a.start r.start ↔ _
      omega
    rw [ih, hcover, List.forall_mem_cons, and_assoc]

theorem stop_coverAll_le_iff {a : Range} {others : List Range} {x : Int} :
    (a.coverAll others).stop ≤ x ↔ a.stop ≤ x ∧ ∀ r ∈ others, r.stop ≤ x := by
  induction others generalizing a with
  | nil => simp [coverAll]
  | cons r rest ih =>
    show ((a.cover r).coverAll rest).stop ≤ x ↔ _
    have hcover : (a.cover r).stop ≤ x ↔ a.stop ≤ x ∧ r.stop ≤ x := by
      show max a.stop r.stop ≤ x ↔ _
      omega
    rw [ih, hcover, List.forall_mem_cons, and_assoc]

/-! ### Clamping -/

theorem clamp_start (r : Range) (length : Nat) :
    (r.clamp length).start = min (max 0 r.start) length := rfl

theorem clamp_stop (r : Range) (length : Nat) :
    (r.clamp length).stop = min (max (r.clamp length).start r.stop) length := rfl

/-- A clamped range lies in the source, and it is never turned around. -/
theorem clamp_start_nonneg (r : Range) (length : Nat) : 0 ≤ (r.clamp length).start := by
  rw [clamp_start]
  omega

theorem clamp_start_le_stop (r : Range) (length : Nat) :
    (r.clamp length).start ≤ (r.clamp length).stop := by
  rw [clamp_stop, clamp_start]
  omega

theorem clamp_stop_le (r : Range) (length : Nat) : (r.clamp length).stop ≤ length := by
  rw [clamp_stop]
  omega

/-- Clamping changes nothing exactly when the range is in the text and its ends are in order. -/
theorem clamp_eq_self_iff {r : Range} {length : Nat} :
    r.clamp length = r ↔ 0 ≤ r.start ∧ r.start ≤ r.stop ∧ r.stop ≤ length := by
  obtain ⟨start, stop⟩ := r
  simp only [clamp, Range.mk.injEq]
  omega

/-- What a clamped range contains, of what lies in the text: what the range itself contains, and
empty ranges at the end of the text or at an end that comes before its start. -/
theorem clamp_contains_iff {r q : Range} {length : Nat} (hr : 0 ≤ r.start)
    (hq : q.stop ≤ length) :
    (r.clamp length).Contains q ↔
      (r.start ≤ q.start ∨ length ≤ q.start) ∧
        (q.stop ≤ r.stop ∨ q.stop ≤ (r.clamp length).start) := by
  rw [Contains, clamp_stop, clamp_start]
  omega

end Range

/-- What is true of a place in a source: the range lies in the text, the raw text is the text there,
and the line and the column are those of a position at or after the start. -/
structure Place.Fits (source : Source) (place : Place) : Prop where
  start_nonneg : 0 ≤ place.range.start
  start_le_stop : place.range.start ≤ place.range.stop
  stop_le_length : place.range.stop ≤ source.length
  raw_eq : place.raw =
    String.ofList (source.slice place.range.start.toNat place.range.stop.toNat)
  one_le_line : 1 ≤ place.line
  line_le_lineCount : place.line ≤ source.lineCount
  start_le_offset : ∃ offset,
    source.offset (place.line - 1) (place.column - 1) = .ok offset ∧ place.range.start ≤ offset

namespace Node

/-- A node has a range if it has a place. -/
theorem mem_range?_iff {n : Node} {r : Range} :
    r ∈ n.range? ↔ ∃ place ∈ n.place, place.range = r := by
  rw [range?]
  simp

/-! ### One building step -/

/-- The range of a location together with those of the located parts. -/
def reach (own : Range) (shape : Shape Node) : Range :=
  own.coverAll (shape.children.filterMap range?)

theorem exists_mem_filterMap_range? {nodes : List Node} {P : Range → Prop} :
    (∃ r ∈ nodes.filterMap range?, P r) ↔ ∃ c ∈ nodes, ∃ r ∈ c.range?, P r := by
  constructor
  · rintro ⟨r, hr, hP⟩
    obtain ⟨c, hc, hrange⟩ := List.mem_filterMap.1 hr
    exact ⟨c, hc, r, hrange, hP⟩
  · rintro ⟨c, hc, r, hrange, hP⟩
    exact ⟨r, List.mem_filterMap.2 ⟨c, hc, hrange⟩, hP⟩

/-- The reach of a node is up to its own range and to those of its parts, of which virtual ones have
none. -/
theorem start_reach_le_iff {own : Range} {shape : Shape Node} {x : Int} :
    (reach own shape).start ≤ x ↔
      own.start ≤ x ∨ ∃ c ∈ shape.children, ∃ r ∈ c.range?, r.start ≤ x := by
  rw [reach, Range.start_coverAll_le_iff, exists_mem_filterMap_range?]

theorem le_stop_reach_iff {own : Range} {shape : Shape Node} {x : Int} :
    x ≤ (reach own shape).stop ↔
      x ≤ own.stop ∨ ∃ c ∈ shape.children, ∃ r ∈ c.range?, x ≤ r.stop := by
  rw [reach, Range.le_stop_coverAll_iff, exists_mem_filterMap_range?]

theorem forall_mem_filterMap_range? {nodes : List Node} {P : Range → Prop} :
    (∀ r ∈ nodes.filterMap range?, P r) ↔ ∀ c ∈ nodes, ∀ r ∈ c.range?, P r := by
  constructor
  · intro h c hc r hr
    exact h r (List.mem_filterMap.2 ⟨c, hc, hr⟩)
  · intro h r hr
    obtain ⟨c, hc, hrange⟩ := List.mem_filterMap.1 hr
    exact h c hc r hrange

theorem stop_reach_le_iff {own : Range} {shape : Shape Node} {x : Int} :
    (reach own shape).stop ≤ x ↔
      own.stop ≤ x ∧ ∀ c ∈ shape.children, ∀ r ∈ c.range?, r.stop ≤ x := by
  rw [reach, Range.stop_coverAll_le_iff, forall_mem_filterMap_range?]

/-- Parts that start in the source do not make a node start before it. -/
theorem reach_start_nonneg {own : Range} {shape : Shape Node} (hown : 0 ≤ own.start)
    (hparts : ∀ c ∈ shape.children, ∀ place ∈ c.place, 0 ≤ place.range.start) :
    0 ≤ (reach own shape).start := by
  refine Range.le_start_coverAll_iff.2 ⟨hown, forall_mem_filterMap_range?.2 fun c hc r hr ↦ ?_⟩
  obtain ⟨place, hplace, rfl⟩ := mem_range?_iff.1 hr
  exact hparts c hc place hplace

/-- Widening goes through the fields, which is going through the parts. -/
theorem widen_fields (own : Range) (shape : Shape Node) :
    own.widen (shape.fields.map (·.2)) = reach own shape := by
  rw [Range.widen, List.flatMap_map]
  rfl

/-- A location has a range if both of its ends have an offset. The last character belongs to it. -/
theorem rangeOf_eq_ok_iff {source : Source} {loc : Location} {own : Range} :
    rangeOf source loc = .ok own ↔ ∃ first last,
      source.offset loc.first.line loc.first.column = .ok first ∧
      source.offset loc.last.line loc.last.column = .ok last ∧ own = ⟨first, last + 1⟩ := by
  rw [rangeOf]
  cases hfirst : source.offset loc.first.line loc.first.column with
  | error e => simp [bind, Except.bind]
  | ok first =>
    cases hlast : source.offset loc.last.line loc.last.column with
    | error e => simp [bind, Except.bind]
    | ok last => simp [bind, Except.bind, eq_comm]

/-- **What one step builds.** The reach is clamped, and the location is recorded if that changed
anything. -/
theorem build_some {source : Source} {loc : Location} {own : Range}
    (h : rangeOf source loc = .ok own) (shape : Shape Node) :
    build source (some loc) shape =
      ⟨if (reach own shape).clamp source.length = reach own shape then [] else [loc],
        .ok (mk (some (placeOf source loc ((reach own shape).clamp source.length))) shape)⟩ := by
  have hstep : build source (some loc) shape =
      (do
        if (reach own shape).clamp source.length ≠ reach own shape then Traced.record loc
        pure (mk (some (placeOf source loc ((reach own shape).clamp source.length))) shape)) := by
    rw [build, h, ← widen_fields]
    rfl
  rw [hstep]
  by_cases hclamp : (reach own shape).clamp source.length = reach own shape
  · rw [if_neg (not_not_intro hclamp), if_pos hclamp]
    rfl
  · rw [if_pos hclamp, if_neg hclamp]
    rfl

/-- A step that succeeds made a virtual node, or one that its location places. -/
theorem build_eq_ok_cases {source : Source} {location : Option Location} {shape : Shape Node}
    {node : Node} (h : (build source location shape).result = .ok node) :
    (location = none ∧ node = mk none shape) ∨
      ∃ loc own, location = some loc ∧ rangeOf source loc = .ok own ∧
        node = mk (some (placeOf source loc ((reach own shape).clamp source.length))) shape := by
  cases location with
  | none => exact Or.inl ⟨rfl, (Except.ok.inj h).symm⟩
  | some loc =>
    cases hown : rangeOf source loc with
    | error e =>
      have hresult : (build source (some loc) shape).result = .error (.outside e) := by
        rw [build, hown]
        rfl
      rw [hresult] at h
      exact absurd h (by simp)
    | ok own =>
      rw [build_some hown] at h
      exact Or.inr ⟨loc, own, rfl, hown, (Except.ok.inj h).symm⟩

/-- A location that places a node has its two offsets. -/
theorem exists_offsets_of_build {source : Source} {loc : Location} {shape : Shape Node}
    {node : Node} (h : (build source (some loc) shape).result = .ok node) :
    ∃ first last, source.offset loc.first.line loc.first.column = .ok first ∧
      source.offset loc.last.line loc.last.column = .ok last := by
  rcases build_eq_ok_cases h with ⟨hnone, -⟩ | ⟨loc', own, hloc, hown, -⟩
  · exact absurd hnone (by simp)
  · obtain rfl : loc = loc' := Option.some.inj hloc
    obtain ⟨first, last, hfirst, hlast, -⟩ := rangeOf_eq_ok_iff.1 hown
    exact ⟨first, last, hfirst, hlast⟩

/-- Where a node is placed, in terms of the offsets of its location. -/
theorem place_eq_of_build {source : Source} {loc : Location} {shape : Shape Node} {node : Node}
    {first last : Int} (h : (build source (some loc) shape).result = .ok node)
    (hfirst : source.offset loc.first.line loc.first.column = .ok first)
    (hlast : source.offset loc.last.line loc.last.column = .ok last) {place : Place}
    (hplace : place ∈ node.place) :
    place = placeOf source loc ((reach ⟨first, last + 1⟩ shape).clamp source.length) := by
  rw [build_some (rangeOf_eq_ok_iff.2 ⟨first, last, hfirst, hlast, rfl⟩)] at h
  obtain rfl := Except.ok.inj h
  exact (Option.some.inj hplace).symm

/-- A step keeps the shape that it is given. -/
theorem shape_of_build {source : Source} {location : Option Location} {shape : Shape Node}
    {node : Node} (h : (build source location shape).result = .ok node) : node.shape = shape := by
  rcases build_eq_ok_cases h with ⟨-, rfl⟩ | ⟨loc, own, -, -, rfl⟩
  · rfl
  · rfl

/-! ### Built nodes -/

/-- A node that one step made from parts that were built before. -/
inductive Built (source : Source) : Node → Prop where
  | step {location : Option Location} {shape : Shape Node} {node : Node}
      (parts : ∀ c ∈ shape.children, Built source c)
      (result : (build source location shape).result = .ok node) : Built source node

namespace Built

variable {source : Source} {n : Node}

/-- The parts of a built node are built. -/
theorem children (h : Built source n) : ∀ c ∈ n.children, Built source c := by
  cases h with
  | step parts result =>
    rw [Node.children, shape_of_build result]
    exact parts

/-- So is everything below it. -/
theorem of_reaches (h : Built source n) {m : Node} (hm : n.Reaches m) : Built source m :=
  hm.preserves (fun _ hn ↦ hn.children) h

/-- A located node that was built comes out of a step that is given its own shape. -/
theorem exists_build (h : Built source n) {place : Place} (hplace : place ∈ n.place) :
    ∃ loc, (build source (some loc) n.shape).result = .ok n := by
  cases h with
  | step parts result =>
    rcases build_eq_ok_cases result with ⟨-, rfl⟩ | ⟨loc, own, rfl, -, -⟩
    · exact absurd hplace (by simp [Node.place])
    · refine ⟨loc, ?_⟩
      rw [shape_of_build result]
      exact result

/-- The place of a built node is the clamped reach of a location. -/
theorem exists_place_eq (h : Built source n) {place : Place} (hplace : place ∈ n.place) :
    ∃ loc first last, source.offset loc.first.line loc.first.column = .ok first ∧
      source.offset loc.last.line loc.last.column = .ok last ∧
      place = placeOf source loc ((reach ⟨first, last + 1⟩ n.shape).clamp source.length) := by
  obtain ⟨loc, hbuild⟩ := h.exists_build hplace
  obtain ⟨first, last, hfirst, hlast⟩ := exists_offsets_of_build hbuild
  exact ⟨loc, first, last, hfirst, hlast, place_eq_of_build hbuild hfirst hlast hplace⟩

/-- **The place of a built node fits the source.** -/
theorem fits (h : Built source n) : ∀ place ∈ n.place, place.Fits source := by
  induction n using induction_children with
  | hstep n ih =>
    intro place hplace
    obtain ⟨loc, first, last, hfirst, -, rfl⟩ := h.exists_place_eq hplace
    have hnonneg : 0 ≤ (reach ⟨first, last + 1⟩ n.shape).start :=
      reach_start_nonneg (Source.offset_nonneg hfirst) fun c hc q hq ↦
        (ih c hc (h.children c hc) q hq).start_nonneg
    have hle : (reach ⟨first, last + 1⟩ n.shape).start ≤ first :=
      start_reach_le_iff.2 (Or.inl (Int.le_refl _))
    refine ⟨Range.clamp_start_nonneg _ _, Range.clamp_start_le_stop _ _, Range.clamp_stop_le _ _,
      rfl, Nat.le_add_left 1 _, Source.line_lt_of_offset hfirst, first, ?_, ?_⟩
    · show source.offset ((loc.first.line + 1 : Nat) - 1) ((loc.first.column + 1 : Nat) - 1) = _
      rw [show ((loc.first.line + 1 : Nat) : Int) - 1 = loc.first.line by omega,
        show ((loc.first.column + 1 : Nat) : Int) - 1 = loc.first.column by omega, hfirst]
    · show ((reach ⟨first, last + 1⟩ n.shape).clamp source.length).start ≤ first
      rw [Range.clamp_start]
      omega

/-- A built node has its parts in the source already. -/
theorem reach_nonneg (h : Built source n) {own : Range} (hown : 0 ≤ own.start) :
    0 ≤ (reach own n.shape).start :=
  reach_start_nonneg hown fun c hc place hplace ↦
    ((h.children c hc).fits place hplace).start_nonneg

/-- **What a built node contains.** A range in the source is inside the node's range exactly when,
on each of the two sides, the location that places the node or one of its located parts reaches
that far. The location counts as clamped: it starts at the end of the text at the latest, and it
stops where the node starts at the earliest. -/
theorem contains_iff (h : Built source n) {place : Place} (hplace : place ∈ n.place)
    {loc : Location} (hloc : (build source (some loc) n.shape).result = .ok n) {first last : Int}
    (hfirst : source.offset loc.first.line loc.first.column = .ok first)
    (hlast : source.offset loc.last.line loc.last.column = .ok last) {q : Range}
    (hq : q.stop ≤ source.length) :
    place.range.Contains q ↔
      (min first source.length ≤ q.start ∨
        ∃ c ∈ n.children, ∃ r ∈ c.range?, r.start ≤ q.start) ∧
      (q.stop ≤ max (last + 1) place.range.start ∨
        ∃ c ∈ n.children, ∃ r ∈ c.range?, q.stop ≤ r.stop) := by
  obtain rfl := place_eq_of_build hloc hfirst hlast hplace
  have hnonneg : 0 ≤ (reach ⟨first, last + 1⟩ n.shape).start :=
    h.reach_nonneg (Source.offset_nonneg hfirst)
  have hmin : min first source.length ≤ q.start ↔ first ≤ q.start ∨ source.length ≤ q.start := by
    omega
  have hmax : ∀ x : Int, q.stop ≤ max (last + 1) x ↔ q.stop ≤ last + 1 ∨ q.stop ≤ x := by
    omega
  show ((reach ⟨first, last + 1⟩ n.shape).clamp source.length).Contains q ↔ _
  rw [Range.clamp_contains_iff hnonneg hq, start_reach_le_iff, le_stop_reach_iff, hmin, hmax,
    or_right_comm, or_right_comm (a := q.stop ≤ last + 1)]
  rfl

/-- **A built node contains its located parts.** -/
theorem contains_child (h : Built source n) {r q : Range} (hr : r ∈ n.range?) {c : Node}
    (hc : c ∈ n.children) (hq : q ∈ c.range?) : r.Contains q := by
  obtain ⟨place, hplace, rfl⟩ := mem_range?_iff.1 hr
  obtain ⟨part, hpart, rfl⟩ := mem_range?_iff.1 hq
  obtain ⟨loc, hloc⟩ := h.exists_build hplace
  obtain ⟨first, last, hfirst, hlast⟩ := exists_offsets_of_build hloc
  have hlength := ((h.children c hc).fits part hpart).stop_le_length
  -- On both sides the part itself is the one that reaches far enough.
  refine (h.contains_iff hplace hloc hfirst hlast hlength).2 ⟨Or.inr ?_, Or.inr ?_⟩
  · exact ⟨c, hc, _, hq, Int.le_refl _⟩
  · exact ⟨c, hc, _, hq, Int.le_refl _⟩

end Built

/-! ### When a step clamps -/

section

variable {source : Source} {own : Range} {shape : Shape Node}

/-- Built parts are in the text, so they do not take a reach past its end. -/
theorem stop_reach_le_length_iff (hparts : ∀ c ∈ shape.children, c.Built source) :
    (reach own shape).stop ≤ source.length ↔ own.stop ≤ source.length := by
  refine stop_reach_le_iff.trans (and_iff_left fun c hc r hr ↦ ?_)
  obtain ⟨place, hplace, rfl⟩ := mem_range?_iff.1 hr
  exact ((hparts c hc).fits place hplace).stop_le_length

/-- A reach is in order if the range is, and with a located part, which is in order, in any case. -/
theorem start_reach_le_stop_iff (hparts : ∀ c ∈ shape.children, c.Built source) :
    (reach own shape).start ≤ (reach own shape).stop ↔
      own.start ≤ own.stop ∨ ∃ c ∈ shape.children, c.range? ≠ none := by
  constructor
  · intro h
    by_cases hlocated : ∃ c ∈ shape.children, c.range? ≠ none
    · exact .inr hlocated
    · have hnone : shape.children.filterMap range? = [] := by
        simpa [List.filterMap_eq_nil_iff] using hlocated
      rw [reach, hnone] at h
      exact .inl h
  · rintro (hown | ⟨c, hc, hrange⟩)
    · exact Int.le_trans (start_reach_le_iff.2 (.inl hown))
        (le_stop_reach_iff.2 (.inl (Int.le_refl _)))
    · obtain ⟨r, hr⟩ := Option.ne_none_iff_exists'.1 hrange
      obtain ⟨place, hplace, rfl⟩ := mem_range?_iff.1 hr
      have hordered := ((hparts c hc).fits place hplace).start_le_stop
      exact Int.le_trans (start_reach_le_iff.2 (.inr ⟨c, hc, _, hr, hordered⟩))
        (le_stop_reach_iff.2 (.inr ⟨c, hc, _, hr, Int.le_refl _⟩))

/-- **When clamping changes nothing.** The range does not stop past the end of the text, and it is
in order or has a located part with it. -/
theorem clamp_reach_eq_self_iff (hstart : 0 ≤ own.start)
    (hparts : ∀ c ∈ shape.children, c.Built source) :
    (reach own shape).clamp source.length = reach own shape ↔
      own.stop ≤ source.length ∧
        (own.start ≤ own.stop ∨ ∃ c ∈ shape.children, c.range? ≠ none) := by
  have hnonneg : 0 ≤ (reach own shape).start :=
    reach_start_nonneg hstart fun c hc place hplace ↦ ((hparts c hc).fits place hplace).start_nonneg
  rw [Range.clamp_eq_self_iff, start_reach_le_stop_iff hparts, stop_reach_le_length_iff hparts,
    and_iff_right hnonneg, and_comm]

end

end Node

end CoffeeTree
