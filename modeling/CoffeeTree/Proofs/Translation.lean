import CoffeeTree.Proofs.Anchors
import CoffeeTree.Proofs.Containment
import CoffeeTree.Proofs.Simulation

/-!
# Whole lines in front of a program

Putting whole lines in front of a source moves its program down, and nothing else happens to it
(`program_translates`): every place moves by the length and by the line feeds of the text in front,
and so does every location that is clamped.

The proof is one simulation (`Simulation.translate`). Offsets and anchors move with the text, and a
building step commutes with the move: covering does so for every range, clamping for ranges that do
not start before the text. That is where it counts that the parts are built.
-/

namespace CoffeeTree

namespace Range

/-- The range some offsets further on. -/
def shift (n : Nat) (r : Range) : Range := ⟨r.start + n, r.stop + n⟩

theorem shift_inj {n : Nat} {r q : Range} : r.shift n = q.shift n ↔ r = q := by
  obtain ⟨start, stop⟩ := r
  obtain ⟨start', stop'⟩ := q
  simp [shift]

/-- The cover moves with the ranges. -/
theorem coverAll_shift (n : Nat) (a : Range) (others : List Range) :
    (a.shift n).coverAll (others.map (shift n)) = (a.coverAll others).shift n := by
  induction others generalizing a with
  | nil => rfl
  | cons r rest ih =>
    have hcover : (a.shift n).cover (r.shift n) = (a.cover r).shift n := by
      simp only [cover, shift, Range.mk.injEq]
      omega
    show ((a.shift n).cover (r.shift n)).coverAll (rest.map (shift n)) =
      ((a.cover r).coverAll rest).shift n
    rw [hcover, ih]

/-- Clamping moves with a text in front, unless the range starts before the text. -/
theorem clamp_shift {r : Range} (h : 0 ≤ r.start) (n length : Nat) :
    (r.shift n).clamp (length + n) = (r.clamp length).shift n := by
  simp only [clamp, shift, Range.mk.injEq]
  omega

end Range

/-- The place some lines and some offsets further on. Its column and its text stay. -/
def Place.shift (lines n : Nat) (place : Place) : Place :=
  { place with line := place.line + lines, range := place.range.shift n }

namespace Location

/-- Locations that are moved down are still told apart. -/
theorem down_injective (lines : Nat) : Function.Injective (down lines) := by
  rintro ⟨⟨l₁, c₁⟩, ⟨l₂, c₂⟩⟩ ⟨⟨l₃, c₃⟩, ⟨l₄, c₄⟩⟩ h
  simpa [down] using h

theorem before_down_iff (lines : Nat) (p q : Position Nat) :
    (⟨p.line + lines, p.column⟩ : Position Nat) < ⟨q.line + lines, q.column⟩ ↔ p < q := by
  show p.line + lines < q.line + lines ∨
    ¬ q.line + lines < p.line + lines ∧ p.column < q.column ↔
      p.line < q.line ∨ ¬ q.line < p.line ∧ p.column < q.column
  omega

/-- The order of positions does not change, so merging commutes with moving. -/
theorem down_merge (lines : Nat) (a b : Location) :
    down lines (a.merge b) = (down lines a).merge (down lines b) := by
  have hfirst := before_down_iff lines a.first b.first
  have hlast := before_down_iff lines a.last b.last
  have hmerge : (down lines a).merge (down lines b) =
      ⟨if a.first < b.first then ⟨a.first.line + lines, a.first.column⟩
          else ⟨b.first.line + lines, b.first.column⟩,
        if a.last < b.last then ⟨b.last.line + lines, b.last.column⟩
          else ⟨a.last.line + lines, a.last.column⟩⟩ := by
    simp only [down, Extent.merge, hfirst, hlast]
  rw [hmerge, down, Extent.merge]
  split <;> split <;> rfl

end Location

namespace Node

/-! ### One building step -/

variable {s : Source} {p : List Char}

theorem range?_mapPlaces_shift (lines n : Nat) (node : Node) :
    (node.mapPlaces (Place.shift lines n)).range? = node.range?.map (Range.shift n) := by
  rw [range?, range?, place_mapPlaces, Option.map_map, Option.map_map]
  rfl

/-- So the reach of a node moves with its parts. -/
theorem reach_shift (lines n : Nat) (own : Range) (shape : Shape Node) :
    reach (own.shift n) (shape.map (mapPlaces (Place.shift lines n))) =
      (reach own shape).shift n := by
  have hranges : (shape.children.map (mapPlaces (Place.shift lines n))).filterMap range? =
      (shape.children.filterMap range?).map (Range.shift n) := by
    rw [List.filterMap_map, List.map_filterMap]
    congr 1
    funext c
    exact range?_mapPlaces_shift lines n c
  rw [reach, Shape.children_map, hranges, Range.coverAll_shift, reach]

/-- Behind whole lines, a location has its range moved by their length. -/
theorem rangeOf_prepend (hp : Text.WholeLines p) {loc : Location} {own : Range}
    (h : rangeOf s loc = .ok own) :
    rangeOf (s.prepend p) (Location.down (p.count '\n') loc) = .ok (own.shift p.length) := by
  obtain ⟨first, last, hfirst, hlast, rfl⟩ := rangeOf_eq_ok_iff.1 h
  refine rangeOf_eq_ok_iff.2 ⟨first + p.length, last + p.length, Source.offset_prepend hp hfirst,
    Source.offset_prepend hp hlast, ?_⟩
  have hstop : last + 1 + (p.length : Int) = last + p.length + 1 := by omega
  exact congrArg (Range.mk (first + p.length)) hstop

/-- The text of a place stays the same. -/
theorem placeOf_prepend (loc : Location) {range : Range} (hstart : 0 ≤ range.start)
    (hstop : range.start ≤ range.stop) :
    placeOf (s.prepend p) (Location.down (p.count '\n') loc) (range.shift p.length) =
      (placeOf s loc range).shift (p.count '\n') p.length := by
  have hfrom : (range.start + p.length).toNat = range.start.toNat + p.length := by omega
  have hto : (range.stop + p.length).toNat = range.stop.toNat + p.length := by omega
  have hraw : (s.prepend p).slice (range.start + p.length).toNat (range.stop + p.length).toNat =
      s.slice range.start.toNat range.stop.toNat := by
    rw [hfrom, hto, Source.slice_prepend]
  have hline : loc.first.line + p.count '\n' + 1 = loc.first.line + 1 + p.count '\n' := by omega
  show Place.mk (loc.first.line + p.count '\n' + 1) (loc.first.column + 1) (range.shift p.length)
    (String.ofList ((s.prepend p).slice (range.start + p.length).toNat
      (range.stop + p.length).toNat)) = _
  rw [hraw, hline]
  rfl

/-- **One step moves with the text**, with what it records. -/
theorem build_prepend (hp : Text.WholeLines p) {loc : Location} {shape : Shape Node} {node : Node}
    (hparts : ∀ c ∈ shape.children, c.Built s)
    (h : (build s (some loc) shape).result = .ok node) :
    build (s.prepend p) (some (Location.down (p.count '\n') loc))
        (shape.map (mapPlaces (Place.shift (p.count '\n') p.length))) =
      ⟨(build s (some loc) shape).events.map (Location.down (p.count '\n')),
        .ok (node.mapPlaces (Place.shift (p.count '\n') p.length))⟩ := by
  obtain ⟨first, last, hfirst, hlast⟩ := exists_offsets_of_build h
  have hown : rangeOf s loc = .ok ⟨first, last + 1⟩ :=
    rangeOf_eq_ok_iff.2 ⟨first, last, hfirst, hlast, rfl⟩
  have hnonneg : 0 ≤ (reach ⟨first, last + 1⟩ shape).start :=
    reach_start_nonneg (Source.offset_nonneg hfirst) fun c hc place hplace ↦
      ((hparts c hc).fits place hplace).start_nonneg
  have hlength : (s.prepend p).length = s.length + p.length := by
    show (p ++ s.text).length = s.text.length + p.length
    rw [List.length_append, Nat.add_comm]
  rw [build_some hown] at h ⊢
  obtain rfl := Except.ok.inj h
  rw [build_some (rangeOf_prepend hp hown), reach_shift, hlength, Range.clamp_shift hnonneg,
    placeOf_prepend loc (Range.clamp_start_nonneg _ _) (Range.clamp_start_le_stop _ _),
    mapPlaces_mk]
  -- The location is recorded on both sides or on neither.
  simp only [Range.shift_inj]
  split <;> rfl

end Node

/-- **A source simulates what becomes of it behind whole lines.** -/
def Simulation.translate {p : List Char} (hp : Text.WholeLines p) (s : Source) :
    Simulation s (s.prepend p) where
  onLocation := Location.down (p.count '\n')
  onPlace := Place.shift (p.count '\n') p.length
  Admits _ := True
  Allows _ := True
  injective := Location.down_injective _
  admits_merge _ _ := trivial
  onLocation_merge := Location.down_merge _
  expandRight _ h := ⟨trivial, Location.expandRight_prepend hp (by decide) h⟩
  expandLeft _ h := ⟨trivial, Location.expandLeft_prepend hp h⟩
  build _ hparts hnode _ := Node.build_prepend hp hparts hnode

namespace Convert

/-- **Whole lines in front of a program move it and change nothing else.** The body of the program
is the same one with every place moved, and the locations that were clamped are the same ones,
moved, in the same order. -/
theorem program_translates {s : Source} (hs : s.text ≠ []) {p : List Char}
    (hp : Text.WholeLines p) {root : Tree.Block Tree} {node : Node}
    (h : (program s root).result = .ok node) :
    ∃ body, node = .mk (some (wholePlace s)) (.program (some body)) ∧
      program (s.prepend p) (Tree.relocateBlock (Location.down (p.count '\n')) root) =
        ⟨(program s root).events.map (Location.down (p.count '\n')),
          .ok (.mk (some (wholePlace (s.prepend p)))
            (.program (some (body.mapPlaces (Place.shift (p.count '\n') p.length)))))⟩ := by
  obtain ⟨body, hbody, rfl⟩ := exists_programBody hs h
  have hadmits : (Simulation.translate hp s).AdmitsTree (.block root) := fun _ _ _ _ ↦ trivial
  obtain ⟨-, hmoved, hevents⟩ :=
    Simulation.programBody_follows hadmits body hbody fun _ _ ↦ trivial
  have hprepend : (s.prepend p).text ≠ [] := List.append_ne_nil_of_right_ne_nil p hs
  refine ⟨body, rfl, ?_⟩
  rw [program_eq hs hbody]
  show _ = Traced.mk ((programBody s root).events.map (Simulation.translate hp s).onLocation) _
  rw [← hevents]
  exact program_eq hprepend hmoved

def indexText : Source :=
  ⟨['n', 'u', 'l', 'l', '[', 'n', 'u', 'l', 'l', ']'], Source.unnamed⟩

/-- An index whose location stops before its bracket, in a block that leaves the text. -/
def indexTree : Tree.Block Tree :=
  ⟨some ⟨⟨0, 0⟩, ⟨0, 40⟩⟩, [.value none (.null (some ⟨⟨0, 0⟩, ⟨0, 3⟩⟩))
    [.index (some ⟨⟨0, 4⟩, ⟨0, 8⟩⟩) (.null (some ⟨⟨0, 5⟩, ⟨0, 8⟩⟩))]]⟩

def indexBody : Node :=
  .mk (some ⟨1, 1, ⟨0, 10⟩, "null[null]"⟩) (.block
    [.mk (some ⟨1, 1, ⟨0, 10⟩, "null[null]"⟩) (.dynamicMemberAccess
      (.mk (some ⟨1, 1, ⟨0, 4⟩, "null"⟩) .null) (.mk (some ⟨1, 6, ⟨5, 9⟩, "null"⟩) .null))])

/-- The block is clamped before and after, and the bracket is found in both texts. -/
theorem program_translates_index :
    program indexText indexTree = ⟨[⟨⟨0, 0⟩, ⟨0, 40⟩⟩],
        .ok (.mk (some (wholePlace indexText)) (.program (some indexBody)))⟩ ∧
      program (indexText.prepend ['#', '\n', '\n'])
          (Tree.relocateBlock (Location.down 2) indexTree) =
        ⟨[⟨⟨2, 0⟩, ⟨2, 40⟩⟩], .ok (.mk (some (wholePlace (indexText.prepend ['#', '\n', '\n'])))
          (.program (some (indexBody.mapPlaces (Place.shift 2 3)))))⟩ := by
  have hprogram : program indexText indexTree = ⟨[⟨⟨0, 0⟩, ⟨0, 40⟩⟩],
      .ok (.mk (some (wholePlace indexText)) (.program (some indexBody)))⟩ := by
    rfl
  obtain ⟨body, hnode, hmoved⟩ := program_translates (List.cons_ne_nil _ _)
    (Or.inr rfl : Text.WholeLines ['#', '\n', '\n']) (congrArg Traced.result hprogram)
  obtain rfl : indexBody = body := by
    injection hnode with _ hshape
    injection hshape with hbody
    exact Option.some.inj hbody
  rw [hprogram] at hmoved
  exact ⟨hprogram, hmoved⟩

end Convert

end CoffeeTree
