import CoffeeTree.Proofs.Collecting
import CoffeeTree.Proofs.Locality
import CoffeeTree.Proofs.Positions

/-!
# Trees that fit their source

A location is *consistent* with a source if its two positions are on their lines, in order, and in
the text. That is the same as to be a stretch of offsets in the text (`Source.consistent_iff`), and
in this form it is clear that the converter never leaves the consistent locations: a hull goes from
the least to the greatest offset, and an expansion ends at an anchor, which is in the text.

A node that is built at a consistent location from parts in the text is in the text. So a tree whose
locations are all consistent is converted quietly: no location is clamped, no line is refused, and
there is nothing to report (`program_quiet`).
-/

namespace CoffeeTree

namespace Text

/-- What is found lies behind the start, inside the text. -/
theorem le_of_firstFrom? {pattern text : List Char} {start i : Nat}
    (h : firstFrom? pattern text start = some i) :
    start ≤ i ∧ i + pattern.length ≤ text.length := by
  refine ⟨?_, (firstFrom?_append_right h []).2⟩
  rw [firstFrom?] at h
  split at h
  · obtain ⟨j, -, rfl⟩ := Option.map_eq_some_iff.1 h
    exact Nat.le_add_left _ _
  · exact absurd h (by simp)

theorem le_of_lastUpTo? {pattern text : List Char} {stop i : Nat}
    (h : lastUpTo? pattern text stop = some i) : i ≤ stop := by
  have hle := last?_le h
  rw [List.length_take] at hle
  omega

end Text

/-! ### Consistent locations -/

namespace Source

variable {s : Source} {loc : Location}

/-- The location fits the source. -/
structure Consistent (s : Source) (loc : Location) : Prop where
  first_onLine : s.OnLine loc.first
  last_onLine : s.OnLine loc.last
  ordered : ¬ loc.last < loc.first
  inside : ∀ last, s.offset loc.last.line loc.last.column = .ok last → last < s.length

/-- **The consistent locations are the stretches of the text.** -/
theorem consistent_iff :
    s.Consistent loc ↔
      ∃ first last, first ≤ last ∧ last < s.length ∧ loc = s.stretch first last := by
  constructor
  · rintro ⟨hfirst, hlast, hordered, hinside⟩
    obtain ⟨first, hfirst⟩ := onLine_iff.1 hfirst
    obtain ⟨last, hlast⟩ := onLine_iff.1 hlast
    rw [hlast] at hordered hinside
    rw [hfirst, Text.positionAt_lt_iff] at hordered
    have hlt := hinside last (s.offset_positionAt last)
    refine ⟨first, last, Nat.le_of_not_lt hordered, Int.ofNat_lt.1 hlt, ?_⟩
    rw [stretch, ← hfirst, ← hlast]
  · rintro ⟨first, last, hle, hlt, rfl⟩
    refine ⟨onLine_iff.2 ⟨first, rfl⟩, onLine_iff.2 ⟨last, rfl⟩, ?_, fun found hfound ↦ ?_⟩
    · exact mt Text.positionAt_lt_iff.1 (Nat.not_lt_of_le hle)
    · obtain rfl := Except.ok.inj ((s.offset_positionAt last).symm.trans hfound)
      exact Int.ofNat_lt.2 hlt

namespace Consistent

/-- Merging keeps locations consistent. -/
theorem merge {other : Location} (h : s.Consistent loc) (hother : s.Consistent other) :
    s.Consistent (loc.merge other) := by
  obtain ⟨first, last, hle, hlt, rfl⟩ := consistent_iff.1 h
  obtain ⟨first', last', hle', hlt', rfl⟩ := consistent_iff.1 hother
  rw [merge_stretch]
  exact consistent_iff.2 ⟨_, _, by omega, by omega, rfl⟩

/-- The anchor is found after the location and in the text. -/
theorem expandRight {anchor : String} (hanchor : 0 < anchor.toList.length) {wider : Location}
    (h : s.Consistent loc) (hwider : Location.expandRight s anchor loc = .ok wider) :
    s.Consistent wider := by
  obtain ⟨first, last, hle, -, rfl⟩ := consistent_iff.1 h
  obtain ⟨stop, found, hstop, hfound, rfl⟩ := Location.expandRight_eq_ok_iff.1 hwider
  obtain rfl : (last : Int) = stop := Except.ok.inj ((s.offset_positionAt last).symm.trans hstop)
  obtain ⟨hstart, hlength⟩ := Text.le_of_firstFrom? hfound
  have hlt : found + anchor.toList.length - 1 < s.length := by
    show _ < s.text.length
    omega
  exact consistent_iff.2 ⟨first, found + anchor.toList.length - 1, by omega, hlt, rfl⟩

/-- The anchor is found before the location. -/
theorem expandLeft {anchor : String} {wider : Location} (h : s.Consistent loc)
    (hwider : Location.expandLeft s anchor loc = .ok wider) : s.Consistent wider := by
  obtain ⟨first, last, hle, hlt, rfl⟩ := consistent_iff.1 h
  obtain ⟨start, found, hstart, hfound, rfl⟩ := Location.expandLeft_eq_ok_iff.1 hwider
  obtain rfl : (first : Int) = start :=
    Except.ok.inj ((s.offset_positionAt first).symm.trans hstart)
  have hfirst := Text.le_of_lastUpTo? hfound
  exact consistent_iff.2 ⟨found, last, by omega, hlt, rfl⟩

/-- The source has both lines of a consistent location. -/
theorem line_lt (h : s.Consistent loc) :
    loc.first.line < s.lineCount ∧ loc.last.line < s.lineCount := by
  obtain ⟨first, last, -, -, rfl⟩ := consistent_iff.1 h
  exact ⟨s.line_positionAt_lt first, s.line_positionAt_lt last⟩

end Consistent

end Source

/-! ### Building in the text -/

namespace Node

/-- **Nothing is clamped at a consistent location.** -/
theorem events_build_of_consistent {source : Source} {loc : Location} (h : source.Consistent loc)
    {shape : Shape Node} (hparts : ∀ c ∈ shape.children, c.Built source) :
    (build source (some loc) shape).events = [] := by
  obtain ⟨first, last, hle, hlt, rfl⟩ := Source.consistent_iff.1 h
  have hown : rangeOf source (source.stretch first last) = .ok ⟨first, last + 1⟩ :=
    rangeOf_eq_ok_iff.2
      ⟨first, last, source.offset_positionAt first, source.offset_positionAt last, rfl⟩
  have hclamp : (reach ⟨first, last + 1⟩ shape).clamp source.length =
      reach ⟨first, last + 1⟩ shape :=
    (clamp_reach_eq_self_iff (Int.natCast_nonneg first) hparts).2
      ⟨show (last : Int) + 1 ≤ source.length by omega,
        .inl (show (first : Int) ≤ last + 1 by omega)⟩
  rw [build_some hown, hclamp, if_pos rfl]

end Node

/-! ### Converting consistent trees -/

/-- Every location in the tree is consistent with the source. -/
def Tree.Consistent (source : Source) (t : Tree) : Prop :=
  ∀ u, t.Reaches u → ∀ loc ∈ u.location, source.Consistent loc

/-- So do the expansions that the converter makes. -/
theorem Location.expandRight_consistent {source : Source} {loc : Location}
    (h : source.Consistent loc) :
    Agree source.Consistent (fun _ _ ↦ True) (expandRight source "]" loc)
      (expandRight source "]" loc) := by
  refine .refl (fun wider hwider ↦ ?_) fun _ _ ↦ trivial
  exact h.expandRight (by decide) hwider

theorem Location.expandLeft_consistent {source : Source} {loc : Location}
    (h : source.Consistent loc) :
    Agree source.Consistent (fun _ _ ↦ True) (expandLeft source "when " loc)
      (expandLeft source "when " loc) := by
  refine .refl (fun wider hwider ↦ ?_) fun _ _ ↦ trivial
  exact h.expandLeft hwider

/-- Building at a consistent location records nothing. -/
theorem Node.build_consistent {source : Source} {loc : Location} (h : source.Consistent loc)
    {shape : Shape Node} (hparts : ∀ c ∈ shape.children, c.Built source) :
    Alongside (fun _ ↦ False) (fun _ _ ↦ True) (fun _ ↦ True)
      (build source (some loc) shape) (build source (some loc) shape) := by
  refine ⟨rfl, fun found hfound ↦ ?_, .refl (fun _ _ ↦ trivial) fun _ _ ↦ trivial⟩
  rw [events_build_of_consistent h hparts] at hfound
  exact List.not_mem_nil hfound

/-- Nothing is recorded below consistent locations. -/
def Parallel.quiet (source : Source) : Parallel source source where
  Stands _ _ t := t.Consistent source
  Admits := source.Consistent
  Records _ := False
  Fails _ _ := True
  stands_child h hc u hu := h u (.head hc hu)
  admits_of_stands h := h _ (.refl _)
  admits_merge := Source.Consistent.merge
  unrecognized _ _ := trivial
  expandRight := Location.expandRight_consistent
  expandLeft := Location.expandLeft_consistent
  build h hparts := Node.build_consistent h hparts

namespace Convert

/-- Converting a consistent tree records nothing at all. -/
theorem events_of_consistent {source : Source} (hsource : source.text ≠ [])
    {root : Tree.Block Tree} (h : (Tree.block root).Consistent source) :
    (program source root).events = [] := by
  have hstands : (Parallel.quiet source).Stands [] [] (.block root) := h
  have hruns := Parallel.programBody_runs hstands
  rw [program_eq_map hsource]
  exact List.eq_nil_iff_forall_not_mem.2 hruns.records

/-- Nor does it fail for a location outside. -/
theorem not_outside_of_consistent {source : Source} {root : Tree.Block Tree}
    (h : (Tree.block root).Consistent source) (p : PositionError) :
    (program source root).result ≠ .error (.outside p) := by
  intro hresult
  -- The line that is refused is one of a location, and those are lines of the source.
  obtain ⟨line, ⟨u, hu, loc, hloc, hline⟩, hle, -⟩ := exists_of_program_outside hresult
  obtain ⟨hfirst, hlast⟩ := (h u hu loc hloc).line_lt
  rcases hline with rfl | rfl
  · exact absurd hle (Nat.not_le_of_lt hfirst)
  · exact absurd hle (Nat.not_le_of_lt hlast)

/-- **A tree that fits its source is converted quietly.** If every location is in order, on its
lines and in the text, then no line is refused and nothing is clamped, and a normalization that has
a syntax tree has nothing to report. -/
theorem program_quiet {source : Source} (hsource : source.text ≠ []) {root : Tree.Block Tree}
    (h : ∀ t, (Tree.block root).Reaches t → ∀ loc ∈ t.location, source.Consistent loc) :
    (∀ p, (program source root).result ≠ .error (.outside p)) ∧
      (program source root).events = [] ∧
      ∀ (names : FileNames) (input : Tree.Input) (node : Node), input.load.result = .ok root →
        (program source root).result = .ok node →
          ∃ n, (normalize names source.text input).result = .ok n ∧ n.ast = some node ∧
            n.diagnostics = [] := by
  have hevents := events_of_consistent hsource h
  refine ⟨not_outside_of_consistent h, hevents, fun names input node hload hresult ↦ ?_⟩
  have hrename : program source root = program ⟨source.text, names.source⟩ root :=
    program_rename source.text source.name names.source root
  rw [hrename] at hresult hevents
  have hwritable : ∀ loc ∈ (program ⟨source.text, names.source⟩ root).events,
      loc.isWritable = true := by
    rw [hevents]
    exact fun loc hloc ↦ absurd hloc List.not_mem_nil
  exact ⟨_, (NormalizesTo.converted hload hresult hwritable).result_eq, rfl, by rw [hevents]; rfl⟩

def indexLines : Source :=
  ⟨['n', 'u', 'l', 'l', '[', '\n', 'n', 'u', 'l', 'l', ']'], Source.unnamed⟩

/-- An index over two lines. Its location leaves out the bracket that closes it. -/
def indexLinesTree : Tree.Block Tree :=
  ⟨some ⟨⟨0, 0⟩, ⟨1, 4⟩⟩, [.value (some ⟨⟨0, 0⟩, ⟨1, 3⟩⟩) (.null (some ⟨⟨0, 0⟩, ⟨0, 3⟩⟩))
    [.index (some ⟨⟨0, 4⟩, ⟨1, 3⟩⟩) (.null (some ⟨⟨1, 0⟩, ⟨1, 3⟩⟩))]]⟩

theorem indexLinesTree_consistent :
    ∀ t, (Tree.block indexLinesTree).Reaches t → ∀ loc ∈ t.location, indexLines.Consistent loc := by
  have hstretch : ∀ first last, first ≤ last → last < 11 →
      ∀ loc ∈ some (indexLines.stretch first last), indexLines.Consistent loc := by
    intro first last hle hlt loc hloc
    exact Source.consistent_iff.2 ⟨first, last, hle, hlt, (Option.some.inj hloc).symm⟩
  have hleaf : ∀ first last, first ≤ last → last < 11 →
      ∀ t, (Tree.null (some (indexLines.stretch first last))).Reaches t →
        ∀ loc ∈ t.location, indexLines.Consistent loc :=
    fun first last hle hlt ↦ Tree.forall_reaches_iff.2
      ⟨hstretch first last hle hlt, fun c hc ↦ absurd hc List.not_mem_nil⟩
  -- The block, the value, and then its base and its index.
  refine Tree.forall_reaches_iff.2 ⟨hstretch 0 10 (by decide) (by decide),
    List.forall_mem_singleton.2 ?_⟩
  refine Tree.forall_reaches_iff.2 ⟨hstretch 0 9 (by decide) (by decide),
    List.forall_mem_cons.2 ⟨hleaf 0 3 (by decide) (by decide), List.forall_mem_singleton.2 ?_⟩⟩
  exact Tree.forall_reaches_iff.2 ⟨hstretch 4 9 (by decide) (by decide),
    List.forall_mem_singleton.2 (hleaf 6 9 (by decide) (by decide))⟩

theorem program_quiet_index :
    ∃ node, (program indexLines indexLinesTree).result = .ok node ∧
      (program indexLines indexLinesTree).events = [] ∧
      ∃ n, (normalize FileNames.unnamed indexLines.text (.loaded indexLinesTree)).result = .ok n ∧
        n.ast = some node ∧ n.diagnostics = [] := by
  obtain ⟨-, hevents, hnormalize⟩ := program_quiet (List.cons_ne_nil _ _) indexLinesTree_consistent
  have hresult : ∃ node, (program indexLines indexLinesTree).result = .ok node := ⟨_, by rfl⟩
  obtain ⟨node, hnode⟩ := hresult
  exact ⟨node, hnode, hevents, hnormalize FileNames.unnamed (.loaded indexLinesTree) node rfl hnode⟩

end Convert

end CoffeeTree
