import CoffeeTree.Proofs.Anchors
import CoffeeTree.Proofs.Containment
import CoffeeTree.Proofs.Parallel

/-!
# Lines that the source does not have

A conversion asks its source for offsets: of the locations in the tree, of their hulls, and of
locations that it expanded to an anchor. The source refuses a line that it does not have, and
nothing else (`Source.offset_eq_error_iff`). A hull takes its lines from the locations in it, and
an expansion ends on a line of the source. So a conversion that is refused asked for a line that a
location of the tree mentions (`Convert.exists_of_program_outside`).
-/

namespace CoffeeTree

namespace Source

variable {s : Source}

/-- **Only lines are refused**, and only those after the last one. -/
theorem offset_eq_error_iff {line : Nat} {column : Int} {e : PositionError} :
    s.offset line column = .error e ↔
      s.lineCount ≤ line ∧ e = .lineOutside line (s.lineCount - 1) := by
  have hline : ¬ ((line : Int) < 0) := by omega
  rw [Source.offset, if_neg hline, Int.toNat_natCast, length_lineStarts]
  rcases hstart : (Text.lineStarts s.text)[line]? with _ | start
  · have hle := List.getElem?_eq_none_iff.1 hstart
    rw [length_lineStarts] at hle
    simp [hle, eq_comm]
  · obtain ⟨hlt, -⟩ := List.getElem?_eq_some_iff.1 hstart
    rw [length_lineStarts] at hlt
    refine iff_of_false (by simp) fun h ↦ ?_
    exact absurd h.1 (Nat.not_le_of_lt hlt)

/-- A position in the text is on one of its lines. -/
theorem line_positionAt_lt (s : Source) (offset : Nat) :
    (Text.positionAt s.text offset).line < s.lineCount :=
  line_lt_of_offset (s.offset_positionAt offset)

end Source

/-! ### Steps that are refused -/

/-- An expansion is outside only if its location is. -/
theorem ConversionError.ofAnchor_eq_outside_iff {e : AnchorError} {p : PositionError} :
    ofAnchor e = .outside p ↔ e = .outside p := by
  rcases e with ⟨side, line, column, anchor⟩ | refusal
  · simp [ofAnchor]
  · simp [ofAnchor]

namespace Location

variable {source : Source} {anchor : String} {loc : Location} {p : PositionError}

/-- Where only the first step asks for an offset, a refusal comes from there. -/
theorem eq_error_of_bind {asked : Except PositionError Int}
    {next : Int → Except AnchorError Location} (hnext : ∀ offset, next offset ≠ .error (.outside p))
    (h : asked.mapError .outside >>= next = .error (.outside p)) : asked = .error p := by
  rcases asked with refusal | offset
  · exact congrArg Except.error (AnchorError.outside.inj (Except.error.inj h))
  · exact absurd h (hnext offset)

/-- What is refused is the end from which the search begins. -/
theorem offset_of_expandRight (h : expandRight source anchor loc = .error (.outside p)) :
    source.offset loc.last.line loc.last.column = .error p := by
  refine eq_error_of_bind (fun stop ↦ ?_) h
  split
  · simp
  · simp

theorem offset_of_expandLeft (h : expandLeft source anchor loc = .error (.outside p)) :
    source.offset loc.first.line loc.first.column = .error p := by
  refine eq_error_of_bind (fun start ↦ ?_) h
  split
  · simp
  · simp

end Location

namespace Node

/-- A range is refused at one of its ends. -/
theorem rangeOf_eq_error {source : Source} {loc : Location} {p : PositionError}
    (h : rangeOf source loc = .error p) :
    source.offset loc.first.line loc.first.column = .error p ∨
      source.offset loc.last.line loc.last.column = .error p := by
  rcases hfirst : source.offset loc.first.line loc.first.column with refusal | first
  · rw [rangeOf, hfirst] at h
    obtain rfl : refusal = p := Except.error.inj h
    exact .inl rfl
  · rcases hlast : source.offset loc.last.line loc.last.column with refusal | last
    · rw [rangeOf, hfirst, hlast] at h
      obtain rfl : refusal = p := Except.error.inj h
      exact .inr rfl
    · rw [rangeOf_eq_ok_iff.2 ⟨first, last, hfirst, hlast, rfl⟩] at h
      exact absurd h (by simp)

/-- Building fails for no other reason than a location outside. -/
theorem exists_of_build_error {source : Source} {loc : Location} {shape : Shape Node}
    {e : ConversionError} (h : (build source (some loc) shape).result = .error e) :
    ∃ p, e = .outside p ∧ rangeOf source loc = .error p := by
  rcases hown : rangeOf source loc with p | own
  · have hresult : (build source (some loc) shape).result = .error (.outside p) := by
      rw [build, hown]
      rfl
    rw [hresult] at h
    exact ⟨p, (Except.error.inj h).symm, rfl⟩
  · rw [build_some hown] at h
    exact absurd h (by simp)

/-- A node is built when the source has the lines of its location, and only then. -/
theorem exists_build_iff {source : Source} {location : Option Location}
    {shape : Shape Node} :
    (∃ node, (build source location shape).result = .ok node ∧ node.shape = shape) ↔
      ∀ loc ∈ location, loc.first.line < source.lineCount ∧ loc.last.line < source.lineCount := by
  constructor
  · rintro ⟨node, hnode, -⟩ loc hloc
    obtain rfl : location = some loc := hloc
    obtain ⟨first, last, hfirst, hlast⟩ := exists_offsets_of_build hnode
    exact ⟨Source.line_lt_of_offset hfirst, Source.line_lt_of_offset hlast⟩
  · intro hlines
    rcases hresult : (build source location shape).result with e | node
    · rcases location with _ | loc
      · exact absurd hresult (by simp [build])
      · obtain ⟨p, -, hrange⟩ := exists_of_build_error hresult
        obtain ⟨hfirst, hlast⟩ := hlines loc rfl
        rcases rangeOf_eq_error hrange with hrefused | hrefused
        · exact absurd (Source.offset_eq_error_iff.1 hrefused).1 (Nat.not_le.2 hfirst)
        · exact absurd (Source.offset_eq_error_iff.1 hrefused).1 (Nat.not_le.2 hlast)
    · exact ⟨node, rfl, shape_of_build hresult⟩

end Node

/-! ### Lines of a tree -/

/-- A location somewhere in the tree starts or ends on the line. -/
def Tree.MentionsLine (t : Tree) (line : Nat) : Prop :=
  ∃ u, t.Reaches u ∧ ∃ loc ∈ u.location, line = loc.first.line ∨ line = loc.last.line

/-- A line that is mentioned below is mentioned. -/
theorem Tree.MentionsLine.of_child {t c : Tree} {line : Nat} (h : c.MentionsLine line)
    (hc : c ∈ t.children) : t.MentionsLine line := by
  obtain ⟨u, hu, hline⟩ := h
  exact ⟨u, .head hc hu, hline⟩

/-- The source refuses one of the lines, and says which. -/
def Source.Refuses (source : Source) (Lines : Nat → Prop) (p : PositionError) : Prop :=
  ∃ line, Lines line ∧ source.lineCount ≤ line ∧ p = .lineOutside line (source.lineCount - 1)

/-- Each end of the location is on one of the lines or on a line of the source. -/
def Location.Uses (source : Source) (Lines : Nat → Prop) (loc : Location) : Prop :=
  (Lines loc.first.line ∨ loc.first.line < source.lineCount) ∧
    (Lines loc.last.line ∨ loc.last.line < source.lineCount)

namespace Location.Uses

variable {source : Source} {Lines : Nat → Prop} {loc : Location}

/-- A merged location has its ends from the two locations. -/
theorem merge {other : Location} (h : loc.Uses source Lines) (hother : other.Uses source Lines) :
    Uses source Lines (loc.merge other) := by
  constructor
  · show Lines (if loc.first < other.first then loc.first else other.first).line ∨
      (if loc.first < other.first then loc.first else other.first).line < source.lineCount
    split
    · exact h.1
    · exact hother.1
  · show Lines (if loc.last < other.last then other.last else loc.last).line ∨
      (if loc.last < other.last then other.last else loc.last).line < source.lineCount
    split
    · exact hother.2
    · exact h.2

/-- If a line is refused then it is one of the given ones. -/
theorem refuses {line column : Nat} {p : PositionError}
    (hline : Lines line ∨ line < source.lineCount) (h : source.offset line column = .error p) :
    source.Refuses Lines p := by
  obtain ⟨hle, hp⟩ := Source.offset_eq_error_iff.1 h
  rcases hline with hline | hlt
  · exact ⟨line, hline, hle, hp⟩
  · exact absurd hle (Nat.not_le_of_lt hlt)

/-- An expansion stays on the lines of its location and of the source. -/
theorem expandRight (h : loc.Uses source Lines) (anchor : String) :
    Agree (Uses source Lines)
      (fun e _ ↦ ∀ p, ConversionError.ofAnchor e = .outside p → source.Refuses Lines p)
      (Location.expandRight source anchor loc) (Location.expandRight source anchor loc) := by
  refine .refl (fun wider hwider ↦ ?_) fun e he p hp ↦ ?_
  · obtain ⟨stop, found, -, -, rfl⟩ := expandRight_eq_ok_iff.1 hwider
    exact ⟨h.1, .inr (source.line_positionAt_lt _)⟩
  · rw [ConversionError.ofAnchor_eq_outside_iff.1 hp] at he
    exact refuses h.2 (offset_of_expandRight he)

theorem expandLeft (h : loc.Uses source Lines) (anchor : String) :
    Agree (Uses source Lines)
      (fun e _ ↦ ∀ p, ConversionError.ofAnchor e = .outside p → source.Refuses Lines p)
      (Location.expandLeft source anchor loc) (Location.expandLeft source anchor loc) := by
  refine .refl (fun wider hwider ↦ ?_) fun e he p hp ↦ ?_
  · obtain ⟨start, found, -, -, rfl⟩ := expandLeft_eq_ok_iff.1 hwider
    exact ⟨.inr (source.line_positionAt_lt _), h.2⟩
  · rw [ConversionError.ofAnchor_eq_outside_iff.1 hp] at he
    exact refuses h.1 (offset_of_expandLeft he)

/-- Building refuses only lines of its location. -/
theorem build (h : loc.Uses source Lines) (shape : Shape Node) :
    Alongside (fun _ ↦ True) (fun e _ ↦ ∀ p, e = .outside p → source.Refuses Lines p)
      (fun _ ↦ True) (Node.build source (some loc) shape) (Node.build source (some loc) shape) := by
  refine ⟨rfl, fun _ _ ↦ trivial, .refl (fun _ _ ↦ trivial) fun e he p hp ↦ ?_⟩
  obtain ⟨p', rfl, hrange⟩ := Node.exists_of_build_error he
  obtain rfl : p' = p := ConversionError.outside.inj hp
  rcases Node.rangeOf_eq_error hrange with hfirst | hlast
  · exact refuses h.1 hfirst
  · exact refuses h.2 hlast

end Location.Uses

/-- Only lines from a given set are refused, if the tree mentions no others. -/
def Parallel.refusals (source : Source) (Lines : Nat → Prop) : Parallel source source where
  Stands _ _ t := ∀ line, t.MentionsLine line → Lines line
  Admits := Location.Uses source Lines
  Records _ := True
  Fails e _ := ∀ p, e = .outside p → source.Refuses Lines p
  stands_child h hc line hline := h line (hline.of_child hc)
  admits_of_stands h loc hloc :=
    ⟨.inl (h _ ⟨_, .refl _, loc, hloc, .inl rfl⟩), .inl (h _ ⟨_, .refl _, loc, hloc, .inr rfl⟩)⟩
  admits_merge := Location.Uses.merge
  unrecognized _ _ _ hp := nomatch hp
  expandRight h := h.expandRight "]"
  expandLeft h := h.expandLeft "when "
  build h _ := h.build _

namespace Convert

/-- **A conversion that is refused asked for a line that the tree mentions** and the source does not
have. -/
theorem exists_of_program_outside {source : Source} {root : Tree.Block Tree} {p : PositionError}
    (h : (program source root).result = .error (.outside p)) :
    ∃ line, (Tree.block root).MentionsLine line ∧ source.lineCount ≤ line ∧
      p = .lineOutside line (source.lineCount - 1) := by
  have hstands : (Parallel.refusals source (Tree.block root).MentionsLine).Stands [] []
      (.block root) :=
    fun _ hline ↦ hline
  have hruns := Parallel.programBody_runs hstands
  exact hruns.results.fails (programBody_of_program_error h) p rfl

end Convert

end CoffeeTree
