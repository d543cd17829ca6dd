import CoffeeTree.Diagnostic.Conversion
import CoffeeTree.Proofs.Positions

/-!
# Spans that can be shown

A diagnostic is about a span, and a span can be made of any two offsets: they may be negative, in
the wrong order, or past the end of the text. What comes out can be shown all the same. Both ends
are places of the source (`Source.HasPlace`), and the end is not before the start.

The places of a source are the positions of its offsets up to the end of the text. There the column
does not run over the end of its line, on the last line either (`Text.exists_lineAt_positionAt`).
Since both offsets are brought into the text before they are turned into positions, and positions
are ordered as offsets are, nothing else is needed.

A location whose first position is such a place is shown from there on, whatever its last position
is, as long as the line of that is one of the source.
-/

namespace CoffeeTree

namespace Text

theorem positionAt_le (text : List Char) {a b : Nat} (h : a ≤ b) :
    (positionAt text a).line < (positionAt text b).line ∨
      (positionAt text a).line = (positionAt text b).line ∧
        (positionAt text a).column ≤ (positionAt text b).column := by
  rcases Nat.eq_or_lt_of_le h with rfl | hlt
  · exact .inr ⟨rfl, Nat.le_refl _⟩
  · have hbefore : (positionAt text a).line < (positionAt text b).line ∨
        ¬ (positionAt text b).line < (positionAt text a).line ∧
          (positionAt text a).column < (positionAt text b).column := positionAt_lt text hlt
    omega

/-- **Up to the end of the text no column runs over its line.** -/
theorem exists_lineAt_positionAt {text : List Char} {offset : Nat} (h : offset ≤ text.length) :
    ∃ before piece after, LineAt text (positionAt text offset).line before piece after ∧
      (positionAt text offset).column ≤ piece.length := by
  have hcount : (positionAt text offset).line ≤ text.count '\n' := by
    rw [line_positionAt]
    exact (List.take_sublist _ _).count_le _
  obtain ⟨before, piece, after, hline⟩ := exists_lineAt text hcount
  refine ⟨before, piece, after, hline, ?_⟩
  -- The offset is that of its position, so it is the start of the line and the column.
  obtain ⟨start, hstart, hoffset⟩ : ∃ start : Nat,
      (lineStarts text)[(positionAt text offset).line]? = some start ∧
        (offset : Int) = start + (positionAt text offset).column :=
    Source.offset_eq_ok_iff.1 (Source.offset_positionAt ⟨text, Source.unnamed⟩ offset)
  obtain rfl : before.length = start :=
    Option.some.inj (hline.getElem?_lineStarts.symm.trans hstart)
  have hsum : offset = before.length + (positionAt text offset).column := by omega
  have hback : positionAt text (before.length + (positionAt text offset).column) =
      ⟨(positionAt text offset).line, (positionAt text offset).column⟩ := by
    rw [← hsum]
  rcases (hline.positionAt_eq_iff _).1 hback with hle | hlast
  · exact hle
  · -- The last line ends with the text.
    have hlength := congrArg List.length hline.text_eq
    rw [hline.after_eq_nil_iff.2 hlast, List.append_nil, List.length_append] at hlength
    omega

end Text

/-- The end is not before the start. -/
def Span.Ordered (span : Span) : Prop :=
  span.line < span.endLine ∨ span.line = span.endLine ∧ span.column ≤ span.endColumn

/-- The span starts at a position, which counts from zero. -/
def Span.StartsAt (span : Span) (p : Position Nat) : Prop :=
  span.line = p.line + 1 ∧ span.column = p.column + 1

namespace Source

variable {s : Source}

/-- A line and a column, both counted from one, that can be shown: the line is one of the source,
and the column is that of a character of the line or the one behind it. A carriage return at the end
of a line is a character of it. -/
structure HasPlace (s : Source) (line column : Int) : Prop where
  one_le_line : 1 ≤ line
  line_le : line ≤ s.lineCount
  one_le_column : 1 ≤ column
  column_le : ∃ piece ∈ s.lines[(line - 1).toNat]?, column ≤ piece.length + 1

/-- An offset in the source has a place, even the one behind its end. -/
theorem hasPlace_positionAt {offset : Nat} (h : offset ≤ s.length) :
    s.HasPlace ((Text.positionAt s.text offset).line + 1)
      ((Text.positionAt s.text offset).column + 1) := by
  obtain ⟨before, piece, after, hline, hcolumn⟩ := Text.exists_lineAt_positionAt h
  have hlt := line_lt_of_offset (s.offset_positionAt offset)
  refine ⟨by omega, by omega, by omega, piece, ?_, by omega⟩
  rw [Int.add_sub_cancel, Int.toNat_natCast]
  exact hline.piece_eq

/-- A clamped offset is in the source. -/
theorem clampOffset_le (s : Source) (offset : Int) : s.clampOffset offset ≤ s.length := by
  rw [clampOffset]
  omega

theorem clampOffset_mono (s : Source) {a b : Int} (h : a ≤ b) :
    s.clampOffset a ≤ s.clampOffset b := by
  rw [clampOffset, clampOffset]
  omega

/-- An offset inside the text stays. -/
theorem clampOffset_of_le {offset : Int} (hnonneg : 0 ≤ offset) (hle : offset ≤ s.length) :
    s.clampOffset offset = offset.toNat := by
  rw [clampOffset]
  omega

/-- **A span is ordered**, whatever its offsets are. -/
theorem span_ordered (s : Source) (start stop : Int) : (s.span start stop).Ordered := by
  have hle := Text.positionAt_le s.text (s.clampOffset_mono (Int.le_max_right stop start))
  show (_ + 1 : Int) < _ + 1 ∨ (_ + 1 : Int) = _ + 1 ∧ (_ + 1 : Int) ≤ _ + 1
  omega

/-- A span starts where its start is, if that is in the source. -/
theorem span_startsAt {start stop : Int} {p : Position Nat} (hposition : s.position start = .ok p)
    (hnonneg : 0 ≤ start) (hle : start ≤ s.length) : (s.span start stop).StartsAt p := by
  rw [position_of_nonneg hnonneg, ← clampOffset_of_le hnonneg hle] at hposition
  obtain rfl := Except.ok.inj hposition
  exact ⟨rfl, rfl⟩

/-- A location is shown from its first position on, if that is a place of the source and its last
line is there. -/
theorem locationSpan_startsAt {loc : Location} {offset : Int} (hfirst : s.OnLine loc.first)
    (hoffset : s.offset loc.first.line loc.first.column = .ok offset) (hle : offset ≤ s.length)
    (hlast : loc.last.line < s.lineCount) : (s.locationSpan (some loc)).StartsAt loc.first := by
  obtain ⟨found, hfound, hposition⟩ := hfirst
  obtain rfl : offset = found := Except.ok.inj (hoffset.symm.trans hfound)
  rw [← length_lineStarts] at hlast
  have hstop : s.offset loc.last.line loc.last.column = .ok _ :=
    offset_eq_ok_iff.2 ⟨_, List.getElem?_eq_getElem hlast, rfl⟩
  rw [locationSpan, hoffset, hstop]
  exact span_startsAt hposition (offset_nonneg hoffset) hle

/-- **Every span can be shown.** Whatever the two offsets of a span are, its end is not before its
start, and both are places of the source. A location is reported from its first position on, both
when it was clamped and when its node is not recognized, if that position is on its line and not
past the end of the text, and the last line is there. -/
theorem span_printable (s : Source) :
    (∀ start stop : Int, (s.span start stop).Ordered ∧
      s.HasPlace (s.span start stop).line (s.span start stop).column ∧
      s.HasPlace (s.span start stop).endLine (s.span start stop).endColumn) ∧
    ∀ (loc : Location) (offset : Int), s.OnLine loc.first →
      s.offset loc.first.line loc.first.column = .ok offset → offset ≤ s.length →
      loc.last.line < s.lineCount →
      (s.locationSpan (some loc)).StartsAt loc.first ∧
        (Diagnostic.clamped s loc).span.StartsAt loc.first ∧
        ∀ e : Unrecognized, e.node.location = some loc →
          (Diagnostic.unrecognized s e).span.StartsAt loc.first ∧
            ∀ label ∈ (Diagnostic.unrecognized s e).labels, label.span.StartsAt loc.first := by
  refine ⟨fun start stop ↦ ⟨s.span_ordered start stop, hasPlace_positionAt (s.clampOffset_le _),
    hasPlace_positionAt (s.clampOffset_le _)⟩, fun loc offset hfirst hoffset hle hlast ↦ ?_⟩
  have hstarts := locationSpan_startsAt hfirst hoffset hle hlast
  refine ⟨hstarts, hstarts, fun e he ↦ ?_⟩
  rw [← he] at hstarts
  refine ⟨hstarts, fun label hlabel ↦ ?_⟩
  rw [List.mem_singleton.1 hlabel]
  exact hstarts

/-- The empty second line up to a column far behind the last line. The line feed is the first place
of the location, and the span is cut at the end of the text. -/
theorem span_printable_fourLines :
    (fourLines.span 9 (-2)).Ordered ∧ fourLines.HasPlace 4 1 ∧
      (fourLines.locationSpan (some ⟨⟨1, 0⟩, ⟨3, 9⟩⟩)).StartsAt ⟨1, 0⟩ ∧
      fourLines.locationSpan (some ⟨⟨1, 0⟩, ⟨3, 9⟩⟩) =
        { startOffset := 3, endOffset := 17, line := 2, column := 1, endLine := 4, endColumn := 1
          file := unnamed } := by
  obtain ⟨hspans, hlocations⟩ := span_printable fourLines
  obtain ⟨hordered, hplace, -⟩ := hspans 9 (-2)
  exact ⟨hordered, hplace,
    (hlocations ⟨⟨1, 0⟩, ⟨3, 9⟩⟩ 3 ⟨3, rfl, rfl⟩ rfl (by decide) (by decide)).1, rfl⟩

end Source

end CoffeeTree
