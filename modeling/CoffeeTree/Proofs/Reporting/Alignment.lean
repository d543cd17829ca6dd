import CoffeeTree.Proofs.Reporting.Markers

/-!
# Where markers are printed

The markers of a line are as far in as the text before the first marked character is long, counted
from where the line and the markers start. The two rows do not start alike. Before the text there
are the number of the line, in three characters or more, and a bar between two blanks; before the
markers there are three blanks, a bar and one blank. So the first marker is printed to the left of
the first marked character: by one column for the lines that have a number of up to three digits,
and by one more for each further digit (`MarkedLine.Marks.idxOf_add`).
-/

namespace CoffeeTree

namespace MarkedLine

theorem length_gutter (number : Nat) :
    (gutter number).length = max 3 (toString number).toList.length := by
  rw [gutter, List.length_append, List.length_replicate]
  omega

/-- The numbers of up to three digits fit into the gutter. -/
theorem length_gutter_of_lt {number : Nat} (h : number < 1000) : (gutter number).length = 3 := by
  have hdigits : (toString number).toList = Nat.toDigits 10 number := String.toList_ofList
  have hle := (Nat.length_toDigits_le_iff (b := 10) (k := 3) (by decide) (by decide)).2 h
  rw [length_gutter, hdigits, Nat.max_eq_left hle]

/-- The column of its row, counted from zero, in which the first marked character of a line is
printed. If the span starts at the end of the line, this is the column behind the row. -/
def markedColumn (source : Source) (span : Span) (line : Int) : Nat :=
  (gutter line.toNat ++ " | ".toList ++ front source span line).length

theorem markedColumn_eq (source : Source) (span : Span) (line : Int) :
    markedColumn source span line =
      (gutter line.toNat).length + 3 + (front source span line).length := by
  rw [markedColumn, List.length_append, List.length_append]
  rfl

namespace Marks

variable {source : Source} {span : Span} {mark : Char} {message : String} {line : Int}
  {text below : List Char}

/-- Before the first marked character the row has its gutter and the front of the line. -/
theorem take_markedColumn (h : Marks source span mark message line text below) :
    text.take (markedColumn source span line) =
      gutter line.toNat ++ " | ".toList ++ front source span line := by
  rw [h.text_eq, markedColumn, List.length_append, List.take_length_add_append, h.take_eq]

theorem idxOf_eq (h : Marks source span mark message line text below) (hblank : mark ≠ ' ')
    (hbar : mark ≠ '|') : below.idxOf mark = 5 + (front source span line).length := by
  obtain ⟨width, hwidth, -, rfl⟩ := h.below_eq
  obtain ⟨n, rfl⟩ := Nat.exists_eq_add_of_le' hwidth
  have hgutter : mark ∉ "   | ".toList := by
    show mark ∉ [' ', ' ', ' ', '|', ' ']
    simp [hblank, hbar]
  have hindent : mark ∉ List.replicate (front source span line).length ' ' :=
    fun hmem ↦ hblank (List.eq_of_mem_replicate hmem)
  rw [List.append_assoc, List.append_assoc, List.idxOf_append, if_neg hgutter, List.idxOf_append,
    if_neg hindent, List.replicate_succ, List.cons_append, List.idxOf_cons_self,
    List.length_replicate]
  show 0 + _ + 5 = _
  omega

/-- **The first marker is left of the first marked character**, by as much as the gutters of the two
rows differ. -/
theorem idxOf_add (h : Marks source span mark message line text below) (hblank : mark ≠ ' ')
    (hbar : mark ≠ '|') :
    below.idxOf mark + ((gutter line.toNat).length - 2) = markedColumn source span line := by
  have hlength := length_gutter line.toNat
  rw [h.idxOf_eq hblank hbar, markedColumn_eq]
  omega

end Marks

end MarkedLine

theorem Label.mark_ne (leading : Bool) (label : Label) :
    label.mark leading ≠ ' ' ∧ label.mark leading ≠ '|' := by
  rw [mark]
  split <;> exact ⟨by decide, by decide⟩

namespace Diagnostic

variable {source : Source} {d : Diagnostic} {label : Label} {k i : Nat}

/-- The two rows of a line stand one after the other in the text of a diagnostic. -/
theorem pair_infix_rows (hlabel : d.shownLabels[k]? = some label) (hi : i < label.height source) :
    [(label.pair source (k == 0) i).1, (label.pair source (k == 0) i).2] <:+:
      d.rows (some source) := by
  have hpair : [(label.pair source (k == 0) i).1, (label.pair source (k == 0) i).2] <:+:
      label.rows source (k == 0) := by
    rw [Label.rows_eq]
    exact List.infix_of_mem_flatten (List.mem_map.2 ⟨i, List.mem_range.2 hi, rfl⟩)
  have hrows : "   |".toList :: label.rows source (k == 0) <:+: d.labelRows source :=
    List.infix_of_mem_flatten
      (List.mem_map.2 ⟨(label, k), List.mk_mem_zipIdx_iff_getElem?.2 hlabel, rfl⟩)
  have hlabels : d.labelRows source <:+: d.rows (some source) := by
    rw [rows, List.append_assoc]
    exact List.infix_append _ _ _
  exact (List.infix_cons hpair).trans (hrows.trans hlabels)

open MarkedLine in
/-- **Markers are printed to the left of what they mark.** For every line that a label of a
diagnostic shows there are two rows in its text, one above the other. In the upper row the first
marked character has the gutter and the front of the line before it. The first marker in the lower
row is left of it: by one column on the first 999 lines, and in general by the length of the line's
number, taken as three at least, less two. -/
theorem markers_left_of_marked (source : Source) (d : Diagnostic) {label : Label} {k : Nat}
    {line : Int} (hlabel : d.shownLabels[k]? = some label)
    (hfirst : Label.firstLine source label.span ≤ line)
    (hlast : line ≤ Label.lastLine source label.span) :
    ∃ above text below rest message,
      d.render (some source) = String.ofList (Text.joinLines (above ++ [text, below] ++ rest)) ∧
      Marks source label.span (label.mark (k == 0)) message line text below ∧
      text.take (markedColumn source label.span line) =
        gutter line.toNat ++ " | ".toList ++ front source label.span line ∧
      below.idxOf (label.mark (k == 0)) + (max 3 (toString line.toNat).toList.length - 2) =
        markedColumn source label.span line ∧
      (line < 1000 →
        below.idxOf (label.mark (k == 0)) + 1 = markedColumn source label.span line) := by
  -- The line is given by its distance from the first line of the label.
  obtain ⟨i, rfl⟩ := Int.le.dest hfirst
  have hi : i < label.height source := by
    rw [Label.height]
    omega
  obtain ⟨above, rest, hrows⟩ := pair_infix_rows hlabel hi
  have hmarks := Label.marks_pair hi (k == 0)
  have hshift := hmarks.idxOf_add (label.mark_ne _).1 (label.mark_ne _).2
  refine ⟨above, _, _, rest, _, ?_, hmarks, hmarks.take_markedColumn, ?_, fun hlt ↦ ?_⟩
  · rw [hrows]
    rfl
  · rw [← length_gutter]
    exact hshift
  · have hone := Label.one_le_firstLine source label.span
    rw [length_gutter_of_lt (by omega)] at hshift
    exact hshift

/-- Two lines, of which the second is indented by a tab. -/
def tabbed : Source := ⟨['a', '\n', '\t', 'f', '[', 'b'], Source.unnamed⟩

/-- The last letter of the second line. -/
def letterSpan : Span :=
  { startOffset := 0, endOffset := 0, line := 2, column := 4, endLine := 2, endColumn := 5
    file := Source.unnamed }

/-- A diagnostic about the letter. -/
def letterDiagnostic : Diagnostic where
  severity := .error
  code := "CSAST1002"
  message := ""
  span := letterSpan
  notes := []
  help := []
  labels := [⟨letterSpan, "here", false⟩]

/-- The letter is printed in column 12, with its number, the bar and the expanded tab before it, and
the marker in column 11. -/
theorem markers_left_of_marked_letter :
    letterDiagnostic.shownLabels[0]? = some ⟨letterSpan, "here", false⟩ ∧
      Label.firstLine tabbed letterSpan = 2 ∧ Label.lastLine tabbed letterSpan = 2 ∧
      MarkedLine.markedColumn tabbed letterSpan 2 = 12 ∧
      ∃ above text below rest,
        letterDiagnostic.render (some tabbed) =
          String.ofList (Text.joinLines (above ++ [text, below] ++ rest)) ∧
        text.take 12 = "  2 |     f[".toList ∧ below.idxOf '^' = 11 := by
  obtain ⟨above, text, below, rest, message, hrender, -, htake, -, hcolumn⟩ :=
    markers_left_of_marked tabbed letterDiagnostic
      (show letterDiagnostic.shownLabels[0]? = some ⟨letterSpan, "here", false⟩ from rfl)
      (show Label.firstLine tabbed letterSpan ≤ 2 by decide)
      (show 2 ≤ Label.lastLine tabbed letterSpan by decide)
  have hmarked : MarkedLine.markedColumn tabbed letterSpan 2 = 12 := by decide
  rw [hmarked] at htake hcolumn
  refine ⟨rfl, by decide, by decide, hmarked, above, text, below, rest, hrender, ?_,
    Nat.succ.inj (hcolumn (by decide))⟩
  rw [htake]
  rfl

open MarkedLine in
/-- Markers do not stand below what they mark. -/
theorem not_forall_markers_under_marked :
    ¬ ∀ (source : Source) (d : Diagnostic) (label : Label) (k : Nat) (line : Int),
      d.shownLabels[k]? = some label → Label.firstLine source label.span ≤ line →
      line ≤ Label.lastLine source label.span →
      ∃ above text below rest message,
        d.render (some source) = String.ofList (Text.joinLines (above ++ [text, below] ++ rest)) ∧
        Marks source label.span (label.mark (k == 0)) message line text below ∧
        below.idxOf (label.mark (k == 0)) = markedColumn source label.span line := by
  intro hall
  obtain ⟨above, text, below, rest, message, -, hmarks, hunder⟩ :=
    hall tabbed letterDiagnostic _ 0 2 rfl (by decide) (by decide)
  have hshift := hmarks.idxOf_add (by decide) (by decide)
  have hlength := length_gutter (Int.toNat 2)
  omega

end Diagnostic

end CoffeeTree
