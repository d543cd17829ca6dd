import CoffeeTree.Diagnostic.Render
import CoffeeTree.Proofs.Lines

/-!
# Markers under the text

A label shows the lines of its span, each as two rows: the text with its tabs expanded, and below it
the markers. Spans are arbitrary, so lines are first brought into the source and columns into their
line. From there on the markers keep to the text: they start in the column in which the first marked
character is shown, there is at least one, and at most one stands behind the line
(`MarkedLine.Marks`).

What makes this work is that tabs are expanded from left to right. What stands before the first
marked character is expanded in the same way alone and as a part of its line
(`Text.expandTabs_take_prefix`).
-/

namespace CoffeeTree

namespace Text

theorem expandTabsFrom_tab (size column : Nat) (rest : List Char) :
    expandTabsFrom size column ('\t' :: rest) =
      List.replicate (size - column % size) ' ' ++
        expandTabsFrom size (column + (size - column % size)) rest :=
  rfl

theorem expandTabsFrom_of_ne {c : Char} (hc : c ≠ '\t') (size column : Nat) (rest : List Char) :
    expandTabsFrom size column (c :: rest) =
      c :: expandTabsFrom size (if c = '\n' || c = '\r' then 0 else column + 1) rest := by
  rw [expandTabsFrom]
  exact hc

/-- Tabs are expanded from the left, so what comes later does not matter. -/
theorem expandTabsFrom_take_prefix (size column n : Nat) (text : List Char) :
    expandTabsFrom size column (text.take n) <+: expandTabsFrom size column text := by
  induction text generalizing column n with
  | nil => simp
  | cons c rest ih =>
    rcases n with _ | n
    · exact List.nil_prefix
    · rw [List.take_succ_cons]
      by_cases hc : c = '\t'
      · subst hc
        rw [expandTabsFrom_tab, expandTabsFrom_tab]
        exact (List.prefix_append_right_inj _).2 (ih _ _)
      · rw [expandTabsFrom_of_ne hc, expandTabsFrom_of_ne hc]
        exact (List.prefix_cons_inj _).2 (ih _ _)

/-- **Expanding the front of a line gives the front of the expanded line.** -/
theorem expandTabs_take_prefix (size n : Nat) (text : List Char) :
    expandTabs size (text.take n) <+: expandTabs size text :=
  expandTabsFrom_take_prefix size 0 n text

end Text

namespace MarkedLine

/-- The column of a line, counted from one, in which a span starts: its own column on its first
line, brought into the line, whose end counts, and the first column on the other lines. -/
def startColumn (raw : List Char) (span : Span) (line : Int) : Nat :=
  if line = span.line then (max 1 (min span.column (raw.length + 1))).toNat else 1

/-- What is shown of a line before the span starts. -/
def front (source : Source) (span : Span) (line : Int) : List Char :=
  let raw := source.lineText line
  Text.expandTabs tabSize (raw.take (startColumn raw span line - 1))

/-- Two rows that show a line of the source with what a span marks there. -/
structure Marks (source : Source) (span : Span) (mark : Char) (message : String) (line : Int)
    (text below : List Char) : Prop where
  one_le_line : 1 ≤ line
  line_le : line ≤ source.lineCount
  text_eq : text =
    gutter line.toNat ++ " | ".toList ++ Text.expandTabs tabSize (source.lineText line)
  /-- The line is shown with its front before the markers. -/
  take_eq : (Text.expandTabs tabSize (source.lineText line)).take (front source span line).length =
    front source span line
  /-- The markers are as far in as the front is long. -/
  below_eq : ∃ width, 1 ≤ width ∧
    (front source span line).length + width ≤
      (Text.expandTabs tabSize (source.lineText line)).length + 1 ∧
    below = "   | ".toList ++ (List.replicate (front source span line).length ' ' ++
      List.replicate width mark) ++ if message.isEmpty then [] else ' ' :: message.toList

theorem columns_fst (raw : List Char) (span : Span) (line : Int) :
    (columns raw span line).1 = startColumn raw span line := by
  show min ((raw.length : Int) + 1) (if line = span.line then max 1 span.column else 1) = _
  rw [startColumn]
  by_cases hline : line = span.line
  · rw [if_pos hline, if_pos hline]
    omega
  · rw [if_neg hline, if_neg hline]
    omega

/-- The marks start below the end of what comes before the marked part. -/
theorem start_ofLine (source : Source) (span : Span) (line : Int) :
    (ofLine source span line).start = (front source span line).length := by
  show visualColumn (source.lineText line) (columns (source.lineText line) span line).1 = _
  have hcolumn (c : Nat) : ((c : Int) - 1).toNat = c - 1 := by omega
  rw [columns_fst, visualColumn, hcolumn]
  rfl

/-- A column is never shown behind the end of the line. -/
theorem visualColumn_le (raw : List Char) (column : Int) :
    visualColumn raw column ≤ (Text.expandTabs tabSize raw).length :=
  (Text.expandTabs_take_prefix tabSize _ raw).length_le

/-- At most one marker stands behind the line. -/
theorem start_add_width_le (source : Source) (span : Span) (line : Int) :
    (ofLine source span line).start + (ofLine source span line).width ≤
      (ofLine source span line).shown.length + 1 := by
  have hstart := visualColumn_le (source.lineText line) (columns (source.lineText line) span line).1
  have hstop := visualColumn_le (source.lineText line) (columns (source.lineText line) span line).2
  show visualColumn _ _ + max 1 (visualColumn _ _ - visualColumn _ _) ≤
    (Text.expandTabs tabSize (source.lineText line)).length + 1
  omega

/-- **A line of the source is shown with its markers below it.** -/
theorem marks_ofLine {source : Source} {line : Int} (hone : 1 ≤ line)
    (hle : line ≤ source.lineCount) (span : Span) (mark : Char) (message : String) :
    Marks source span mark message line (ofLine source span line).textRow
      ((ofLine source span line).markerRow mark message) where
  one_le_line := hone
  line_le := hle
  text_eq := rfl
  take_eq := (List.prefix_iff_eq_take.1 (Text.expandTabs_take_prefix tabSize _ _)).symm
  below_eq := by
    refine ⟨(ofLine source span line).width, Nat.le_max_left _ _, ?_, ?_⟩
    · rw [← start_ofLine]
      exact start_add_width_le source span line
    · rw [← start_ofLine]
      rfl

end MarkedLine

namespace Label

variable {source : Source}

theorem one_le_firstLine (source : Source) (span : Span) : 1 ≤ firstLine source span :=
  Int.le_max_left _ _

theorem firstLine_le_lastLine (source : Source) (span : Span) :
    firstLine source span ≤ lastLine source span :=
  Int.le_max_left _ _

/-- There is always a line, so the last line that is shown is one of the source. -/
theorem lastLine_le (source : Source) (span : Span) : lastLine source span ≤ source.lineCount := by
  have hcount : 0 < source.lineCount := by
    rw [Source.lineCount, Source.lines, Text.splitLines, Text.length_split]
    exact Nat.succ_pos _
  rw [lastLine, firstLine]
  omega

/-- The character that marks what a label is about. -/
def mark (leading : Bool) (label : Label) : Char := if leading || label.primary then '^' else '-'

/-- How many lines a label shows. -/
def height (source : Source) (label : Label) : Nat :=
  (lastLine source label.span - firstLine source label.span + 1).toNat

/-- The rows for the line that is `i` lines below the first one: the text and the markers. The
message stands on the first line only. -/
def pair (source : Source) (leading : Bool) (label : Label) (i : Nat) :
    List Char × List Char :=
  let line := MarkedLine.ofLine source label.span (firstLine source label.span + i)
  (line.textRow, line.markerRow (label.mark leading) (if i = 0 then label.message else ""))

/-- **The rows of a label go line by line.** -/
theorem rows_eq (source : Source) (leading : Bool) (label : Label) :
    label.rows source leading = (List.range (label.height source)).flatMap fun i ↦
      [(label.pair source leading i).1, (label.pair source leading i).2] := by
  have hle := firstLine_le_lastLine source label.span
  obtain ⟨n, hn⟩ : ∃ n, label.height source = n + 1 :=
    ⟨(lastLine source label.span - firstLine source label.span).toNat, by
      rw [height]
      omega⟩
  have hlines : label.lines source = (List.range (n + 1)).map fun (i : Nat) ↦
      MarkedLine.ofLine source label.span (firstLine source label.span + i) := by
    rw [← hn]
    rfl
  rw [hn, rows, hlines, List.range_succ_eq_map, List.map_cons, List.flatMap_cons,
    List.map_map, List.flatMap_map]
  show _ :: _ :: List.flatMap _ (List.map _ _) = _
  rw [List.flatMap_map]
  rfl

/-- Each line of a label is followed by its marks. Only the first one has the message. -/
theorem marks_pair {label : Label} {i : Nat} (h : i < label.height source) (leading : Bool) :
    MarkedLine.Marks source label.span (label.mark leading) (if i = 0 then label.message else "")
      (firstLine source label.span + i) (label.pair source leading i).1
      (label.pair source leading i).2 := by
  have hone := one_le_firstLine source label.span
  have hlast := lastLine_le source label.span
  rw [height] at h
  exact MarkedLine.marks_ofLine (by omega) (by omega) _ _ _

/-- **Markers stay under the marked text.** A label shows the lines from its first to its last one,
both brought into the source, in order and each as a row of text and a row of markers. Behind their
gutter the markers are moved in by what the expanded line shows before the span starts; there is one
at least, and they end at most one character behind the line. The message stands behind the markers
of the first line only. -/
theorem rows_mark_text (source : Source) (leading : Bool) (label : Label) :
    ∃ pairs : List (List Char × List Char),
      label.rows source leading = pairs.flatMap (fun pair ↦ [pair.1, pair.2]) ∧
      (pairs.length : Int) = lastLine source label.span - firstLine source label.span + 1 ∧
      ∀ (i : Nat) (text below : List Char), pairs[i]? = some (text, below) →
        MarkedLine.Marks source label.span (label.mark leading)
          (if i = 0 then label.message else "") (firstLine source label.span + i) text below := by
  have hle := firstLine_le_lastLine source label.span
  refine ⟨(List.range (label.height source)).map (label.pair source leading), ?_, ?_, ?_⟩
  · rw [rows_eq, List.flatMap_map]
  · rw [List.length_map, List.length_range, height]
    omega
  · intro i text below hpair
    rw [List.getElem?_map, Option.map_eq_some_iff] at hpair
    obtain ⟨j, hj, hpair⟩ := hpair
    obtain ⟨hlt, rfl⟩ := List.getElem?_eq_some_iff.1 hj
    rw [List.length_range] at hlt
    rw [List.getElem_range] at hpair
    have hmarks := marks_pair hlt leading
    rw [hpair] at hmarks
    exact hmarks

end Label

end CoffeeTree
