import CoffeeTree.Proofs.Positions
import Mathlib.Data.List.DropRight
import Mathlib.Order.Bounds.Basic

/-!
# The text of a line and where it starts

A source has two views of its lines, and they are made apart from each other. The line starts come
from a walk over the offsets of the text, and the texts of the lines from cutting it at its line
feeds. Reports take the number and the columns of a line from the one and its characters from the
other, so the two have to agree.

What ties them together is `Text.LineAt`: the text before a line, the line and the text after it.
The line starts where the text before it ends (`Source.offset_of_lineAt`). It goes on up to the
first place at which a line can end (`Text.LineAt.isLeast_lineEnds`), and up to there a column
counts its characters. Only the carriage returns at the end of the line are not shown, and the
characters in front of them keep their columns (`Text.LineAt.getElem?_of_lt`).
-/

namespace CoffeeTree

namespace Text

/-! ### Characters at the end of a text -/

/-- Only the character itself is taken away. -/
theorem exists_dropTrailing_append (c : Char) (text : List Char) :
    ∃ n, text = dropTrailing (· = c) text ++ List.replicate n c := by
  have hall : ∀ d ∈ text.rtakeWhile (· = c), d = c := by
    intro d hd
    simpa using List.mem_rtakeWhile_imp hd
  refine ⟨(text.rtakeWhile (· = c)).length, ?_⟩
  rw [← List.eq_replicate_of_mem hall]
  exact List.rdropWhile_append_rtakeWhile.symm

/-- Nothing is left to take away. -/
theorem getLast?_dropTrailing_ne (c : Char) (text : List Char) :
    (dropTrailing (· = c) text).getLast? ≠ some c := by
  intro hlast
  have hne : dropTrailing (· = c) text ≠ [] := by
    intro hnil
    rw [hnil] at hlast
    exact absurd hlast (by simp)
  have hnot := List.rdropWhile_last_not (fun d ↦ decide (d = c)) text hne
  rw [List.getLast?_eq_some_getLast hne] at hlast
  exact hnot (decide_eq_true (Option.some.inj hlast))

/-! ### The end of a line -/

/-- The places from `start` on at which a line can end: the line feeds, and the end of the text. -/
def lineEnds (text : List Char) (start : Nat) : Set Nat :=
  {i | start ≤ i ∧ (text[i]? = some '\n' ∨ i = text.length)}

namespace LineAt

variable {text before piece after : List Char} {line : Nat}

/-- From the start of a line on there are the line and what comes after it. -/
theorem getElem?_add (h : LineAt text line before piece after) (column : Nat) :
    text[before.length + column]? = (piece ++ after)[column]? := by
  rw [h.text_eq, List.getElem?_append_right (Nat.le_add_right _ _), Nat.add_sub_cancel_left]

/-- What is taken away at the end of a line leaves the other characters in their columns. -/
theorem getElem?_of_lt (h : LineAt text line before piece after) {p : Char → Bool} {column : Nat}
    (hcolumn : column < (dropTrailing p piece).length) :
    text[before.length + column]? = some (dropTrailing p piece)[column] := by
  have hprefix : dropTrailing p piece <+: piece := List.rdropWhile_prefix p piece
  have hlt : column < piece.length := Nat.lt_of_lt_of_le hcolumn hprefix.length_le
  rw [h.getElem?_add, List.getElem?_append_left hlt, List.getElem?_eq_getElem hlt,
    hprefix.getElem hcolumn]

/-- **A line goes on up to the next line feed**, or to the end of the text. -/
theorem isLeast_lineEnds (h : LineAt text line before piece after) :
    IsLeast (lineEnds text before.length) (before.length + piece.length) := by
  have hlength : text.length = before.length + (piece.length + after.length) := by
    rw [h.text_eq, List.length_append, List.length_append]
  refine ⟨⟨Nat.le_add_right _ _, ?_⟩, ?_⟩
  · rcases h.after_eq with rfl | ⟨rest, rfl⟩
    · exact .inr hlength.symm
    · left
      rw [h.getElem?_add, List.getElem?_append_right (Nat.le_refl _), Nat.sub_self]
      rfl
  · rintro i ⟨hle, hend⟩
    refine Nat.le_of_not_lt fun hlt ↦ ?_
    obtain ⟨column, rfl⟩ := Nat.exists_eq_add_of_le hle
    rcases hend with hfeed | hend
    · rw [h.getElem?_add, List.getElem?_append_left (by omega)] at hfeed
      exact h.feed_not_mem (List.mem_of_getElem? hfeed)
    · omega

/-- The line is what stands between its start and its end. -/
theorem drop_take_eq (h : LineAt text line before piece after) :
    (text.take (before.length + piece.length)).drop before.length = piece := by
  rw [h.text_eq, List.take_length_add_append, List.drop_left, List.take_left]

end LineAt

end Text

namespace Source

variable {s : Source}

/-- The text of a line is its piece without the carriage returns at the end. Lines count from
one. -/
theorem lineText_of_lineAt {line : Nat} {before piece after : List Char}
    (h : Text.LineAt s.text line before piece after) :
    s.lineText ((line : Int) + 1) = Text.dropTrailing (· = '\r') piece := by
  have hpiece : s.lines[line]? = some piece := h.piece_eq
  have hindex : ((line : Int) + 1).toNat - 1 = line := by omega
  rw [lineText, if_neg (by omega), hindex, List.getD_eq_getElem?_getD, hpiece]
  rfl

/-- A line that is not there has no text. -/
theorem lineText_of_outside {line : Int} (h : line < 1 ∨ s.lineCount < line) :
    s.lineText line = [] := by
  rw [lineText]
  by_cases hone : line < 1
  · exact if_pos hone
  · have hle : s.lines.length ≤ line.toNat - 1 := by
      have hcount : (s.lines.length : Int) < line := h.resolve_left hone
      omega
    rw [if_neg hone, List.getD_eq_getElem?_getD, List.getElem?_eq_none hle]
    rfl

/-- **The two views of the lines agree.** There are as many line starts as there are lines. For
every line, counted from one, the first column has an offset. What stands from there up to the next
line feed, or to the end of the source, is the text of the line and carriage returns behind it, and
the text of the line does not end in one. Each of its characters stands at the offset of its column.
Any other line is without text, and refused whatever the column is. -/
theorem line_tables_agree (s : Source) :
    s.lineCount = (Text.lineStarts s.text).length ∧
    (∀ line : Int, 1 ≤ line → line ≤ s.lineCount →
      ∃ start stop : Nat, s.offset (line - 1) 0 = .ok start ∧
        IsLeast (Text.lineEnds s.text start) stop ∧
        (∃ n, s.slice start stop = s.lineText line ++ List.replicate n '\r') ∧
        (s.lineText line).getLast? ≠ some '\r' ∧
        ∀ (column : Nat) (_ : column < (s.lineText line).length),
          s.offset (line - 1) column = .ok (start + column : Nat) ∧
            s.text[start + column]? = some (s.lineText line)[column]) ∧
    ∀ line : Int, line < 1 ∨ s.lineCount < line →
      s.lineText line = [] ∧ ∀ column : Int, ∃ e, s.offset (line - 1) column = .error e := by
  refine ⟨s.length_lineStarts.symm, fun line hone hle ↦ ?_, fun line hout ↦ ?_⟩
  · -- Lines are counted from one here and from zero in the table.
    obtain ⟨number, rfl⟩ : ∃ number : Nat, line = (number : Int) + 1 :=
      ⟨(line - 1).toNat, by omega⟩
    have hnumber : number ≤ s.text.count '\n' := by
      rw [← s.length_lineStarts, Text.length_lineStarts] at hle
      omega
    obtain ⟨before, piece, after, hline⟩ := Text.exists_lineAt s.text hnumber
    obtain ⟨n, hreturns⟩ := Text.exists_dropTrailing_append '\r' piece
    rw [Int.add_sub_cancel, lineText_of_lineAt hline]
    exact ⟨before.length, before.length + piece.length, offset_of_lineAt hline 0,
      hline.isLeast_lineEnds, ⟨n, hline.drop_take_eq.trans hreturns⟩,
      Text.getLast?_dropTrailing_ne '\r' piece,
      fun column hcolumn ↦ ⟨offset_of_lineAt hline column, hline.getElem?_of_lt hcolumn⟩⟩
  · refine ⟨lineText_of_outside hout, fun column ↦ exists_offset_eq_error_iff.2 ?_⟩
    rw [s.length_lineStarts]
    omega

/-- Four lines. The first one ends in a carriage return and a line feed, the second one is empty,
the third one has carriage returns on both sides, and behind the last line feed there is nothing. -/
def mixedEndings : Source :=
  ⟨['a', '\r', '\n', '\n', '\r', 'b', '\r', '\r', '\n'], unnamed⟩

/-- The carriage return in front of the third line is shown, and those behind it are not. -/
theorem line_tables_agree_mixedEndings :
    mixedEndings.lineCount = 4 ∧ (Text.lineStarts mixedEndings.text).length = 4 ∧
      mixedEndings.lineText 3 = ['\r', 'b'] ∧ mixedEndings.offset 2 0 = .ok 4 ∧
      (∃ stop n, IsLeast (Text.lineEnds mixedEndings.text 4) stop ∧
        mixedEndings.slice 4 stop = ['\r', 'b'] ++ List.replicate n '\r') ∧
      mixedEndings.offset 2 1 = .ok 5 ∧ mixedEndings.text[5]? = some 'b' ∧
      mixedEndings.lineText 5 = [] ∧ ∃ e, mixedEndings.offset 4 0 = .error e := by
  obtain ⟨hcount, hlines, hothers⟩ := line_tables_agree mixedEndings
  obtain ⟨start, stop, hstart, hleast, ⟨n, hslice⟩, -, hcolumns⟩ :=
    hlines 3 (by decide) (by decide)
  obtain rfl : 4 = start := Int.ofNat.inj (Except.ok.inj hstart)
  obtain ⟨hoffset, hchar⟩ := hcolumns 1 (by decide)
  obtain ⟨hempty, hrefused⟩ := hothers 5 (.inr (by decide))
  exact ⟨rfl, hcount.symm, rfl, rfl, ⟨stop, n, hleast, hslice⟩, hoffset, hchar, hempty,
    hrefused 0⟩

end Source

end CoffeeTree
