import CoffeeTree.Proofs.Lines
import Mathlib.Data.List.TakeWhile

/-!
# Offsets and positions

Every offset has a position, and that leads back to it. Not every position comes from an offset: a
column that runs over the end of its line belongs to an offset on a later line. A position that an
offset leads back to is said to be on its line (`Source.OnLine`). On a line that is not the last one
these are the columns up to the line feed, and on the last line all columns
(`Text.LineAt.positionAt_eq_iff`). All of it is said at once in `Source.position_exact`.

Offsets are ordered as numbers and positions by line and column. The two orders agree
(`Text.positionAt_lt_iff`) for the positions of offsets. So a location whose positions are on their
lines is a stretch of offsets (`Source.stretch`), and merging two of them, which compares lines and
columns, takes the least and the greatest offset (`Source.merge_stretch`).
-/

namespace CoffeeTree

namespace Text

theorem startsUpTo_eq_takeWhile (text : List Char) {a b : Nat} (h : a ≤ b) :
    startsUpTo text a = (startsUpTo text b).takeWhile (· ≤ a) := by
  have hboth : (fun x : Nat ↦ decide (x ≤ a)) =
      fun x ↦ decide (decide (x ≤ a) = true ∧ decide (x ≤ b) = true) := by
    funext x
    simp only [decide_eq_true_eq, decide_eq_decide]
    omega
  rw [startsUpTo, startsUpTo, List.takeWhile_takeWhile, ← hboth]

/-- **Later offsets have later positions.** -/
theorem positionAt_lt (text : List Char) {a b : Nat} (h : a < b) :
    positionAt text a < positionAt text b := by
  obtain ⟨init, last, hstarts, hle⟩ := exists_startsUpTo_eq text a
  obtain ⟨init', last', hstarts', -⟩ := exists_startsUpTo_eq text b
  have hinit : init ++ [last] <+: init' ++ [last'] := by
    rw [← hstarts, ← hstarts', startsUpTo_eq_takeWhile text (Nat.le_of_lt h)]
    exact List.takeWhile_prefix _
  have hlength := hinit.length_le
  rw [List.length_append, List.length_append, List.length_singleton,
    List.length_singleton] at hlength
  rw [positionAt_of_startsUpTo hstarts, positionAt_of_startsUpTo hstarts']
  show init.length < init'.length ∨ ¬ init'.length < init.length ∧ a - last < b - last'
  by_cases hline : init.length = init'.length
  · -- On one line the columns count from the same start.
    have heq := hinit.eq_of_length (by simp [hline])
    obtain rfl : last = last' := List.singleton_inj.1 (List.append_inj_right heq hline)
    exact .inr (by omega)
  · exact .inl (by omega)

/-- Positions in a text are ordered as their offsets are. -/
theorem positionAt_lt_iff {text : List Char} {a b : Nat} :
    positionAt text a < positionAt text b ↔ a < b := by
  refine ⟨fun h ↦ ?_, positionAt_lt text⟩
  rcases Nat.lt_trichotomy a b with hlt | rfl | hlt
  · exact hlt
  · exact absurd h (Position.lt_asymm h)
  · exact absurd (positionAt_lt text hlt) (Position.lt_asymm h)

/-! ### One line of a text -/

/-- A line with the text before it and the text after it. -/
structure LineAt (text : List Char) (line : Nat) (before piece after : List Char) : Prop where
  text_eq : text = before ++ (piece ++ after)
  wholeLines : WholeLines before
  count_before : before.count '\n' = line
  piece_eq : (splitLines text)[line]? = some piece
  feed_not_mem : '\n' ∉ piece
  after_eq : after = [] ∨ ∃ rest, after = '\n' :: rest

theorem WholeLines.cons {p : List Char} (hp : WholeLines p) {c : Char} (h : p = [] → c = '\n') :
    WholeLines (c :: p) := by
  rcases hp with rfl | hlast
  · exact .inr (by rw [h rfl]; rfl)
  · exact .inr (by rw [List.getLast?_cons, hlast]; rfl)

theorem splitLines_feed (rest : List Char) : splitLines ('\n' :: rest) = [] :: splitLines rest :=
  rfl

theorem splitLines_of_ne {c : Char} (hc : c ≠ '\n') {rest piece : List Char}
    {pieces : List (List Char)} (h : splitLines rest = piece :: pieces) :
    splitLines (c :: rest) = (c :: piece) :: pieces := by
  rw [splitLines] at h
  rw [splitLines, split, h, if_neg (by simpa using hc)]

/-- **Every line of a text stands between whole lines and its line feed**, or the end of the
text. -/
theorem exists_lineAt (text : List Char) {line : Nat} (h : line ≤ text.count '\n') :
    ∃ before piece after, LineAt text line before piece after := by
  induction text generalizing line with
  | nil =>
    obtain rfl : line = 0 := Nat.le_zero.1 h
    exact ⟨[], [], [], rfl, .inl rfl, rfl, rfl, List.not_mem_nil, .inl rfl⟩
  | cons c rest ih =>
    by_cases hc : c = '\n'
    · subst hc
      rcases line with _ | line
      · exact ⟨[], [], '\n' :: rest, rfl, .inl rfl, rfl, rfl, List.not_mem_nil, .inr ⟨rest, rfl⟩⟩
      · rw [List.count_cons_self] at h
        obtain ⟨before, piece, after, hline⟩ := ih (Nat.le_of_succ_le_succ h)
        refine ⟨'\n' :: before, piece, after, congrArg _ hline.text_eq,
          hline.wholeLines.cons fun _ ↦ rfl, ?_, ?_, hline.feed_not_mem, hline.after_eq⟩
        · rw [List.count_cons_self, hline.count_before]
        · rw [splitLines_feed, List.getElem?_cons_succ, hline.piece_eq]
    · -- A character that is no line feed joins the first line, which is the wanted one or stands
      -- before it.
      rw [List.count_cons_of_ne hc] at h
      obtain ⟨before, piece, after, hline⟩ := ih h
      rcases hpieces : splitLines rest with _ | ⟨first, pieces⟩
      · exact absurd hline.piece_eq (by simp [hpieces])
      · have hsplit := splitLines_of_ne hc hpieces
        have hpiece := hpieces ▸ hline.piece_eq
        rcases line with _ | line
        · -- The first line starts with the text, so nothing is before it.
          obtain rfl : before = [] := by
            rcases hline.wholeLines with hnil | hlast
            · exact hnil
            · have hmem := List.mem_of_getLast? hlast
              exact absurd hmem (List.count_eq_zero.1 hline.count_before)
          obtain rfl : first = piece := Option.some.inj hpiece
          refine ⟨[], c :: first, after, congrArg _ hline.text_eq, .inl rfl, rfl, ?_, ?_,
            hline.after_eq⟩
          · rw [hsplit]
            rfl
          · exact List.not_mem_cons_of_ne_of_not_mem (Ne.symm hc) hline.feed_not_mem
        · have hbefore : before ≠ [] := by
            rintro rfl
            exact absurd hline.count_before (by simp)
          refine ⟨c :: before, piece, after, congrArg _ hline.text_eq,
            hline.wholeLines.cons fun hnil ↦ absurd hnil hbefore, ?_, ?_, hline.feed_not_mem,
            hline.after_eq⟩
          · rw [List.count_cons_of_ne hc, hline.count_before]
          · rw [hsplit]
            exact hpiece

/-- On the first line the column is the offset. -/
theorem positionAt_of_line_eq_zero {text : List Char} {offset : Nat}
    (h : (positionAt text offset).line = 0) : positionAt text offset = ⟨0, offset⟩ := by
  obtain ⟨init, last, hstarts, -⟩ := exists_startsUpTo_eq text offset
  rw [positionAt_of_startsUpTo hstarts] at h ⊢
  obtain rfl : init = [] := List.length_eq_zero_iff.1 h
  obtain rfl : 0 = last := Option.some.inj (getElem?_lineStarts_of_startsUpTo hstarts)
  rfl

namespace LineAt

variable {text before piece after : List Char} {line : Nat}

/-- A line starts behind what comes before it. -/
theorem getElem?_lineStarts (h : LineAt text line before piece after) :
    (lineStarts text)[line]? = some before.length := by
  have happend := getElem?_lineStarts_append h.wholeLines (piece ++ after) 0
  rw [← h.text_eq, h.count_before, Nat.zero_add] at happend
  rw [happend, lineStarts]
  simp

/-- The last line is the one with nothing after it. -/
theorem after_eq_nil_iff (h : LineAt text line before piece after) :
    after = [] ↔ line + 1 = (lineStarts text).length := by
  have hpiece : piece.count '\n' = 0 := List.count_eq_zero.2 h.feed_not_mem
  have hcount : text.count '\n' = line + after.count '\n' := by
    rw [h.text_eq, List.count_append, List.count_append, h.count_before, hpiece, Nat.zero_add]
  rw [length_lineStarts, hcount]
  rcases h.after_eq with rfl | ⟨rest, rfl⟩
  · simp
  · simp

/-- No line feed comes before a column up to the end of the line. -/
theorem count_take_eq_zero_iff (h : LineAt text line before piece after) (column : Nat) :
    ((piece ++ after).take column).count '\n' = 0 ↔ column ≤ piece.length ∨ after = [] := by
  rw [List.count_eq_zero]
  rcases h.after_eq with rfl | ⟨rest, rfl⟩
  · refine iff_of_true (fun hmem ↦ ?_) (.inr rfl)
    rw [List.append_nil] at hmem
    exact h.feed_not_mem (List.mem_of_mem_take hmem)
  · constructor
    · intro hnot
      refine .inl (Nat.le_of_not_lt fun hlt ↦ hnot ?_)
      obtain ⟨k, hk⟩ := Nat.exists_eq_succ_of_ne_zero (Nat.sub_ne_zero_of_lt hlt)
      rw [List.take_append, hk, List.take_succ_cons]
      exact List.mem_append_right _ List.mem_cons_self
    · rintro (hle | hnil)
      · rw [List.take_append_of_le_length hle]
        exact fun hmem ↦ h.feed_not_mem (List.mem_of_mem_take hmem)
      · exact absurd hnil (List.cons_ne_nil _ _)

/-- **A column stays on its line up to the line feed.** -/
theorem positionAt_eq_iff (h : LineAt text line before piece after) (column : Nat) :
    positionAt text (before.length + column) = ⟨line, column⟩ ↔
      column ≤ piece.length ∨ line + 1 = (lineStarts text).length := by
  have hmoved : positionAt text (before.length + column) =
      ⟨(positionAt (piece ++ after) column).line + line,
        (positionAt (piece ++ after) column).column⟩ := by
    rw [h.text_eq, Nat.add_comm, positionAt_append h.wholeLines, h.count_before]
  rw [hmoved, ← h.after_eq_nil_iff, ← h.count_take_eq_zero_iff, ← line_positionAt]
  constructor
  · intro heq
    have hline := congrArg Position.line heq
    simp only at hline
    omega
  · intro hline
    rw [positionAt_of_line_eq_zero hline, Nat.zero_add]

end LineAt

end Text

namespace Source

variable {s : Source}

theorem position_of_nonneg {offset : Int} (h : 0 ≤ offset) :
    s.position offset = .ok (Text.positionAt s.text offset.toNat) := by
  rw [position, if_neg (Int.not_lt.2 h)]

theorem position_natCast (s : Source) (offset : Nat) :
    s.position offset = .ok (Text.positionAt s.text offset) := by
  rw [position_of_nonneg (Int.natCast_nonneg offset), Int.toNat_natCast]

/-- The position is on its line: the way to its offset and back leads to it again. -/
def OnLine (s : Source) (p : Position Nat) : Prop :=
  ∃ offset, s.offset p.line p.column = .ok offset ∧ s.position offset = .ok p

/-- The positions on their lines are those of offsets. -/
theorem onLine_iff {p : Position Nat} :
    s.OnLine p ↔ ∃ offset : Nat, p = Text.positionAt s.text offset := by
  constructor
  · rintro ⟨offset, hoffset, hposition⟩
    rw [position_of_nonneg (offset_nonneg hoffset)] at hposition
    exact ⟨offset.toNat, (Except.ok.inj hposition).symm⟩
  · rintro ⟨offset, rfl⟩
    exact ⟨offset, s.offset_positionAt offset, s.position_natCast offset⟩

/-- A line without a start is all that is refused, whatever the column is. -/
theorem exists_offset_eq_error_iff {line column : Int} :
    (∃ e, s.offset line column = .error e) ↔
      line < 0 ∨ (Text.lineStarts s.text).length ≤ line := by
  rw [offset]
  by_cases hline : line < 0
  · exact iff_of_true ⟨_, if_pos hline⟩ (.inl hline)
  · rw [if_neg hline]
    rcases hstart : (Text.lineStarts s.text)[line.toNat]? with _ | start
    · have hle := List.getElem?_eq_none_iff.1 hstart
      exact iff_of_true ⟨_, rfl⟩ (.inr (by omega))
    · obtain ⟨hlt, -⟩ := List.getElem?_eq_some_iff.1 hstart
      refine iff_of_false ?_ (by omega)
      rintro ⟨e, he⟩
      exact absurd he (by simp)

/-- The offsets of a line count from the end of the text before it. -/
theorem offset_of_lineAt {line : Nat} {before piece after : List Char}
    (h : Text.LineAt s.text line before piece after) (column : Nat) :
    s.offset line column = .ok (before.length + column : Nat) :=
  offset_eq_ok_iff.2 ⟨before.length, h.getElem?_lineStarts, rfl⟩

/-- The columns that are on their line, by the text of the line. -/
theorem exists_onLine_iff {line : Nat} (h : line < (Text.lineStarts s.text).length)
    (column : Nat) :
    ∃ piece ∈ s.lines[line]?, s.OnLine ⟨line, column⟩ ↔
      column ≤ piece.length ∨ line + 1 = (Text.lineStarts s.text).length := by
  rw [Text.length_lineStarts] at h
  obtain ⟨before, piece, after, hline⟩ := Text.exists_lineAt s.text (Nat.le_of_lt_succ h)
  refine ⟨piece, hline.piece_eq, ?_⟩
  have hoffset := offset_of_lineAt hline column
  rw [← hline.positionAt_eq_iff]
  constructor
  · rintro ⟨offset, hfound, hposition⟩
    obtain rfl := Except.ok.inj (hoffset.symm.trans hfound)
    exact Except.ok.inj ((s.position_natCast _).symm.trans hposition)
  · intro hposition
    exact ⟨_, hoffset, by rw [position_natCast, hposition]⟩

/-- **Offsets and positions correspond exactly.** Every offset that is not negative has a position,
past the end of the text too: its line counts the line feeds before the offset, and the position
leads back to the offset. A position is refused exactly when its line is not one of the text. The
other way round, a line and a column come back exactly when the column is not past the line feed
that ends the line, and on the last line always. Positions are ordered as their offsets. -/
theorem position_exact (s : Source) :
    (∀ offset : Int, 0 ≤ offset → ∃ p, s.position offset = .ok p ∧
      p.line = (s.text.take offset.toNat).count '\n' ∧
      s.offset p.line p.column = .ok offset) ∧
    (∀ line column : Int, (∃ e, s.offset line column = .error e) ↔
      line < 0 ∨ (Text.lineStarts s.text).length ≤ line) ∧
    (∀ line column : Nat, line < (Text.lineStarts s.text).length →
      ∃ piece ∈ s.lines[line]?, s.OnLine ⟨line, column⟩ ↔
        column ≤ piece.length ∨ line + 1 = (Text.lineStarts s.text).length) ∧
    (∀ a b : Int, 0 ≤ a → a < b → ∃ p q, s.position a = .ok p ∧ s.position b = .ok q ∧ p < q) := by
  refine ⟨fun offset h ↦ ?_, fun line column ↦ exists_offset_eq_error_iff,
    fun line column h ↦ exists_onLine_iff h column, fun a b ha hab ↦ ?_⟩
  · have hback := s.offset_positionAt offset.toNat
    rw [Int.toNat_of_nonneg h] at hback
    exact ⟨_, position_of_nonneg h, Text.line_positionAt _ _, hback⟩
  · have hb : 0 ≤ b := Int.le_of_lt (Int.lt_of_le_of_lt ha hab)
    exact ⟨_, _, position_of_nonneg ha, position_of_nonneg hb,
      Text.positionAt_lt _ (by omega)⟩

/-- Four lines, of which the second and the last are empty. -/
def fourLines : Source := ⟨['a', 'b', '\n', '\n', 'c', 'd', '\n'], unnamed⟩

/-- A column behind the line feed of the empty line belongs to the next line. On the last line
every column comes back. -/
theorem position_exact_fourLines :
    fourLines.position 3 = .ok ⟨1, 0⟩ ∧ fourLines.offset 1 1 = .ok 4 ∧
      fourLines.position 4 = .ok ⟨2, 0⟩ ∧ ¬ fourLines.OnLine ⟨1, 1⟩ ∧
      fourLines.OnLine ⟨1, 0⟩ ∧ fourLines.OnLine ⟨3, 9⟩ ∧
      (∃ e, fourLines.offset 4 0 = .error e) := by
  obtain ⟨-, hrefused, honLine, -⟩ := position_exact fourLines
  obtain ⟨piece, hpiece, hpast⟩ := honLine 1 1 (by decide)
  obtain ⟨_, -, hfeed⟩ := honLine 1 0 (by decide)
  obtain ⟨_, -, hlast⟩ := honLine 3 9 (by decide)
  obtain rfl : [] = piece := Option.some.inj hpiece
  refine ⟨rfl, rfl, rfl, ?_, hfeed.2 (.inl (Nat.zero_le _)), hlast.2 (.inr rfl),
    (hrefused 4 0).2 (.inr (by decide))⟩
  exact fun h ↦ absurd (hpast.1 h) (by decide)

/-- The location from one offset to another. -/
def stretch (s : Source) (first last : Nat) : Location :=
  ⟨Text.positionAt s.text first, Text.positionAt s.text last⟩

/-- **Merging stretches takes the least and the greatest offset.** -/
theorem merge_stretch (s : Source) (first last first' last' : Nat) :
    (s.stretch first last).merge (s.stretch first' last') =
      s.stretch (min first first') (max last last') := by
  have hfirst : (if Text.positionAt s.text first < Text.positionAt s.text first' then
      Text.positionAt s.text first else Text.positionAt s.text first') =
      Text.positionAt s.text (min first first') := by
    by_cases hlt : first < first'
    · rw [if_pos (Text.positionAt_lt_iff.2 hlt), Nat.min_eq_left (Nat.le_of_lt hlt)]
    · rw [if_neg (mt Text.positionAt_lt_iff.1 hlt), Nat.min_eq_right (Nat.le_of_not_lt hlt)]
  have hlast : (if Text.positionAt s.text last < Text.positionAt s.text last' then
      Text.positionAt s.text last' else Text.positionAt s.text last) =
      Text.positionAt s.text (max last last') := by
    by_cases hlt : last < last'
    · rw [if_pos (Text.positionAt_lt_iff.2 hlt), Nat.max_eq_right (Nat.le_of_lt hlt)]
    · rw [if_neg (mt Text.positionAt_lt_iff.1 hlt), Nat.max_eq_left (Nat.le_of_not_lt hlt)]
  show Extent.mk _ _ = Extent.mk _ _
  rw [← hfirst, ← hlast]
  rfl

end Source

end CoffeeTree
