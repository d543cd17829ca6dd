import CoffeeTree.Source

/-!
# The line table of a text

What the line starts of a text say about offsets and positions. There are four facts that the rest
of the theory uses:

* there are as many line starts as there are lines (`Source.length_lineStarts`), so a line that has
  an offset is a line of the source (`Source.line_lt_of_offset`);
* the offset of the position of an offset is that offset again (`Source.offset_positionAt`), also
  past the end of the text;
* a text behind another one adds line starts and moves none, so the position of an offset depends
  only on the text before it, and its line counts the line feeds there (`Text.line_positionAt`);
* a text of whole lines in front of another one moves the table as a whole
  (`Text.exists_lineStarts_append`): every line start moves by the length of that text, and every
  line by the number of its line feeds.

A text of whole lines is one that is empty or ends in a line feed. Without that condition the last
line in front would run into the first line of the text, and columns would move too.
-/

namespace CoffeeTree

namespace Text

/-! ### Line starts -/

/-- The lines of two texts in a row. -/
theorem lineStartsAfter_append (i : Nat) (p text : List Char) :
    lineStartsAfter i (p ++ text) =
      lineStartsAfter i p ++ lineStartsAfter (i + p.length) text := by
  induction p generalizing i with
  | nil => rfl
  | cons c rest ih =>
    have hlength : i + (c :: rest).length = i + 1 + rest.length := by
      rw [List.length_cons]
      omega
    rw [List.cons_append, lineStartsAfter, lineStartsAfter, ih, hlength]
    split <;> rfl

/-- Counting from a later offset moves every line start. -/
theorem lineStartsAfter_add (i n : Nat) (text : List Char) :
    lineStartsAfter (i + n) text = (lineStartsAfter i text).map (· + n) := by
  induction text generalizing i with
  | nil => rfl
  | cons c rest ih =>
    have hnext : i + n + 1 = i + 1 + n := by omega
    rw [lineStartsAfter, lineStartsAfter, hnext, ih]
    split <;> rfl

/-- There is a line after each line feed. -/
theorem length_lineStartsAfter (i : Nat) (text : List Char) :
    (lineStartsAfter i text).length = text.count '\n' := by
  induction text generalizing i with
  | nil => rfl
  | cons c rest ih =>
    rw [lineStartsAfter, List.count_cons]
    by_cases hc : c = '\n'
    · rw [if_pos hc, List.length_cons, ih, if_pos (by rw [hc]; rfl)]
    · rw [if_neg hc, ih, if_neg (by simpa using hc), Nat.add_zero]

theorem le_length_of_mem_lineStartsAfter {i x : Nat} {text : List Char}
    (h : x ∈ lineStartsAfter i text) : x ≤ i + text.length := by
  induction text generalizing i with
  | nil => exact absurd h List.not_mem_nil
  | cons c rest ih =>
    rw [lineStartsAfter] at h
    rw [List.length_cons]
    by_cases hc : c = '\n'
    · rw [if_pos hc] at h
      rcases List.mem_cons.1 h with rfl | hx
      · omega
      · have := ih hx
        omega
    · rw [if_neg hc] at h
      have := ih h
      omega

/-- A line after the first one starts behind a line feed. -/
theorem lt_of_mem_lineStartsAfter {i x : Nat} {text : List Char}
    (h : x ∈ lineStartsAfter i text) : i < x := by
  induction text generalizing i with
  | nil => exact absurd h List.not_mem_nil
  | cons c rest ih =>
    rw [lineStartsAfter] at h
    by_cases hc : c = '\n'
    · rw [if_pos hc] at h
      rcases List.mem_cons.1 h with rfl | hx
      · omega
      · have := ih hx
        omega
    · rw [if_neg hc] at h
      have := ih h
      omega

/-- There is one line more than there are line feeds. -/
theorem length_lineStarts (text : List Char) :
    (lineStarts text).length = text.count '\n' + 1 := by
  rw [lineStarts, List.length_cons, length_lineStartsAfter]

/-! ### Pieces -/

theorem length_split (p : Char → Bool) (text : List Char) :
    (split p text).length = text.countP p + 1 := by
  induction text with
  | nil => rfl
  | cons c rest ih =>
    rw [split, List.countP_cons]
    by_cases hc : p c = true
    · rw [if_pos hc, if_pos hc, List.length_cons, ih]
    · rw [if_neg hc, if_neg hc]
      cases hrest : split p rest with
      | nil =>
        rw [hrest] at ih
        exact absurd ih (by simp)
      | cons piece pieces =>
        rw [hrest] at ih
        exact ih

/-! ### Positions -/

/-- The line starts up to an offset. -/
def startsUpTo (text : List Char) (offset : Nat) : List Nat :=
  (lineStarts text).takeWhile (· ≤ offset)

/-- A position counts the lines that start before its own, and the characters from there on. -/
theorem positionAt_of_startsUpTo {text : List Char} {offset last : Nat} {init : List Nat}
    (h : startsUpTo text offset = init ++ [last]) :
    positionAt text offset = ⟨init.length, offset - last⟩ := by
  show Position.mk ((startsUpTo text offset).length - 1)
    (offset - (startsUpTo text offset).getLastD 0) = _
  rw [h, List.length_append, List.getLastD_concat]
  rfl

/-- The first line starts at or before every offset, so an offset always has a line. -/
theorem exists_startsUpTo_eq (text : List Char) (offset : Nat) :
    ∃ init last, startsUpTo text offset = init ++ [last] ∧ last ≤ offset := by
  rcases List.eq_nil_or_concat (startsUpTo text offset) with hnil | ⟨init, last, hlast⟩
  · rw [startsUpTo, lineStarts, List.takeWhile_cons, if_pos (by simp)] at hnil
    exact absurd hnil (List.cons_ne_nil _ _)
  · rw [List.concat_eq_append] at hlast
    have hall : (startsUpTo text offset).all (· ≤ offset) = true := List.all_takeWhile
    have hmem : last ∈ startsUpTo text offset := by
      rw [hlast]
      exact List.mem_append_right _ (List.mem_singleton_self _)
    exact ⟨init, last, hlast, of_decide_eq_true (List.all_eq_true.1 hall last hmem)⟩

/-- The line starts go on where those up to an offset end. -/
theorem getElem?_lineStarts_of_startsUpTo {text : List Char} {offset last : Nat} {init : List Nat}
    (h : startsUpTo text offset = init ++ [last]) :
    (lineStarts text)[init.length]? = some last := by
  obtain ⟨later, hlater⟩ :=
    List.takeWhile_prefix (p := fun x : Nat ↦ decide (x ≤ offset)) (l := lineStarts text)
  have hsplit : lineStarts text = init ++ last :: later := by
    rw [← hlater]
    show startsUpTo text offset ++ later = _
    rw [h, List.append_assoc, List.singleton_append]
  rw [hsplit, List.getElem?_append_right (Nat.le_refl _), Nat.sub_self]
  rfl

/-! ### A text behind -/

/-- **A text behind another one adds line starts at the end of the table.** They come after the end
of the first text. -/
theorem exists_lineStarts_append_right (text t : List Char) :
    ∃ later : List Nat, (∀ x ∈ later, text.length < x) ∧
      lineStarts (text ++ t) = lineStarts text ++ later := by
  refine ⟨lineStartsAfter text.length t, fun x hx ↦ lt_of_mem_lineStartsAfter hx, ?_⟩
  rw [lineStarts, lineStarts, lineStartsAfter_append, Nat.zero_add]
  rfl

/-- A text behind does not move the lines in front of it. -/
theorem getElem?_lineStarts_append_right {text : List Char} {line start : Nat}
    (h : (lineStarts text)[line]? = some start) (t : List Char) :
    (lineStarts (text ++ t))[line]? = some start := by
  obtain ⟨later, -, happend⟩ := exists_lineStarts_append_right text t
  rw [happend, List.getElem?_append_left (List.getElem?_eq_some_iff.1 h).1, h]

/-- **The line starts up to an offset are those of the text before it.** -/
theorem startsUpTo_eq_lineStarts (text : List Char) (offset : Nat) :
    startsUpTo text offset = lineStarts (text.take offset) := by
  have hbefore : ∀ x ∈ lineStarts (text.take offset), decide (x ≤ offset) = true := by
    intro x hx
    refine decide_eq_true ?_
    rcases List.mem_cons.1 hx with rfl | hx
    · exact Nat.zero_le _
    · have := le_length_of_mem_lineStartsAfter hx
      rw [List.length_take] at this
      omega
  have hlater : (lineStartsAfter (0 + (text.take offset).length) (text.drop offset)).takeWhile
      (· ≤ offset) = [] := by
    rcases hstarts : lineStartsAfter (0 + (text.take offset).length) (text.drop offset) with
      _ | ⟨x, rest⟩
    · rfl
    · -- There is text behind the offset, so all of the text before it was taken.
      have hx : x ∈ lineStartsAfter (0 + (text.take offset).length) (text.drop offset) :=
        hstarts ▸ List.mem_cons_self
      have hlt := lt_of_mem_lineStartsAfter hx
      have hle := le_length_of_mem_lineStartsAfter hx
      rw [List.length_take] at hlt hle
      rw [List.length_drop] at hle
      exact List.takeWhile_cons_of_neg (by simpa using (by omega : offset < x))
  have hsplit : lineStarts text = lineStarts (text.take offset) ++
      lineStartsAfter (0 + (text.take offset).length) (text.drop offset) := by
    rw [lineStarts, lineStarts, List.cons_append, ← lineStartsAfter_append,
      List.take_append_drop]
  rw [startsUpTo, hsplit, List.takeWhile_append_of_pos hbefore, hlater, List.append_nil]

/-- The line of an offset is the number of line feeds before it. -/
theorem line_positionAt (text : List Char) (offset : Nat) :
    (positionAt text offset).line = (text.take offset).count '\n' := by
  show (startsUpTo text offset).length - 1 = _
  rw [startsUpTo_eq_lineStarts, length_lineStarts, Nat.add_sub_cancel]

/-- Nor does it move positions. -/
theorem positionAt_append_right {text : List Char} {offset : Nat} (h : offset ≤ text.length)
    (t : List Char) : positionAt (text ++ t) offset = positionAt text offset := by
  have hstarts : startsUpTo (text ++ t) offset = startsUpTo text offset := by
    rw [startsUpTo_eq_lineStarts, startsUpTo_eq_lineStarts, List.take_append_of_le_length h]
  obtain ⟨init, last, hinit, -⟩ := exists_startsUpTo_eq text offset
  rw [positionAt_of_startsUpTo (hstarts.trans hinit), positionAt_of_startsUpTo hinit]

/-! ### Whole lines in front -/

/-- A text that is empty or ends in a line feed. -/
def WholeLines (p : List Char) : Prop := p = [] ∨ p.getLast? = some '\n'

/-- **Whole lines in front move the line table as a whole.** The lines in front start before the
text does. -/
theorem exists_lineStarts_append {p : List Char} (hp : WholeLines p) (text : List Char) :
    ∃ front : List Nat, front.length = p.count '\n' ∧ (∀ x ∈ front, x ≤ p.length) ∧
      lineStarts (p ++ text) = front ++ (lineStarts text).map (· + p.length) := by
  rcases hp with rfl | hlast
  · exact ⟨[], rfl, fun x hx ↦ absurd hx List.not_mem_nil, by simp⟩
  · -- The last character in front is a line feed, so the first line of the text starts a line.
    obtain ⟨q, rfl⟩ := List.getLast?_eq_some_iff.1 hlast
    have hstep : lineStartsAfter (0 + q.length) ['\n'] = [q.length + 1] := by
      rw [Nat.zero_add]
      rfl
    refine ⟨lineStarts q, ?_, ?_, ?_⟩
    · rw [length_lineStarts, List.count_append]
      rfl
    · intro x hx
      rw [List.length_append]
      rcases List.mem_cons.1 hx with rfl | hx
      · exact Nat.zero_le _
      · have := le_length_of_mem_lineStartsAfter hx
        omega
    · have hlength : (q ++ ['\n']).length = q.length + 1 := by simp
      rw [lineStarts, lineStartsAfter_append, lineStartsAfter_append, hstep, hlength,
        lineStartsAfter_add, lineStarts, lineStarts]
      simp

/-- Whole lines in front move all lines by their number and all offsets by their length. -/
theorem getElem?_lineStarts_append {p : List Char} (hp : WholeLines p) (text : List Char)
    (line : Nat) :
    (lineStarts (p ++ text))[line + p.count '\n']? =
      ((lineStarts text)[line]?).map (· + p.length) := by
  obtain ⟨front, hfront, -, happend⟩ := exists_lineStarts_append hp text
  rw [happend, List.getElem?_append_right (by omega), hfront, Nat.add_sub_cancel,
    List.getElem?_map]

/-- Whole lines in front move a position by their number and leave its column alone. -/
theorem positionAt_append {p : List Char} (hp : WholeLines p) (text : List Char) (offset : Nat) :
    positionAt (p ++ text) (offset + p.length) =
      ⟨(positionAt text offset).line + p.count '\n', (positionAt text offset).column⟩ := by
  obtain ⟨front, hfront, hle, happend⟩ := exists_lineStarts_append hp text
  obtain ⟨init, last, hstarts, -⟩ := exists_startsUpTo_eq text offset
  have hbefore : ∀ x ∈ front, decide (x ≤ offset + p.length) = true := by
    intro x hx
    have := hle x hx
    exact decide_eq_true (by omega)
  have hshift : (fun x : Nat ↦ decide (x ≤ offset + p.length)) ∘ (· + p.length) =
      fun x ↦ decide (x ≤ offset) := by
    funext x
    simp
  have hmoved : startsUpTo (p ++ text) (offset + p.length) =
      (front ++ init.map (· + p.length)) ++ [last + p.length] := by
    rw [startsUpTo, happend, List.takeWhile_append_of_pos hbefore, List.takeWhile_map, hshift]
    show front ++ (startsUpTo text offset).map _ = _
    rw [hstarts, List.map_append, List.append_assoc]
    rfl
  rw [positionAt_of_startsUpTo hmoved, positionAt_of_startsUpTo hstarts, List.length_append,
    List.length_map, hfront, Nat.add_comm, Nat.add_sub_add_right]

end Text

namespace Source

/-! ### Offsets of a source -/

/-- There is one line more than there are line feeds. -/
theorem length_lineStarts (s : Source) : (Text.lineStarts s.text).length = s.lineCount := by
  rw [Text.length_lineStarts, lineCount, lines, Text.splitLines, Text.length_split,
    List.count_eq_countP]
  rfl

/-- A line and a column have an offset exactly when the line has a start. -/
theorem offset_eq_ok_iff {s : Source} {line : Nat} {column offset : Int} :
    s.offset line column = .ok offset ↔
      ∃ start, (Text.lineStarts s.text)[line]? = some start ∧ offset = start + column := by
  have hline : ¬ ((line : Int) < 0) := by omega
  rw [Source.offset, if_neg hline, Int.toNat_natCast]
  cases (Text.lineStarts s.text)[line]? with
  | none => simp
  | some start => simp [eq_comm]

/-- A line that has offsets is a line of the source. -/
theorem line_lt_of_offset {s : Source} {line : Nat} {column offset : Int}
    (h : s.offset line column = .ok offset) : line < s.lineCount := by
  obtain ⟨start, hstart, -⟩ := offset_eq_ok_iff.1 h
  rw [← length_lineStarts]
  exact (List.getElem?_eq_some_iff.1 hstart).1

/-- Offsets of positions are not negative. -/
theorem offset_nonneg {s : Source} {line column : Nat} {offset : Int}
    (h : s.offset line column = .ok offset) : 0 ≤ offset := by
  obtain ⟨start, -, rfl⟩ := offset_eq_ok_iff.1 h
  omega

/-- **The position of an offset has that offset**, also past the end of the text. -/
theorem offset_positionAt (s : Source) (offset : Nat) :
    s.offset (Text.positionAt s.text offset).line (Text.positionAt s.text offset).column =
      .ok offset := by
  obtain ⟨init, last, hstarts, hle⟩ := Text.exists_startsUpTo_eq s.text offset
  rw [Text.positionAt_of_startsUpTo hstarts]
  refine offset_eq_ok_iff.2 ⟨last, Text.getElem?_lineStarts_of_startsUpTo hstarts, ?_⟩
  show (offset : Int) = (last : Int) + ((offset - last : Nat) : Int)
  omega

/-- The source with a text in front of it. -/
def prepend (p : List Char) (s : Source) : Source := { s with text := p ++ s.text }

/-- Whole lines in front move an offset by their length. -/
theorem offset_prepend {p : List Char} (hp : Text.WholeLines p) {s : Source} {line : Nat}
    {column offset : Int} (h : s.offset line column = .ok offset) :
    (s.prepend p).offset (line + p.count '\n' : Nat) column = .ok (offset + p.length) := by
  obtain ⟨start, hstart, rfl⟩ := offset_eq_ok_iff.1 h
  refine offset_eq_ok_iff.2 ⟨start + p.length, ?_, ?_⟩
  · show (Text.lineStarts (p ++ s.text))[line + p.count '\n']? = _
    rw [Text.getElem?_lineStarts_append hp, hstart]
    rfl
  · rw [Int.natCast_add]
    omega

/-- The characters between two offsets stay the same when both move with the text. -/
theorem slice_prepend (p : List Char) (s : Source) (start stop : Nat) :
    (s.prepend p).slice (start + p.length) (stop + p.length) = s.slice start stop := by
  show ((p ++ s.text).take (stop + p.length)).drop (start + p.length) = _
  rw [Nat.add_comm stop, Nat.add_comm start, List.take_length_add_append,
    List.drop_length_add_append]
  rfl

end Source

end CoffeeTree
