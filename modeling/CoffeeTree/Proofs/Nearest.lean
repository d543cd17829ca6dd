import CoffeeTree.Proofs.Anchors
import CoffeeTree.Proofs.Hull

/-!
# The nearest anchor

A pattern occurs in a text where the text splits into something before it, the pattern and something
after it (`Text.OccursAt`). The two searches are exact with respect to this: the one to the right
finds the least place from its start on (`Text.firstFrom?_eq_some_iff`), the one to the left the
greatest place up to its stop (`Text.lastUpTo?_eq_some_iff`), and each finds something as soon as
there is something to find. The second one reads further than its stop, by the length of the
pattern, and it has to: an occurrence that starts at the stop counts.

So an expansion moves one end of a location to the nearest anchor on that side and leaves the other
end alone, or it fails and names the end that it started from (`Location.expand_nearest`). To the
right it makes progress in every sense. To the left the offset does not grow, but the line may: a
column that runs over the end of its line can have an anchor in front of it that is on a later line.
-/

namespace CoffeeTree

namespace Text

/-! ### Occurrences -/

/-- The pattern stands in the text after `i` characters. -/
def OccursAt (pattern text : List Char) (i : Nat) : Prop :=
  ∃ before after, before.length = i ∧ text = before ++ (pattern ++ after)

section Occurrences

variable {pattern text rest : List Char} {c : Char} {i n : Nat}

/-- An occurrence lies in the text as a whole. -/
theorem OccursAt.length_le (h : OccursAt pattern text i) : i + pattern.length ≤ text.length := by
  obtain ⟨before, after, rfl, rfl⟩ := h
  rw [List.length_append, List.length_append]
  omega

theorem occursAt_zero_iff : OccursAt pattern text 0 ↔ pattern <+: text := by
  constructor
  · rintro ⟨before, after, hbefore, rfl⟩
    rw [List.length_eq_zero_iff.1 hbefore]
    exact ⟨after, rfl⟩
  · rintro ⟨after, rfl⟩
    exact ⟨[], after, rfl, rfl⟩

/-- A text in front moves the occurrences behind it. -/
theorem occursAt_append_iff (p : List Char) :
    OccursAt pattern (p ++ text) (i + p.length) ↔ OccursAt pattern text i := by
  constructor
  · rintro ⟨before, after, hbefore, htext⟩
    have hp : p <+: before :=
      List.prefix_of_prefix_length_le ⟨text, htext⟩ (List.prefix_append _ _) (by omega)
    obtain ⟨middle, rfl⟩ := hp
    rw [List.append_assoc] at htext
    rw [List.length_append] at hbefore
    exact ⟨middle, after, by omega, List.append_cancel_left htext⟩
  · rintro ⟨before, after, rfl, rfl⟩
    exact ⟨p ++ before, after, by rw [List.length_append, Nat.add_comm],
      (List.append_assoc p before _).symm⟩

theorem occursAt_cons_succ_iff :
    OccursAt pattern (c :: rest) (i + 1) ↔ OccursAt pattern rest i :=
  occursAt_append_iff [c]

/-- The same for a text that was cut off in front. -/
theorem occursAt_drop_iff (hn : n ≤ text.length) :
    OccursAt pattern (text.drop n) i ↔ OccursAt pattern text (i + n) := by
  have hiff : OccursAt pattern (text.take n ++ text.drop n) (i + (text.take n).length) ↔
      OccursAt pattern (text.drop n) i :=
    occursAt_append_iff (text.take n)
  rw [List.take_append_drop, List.length_take_of_le hn] at hiff
  exact hiff.symm

/-- An occurrence is in the beginning of a text if it ends there. -/
theorem occursAt_take_iff :
    OccursAt pattern (text.take n) i ↔ OccursAt pattern text i ∧ i + pattern.length ≤ n := by
  constructor
  · intro h
    have hle := h.length_le
    rw [List.length_take] at hle
    obtain ⟨before, after, hbefore, htake⟩ := h
    refine ⟨⟨before, after ++ text.drop n, hbefore, ?_⟩, by omega⟩
    rw [← List.append_assoc pattern, ← List.append_assoc before, ← htake, List.take_append_drop]
  · rintro ⟨⟨before, after, rfl, rfl⟩, hle⟩
    obtain ⟨k, rfl⟩ := Nat.exists_eq_add_of_le hle
    refine ⟨before, after.take k, rfl, ?_⟩
    rw [Nat.add_assoc, List.take_length_add_append, List.take_length_add_append]

end Occurrences

/-! ### The first occurrence -/

section First

variable {pattern text : List Char} {i start : Nat}

/-- What is found is the first occurrence. -/
theorem isLeast_of_first? (h : first? pattern text = some i) :
    IsLeast {j | OccursAt pattern text j} i := by
  induction text generalizing i with
  | nil =>
    rw [first?] at h
    split at h
    · rename_i hempty
      obtain rfl := Option.some.inj h
      obtain rfl := List.isEmpty_iff.1 hempty
      exact ⟨occursAt_zero_iff.2 List.nil_prefix, fun j _ ↦ Nat.zero_le j⟩
    · exact absurd h (by simp)
  | cons c rest ih =>
    rw [first?] at h
    split at h
    · rename_i hhere
      obtain rfl := Option.some.inj h
      exact ⟨occursAt_zero_iff.2 (List.isPrefixOf_iff_prefix.1 hhere), fun j _ ↦ Nat.zero_le j⟩
    · rename_i hhere
      obtain ⟨k, hk, rfl⟩ := Option.map_eq_some_iff.1 h
      obtain ⟨hmem, hleast⟩ := ih hk
      refine ⟨occursAt_cons_succ_iff.2 hmem, fun j hj ↦ ?_⟩
      -- An occurrence at the front would have been found there.
      rcases j with _ | j
      · exact absurd (List.isPrefixOf_iff_prefix.2 (occursAt_zero_iff.1 hj)) hhere
      · exact Nat.succ_le_succ (hleast (occursAt_cons_succ_iff.1 hj))

/-- If there is one then one is found. -/
theorem exists_first? (h : OccursAt pattern text i) :
    ∃ found, first? pattern text = some found := by
  induction text generalizing i with
  | nil =>
    have hle := h.length_le
    rw [List.length_nil] at hle
    obtain rfl : pattern = [] := List.length_eq_zero_iff.1 (by omega)
    exact ⟨0, rfl⟩
  | cons c rest ih =>
    rw [first?]
    by_cases hhere : pattern.isPrefixOf (c :: rest) = true
    · exact ⟨0, if_pos hhere⟩
    · rcases i with _ | i
      · exact absurd (List.isPrefixOf_iff_prefix.2 (occursAt_zero_iff.1 h)) hhere
      · obtain ⟨found, hfound⟩ := ih (occursAt_cons_succ_iff.1 h)
        exact ⟨found + 1, by rw [if_neg hhere, hfound]; rfl⟩

/-- From a place on the first occurrence is the first one there. -/
theorem isLeast_of_firstFrom? (h : firstFrom? pattern text start = some i) :
    IsLeast {j | start ≤ j ∧ OccursAt pattern text j} i := by
  rw [firstFrom?] at h
  split at h
  · rename_i hstart
    obtain ⟨k, hk, rfl⟩ := Option.map_eq_some_iff.1 h
    obtain ⟨hmem, hleast⟩ := isLeast_of_first? hk
    refine ⟨⟨Nat.le_add_left _ _, (occursAt_drop_iff hstart).1 hmem⟩, ?_⟩
    rintro j ⟨hle, hj⟩
    obtain ⟨m, rfl⟩ := Nat.exists_eq_add_of_le' hle
    exact Nat.add_le_add_right (hleast ((occursAt_drop_iff hstart).2 hj)) start
  · exact absurd h (by simp)

theorem exists_firstFrom? (hle : start ≤ i) (h : OccursAt pattern text i) :
    ∃ found, firstFrom? pattern text start = some found := by
  have hstart : start ≤ text.length := by
    have := h.length_le
    omega
  obtain ⟨m, rfl⟩ := Nat.exists_eq_add_of_le' hle
  obtain ⟨found, hfound⟩ := exists_first? ((occursAt_drop_iff hstart).2 h)
  exact ⟨found + start, by rw [firstFrom?, if_pos hstart, hfound]; rfl⟩

/-- **The search to the right finds the least place** from its start on. -/
theorem firstFrom?_eq_some_iff :
    firstFrom? pattern text start = some i ↔
      IsLeast {j | start ≤ j ∧ OccursAt pattern text j} i := by
  refine ⟨isLeast_of_firstFrom?, fun h ↦ ?_⟩
  obtain ⟨found, hfound⟩ := exists_firstFrom? h.1.1 h.1.2
  rw [hfound, (isLeast_of_firstFrom? hfound).unique h]

end First

/-! ### The last occurrence -/

section Last

variable {pattern text : List Char} {i stop : Nat}

theorem exists_last? (h : OccursAt pattern text i) : ∃ found, last? pattern text = some found := by
  induction text generalizing i with
  | nil =>
    have hle := h.length_le
    rw [List.length_nil] at hle
    obtain rfl : pattern = [] := List.length_eq_zero_iff.1 (by omega)
    exact ⟨0, rfl⟩
  | cons c rest ih =>
    rw [last?]
    rcases hlater : last? pattern rest with _ | k
    · rcases i with _ | i
      · exact ⟨0, if_pos (List.isPrefixOf_iff_prefix.2 (occursAt_zero_iff.1 h))⟩
      · obtain ⟨found, hfound⟩ := ih (occursAt_cons_succ_iff.1 h)
        exact absurd (hfound.symm.trans hlater) (by simp)
    · exact ⟨k + 1, rfl⟩

/-- What is found backwards is the last occurrence. -/
theorem isGreatest_of_last? (h : last? pattern text = some i) :
    IsGreatest {j | OccursAt pattern text j} i := by
  induction text generalizing i with
  | nil =>
    rw [last?] at h
    split at h
    · rename_i hempty
      obtain rfl := Option.some.inj h
      obtain rfl := List.isEmpty_iff.1 hempty
      refine ⟨occursAt_zero_iff.2 List.nil_prefix, fun j hj ↦ ?_⟩
      exact Nat.le_trans (Nat.le_add_right j _) (OccursAt.length_le hj)
    · exact absurd h (by simp)
  | cons c rest ih =>
    rw [last?] at h
    split at h
    · rename_i k hk
      obtain rfl := Option.some.inj h
      obtain ⟨hmem, hgreatest⟩ := ih hk
      refine ⟨occursAt_cons_succ_iff.2 hmem, fun j hj ↦ ?_⟩
      rcases j with _ | j
      · exact Nat.zero_le _
      · exact Nat.succ_le_succ (hgreatest (occursAt_cons_succ_iff.1 hj))
    · -- Nothing is found further right, so nothing is there.
      rename_i hlater
      split at h
      · rename_i hhere
        obtain rfl := Option.some.inj h
        refine ⟨occursAt_zero_iff.2 (List.isPrefixOf_iff_prefix.1 hhere), fun j hj ↦ ?_⟩
        rcases j with _ | j
        · exact Nat.le_refl 0
        · obtain ⟨found, hfound⟩ := exists_last? (occursAt_cons_succ_iff.1 hj)
          exact absurd (hfound.symm.trans hlater) (by simp)
      · exact absurd h (by simp)

/-- What the search to the left reads holds the occurrences that start at or before its stop. -/
theorem occursAt_window_iff :
    OccursAt pattern (text.take (stop + pattern.length)) i ↔
      i ≤ stop ∧ OccursAt pattern text i := by
  rw [occursAt_take_iff, Nat.add_le_add_iff_right, and_comm]

theorem exists_lastUpTo? (hle : i ≤ stop) (h : OccursAt pattern text i) :
    ∃ found, lastUpTo? pattern text stop = some found :=
  exists_last? (occursAt_window_iff.2 ⟨hle, h⟩)

/-- Up to a place the last occurrence is the last one there. -/
theorem isGreatest_of_lastUpTo? (h : lastUpTo? pattern text stop = some i) :
    IsGreatest {j | j ≤ stop ∧ OccursAt pattern text j} i := by
  obtain ⟨hmem, hgreatest⟩ := isGreatest_of_last? h
  exact ⟨occursAt_window_iff.1 hmem, fun j hj ↦ hgreatest (occursAt_window_iff.2 hj)⟩

/-- **The search to the left finds the greatest place** up to its stop. -/
theorem lastUpTo?_eq_some_iff :
    lastUpTo? pattern text stop = some i ↔
      IsGreatest {j | j ≤ stop ∧ OccursAt pattern text j} i := by
  refine ⟨isGreatest_of_lastUpTo?, fun h ↦ ?_⟩
  obtain ⟨found, hfound⟩ := exists_lastUpTo? h.1.1 h.1.2
  rw [hfound, (isGreatest_of_lastUpTo? hfound).unique h]

end Last

end Text

namespace Source

variable {s : Source}

/-- The places from `start` on at which the anchor occurs. -/
def placesFrom (s : Source) (anchor : String) (start : Nat) : Set Nat :=
  {i | start ≤ i ∧ Text.OccursAt anchor.toList s.text i}

/-- The places up to `stop` at which the anchor occurs. -/
def placesUpTo (s : Source) (anchor : String) (stop : Nat) : Set Nat :=
  {i | i ≤ stop ∧ Text.OccursAt anchor.toList s.text i}

/-- A position on a line of the source has an offset, even behind the end of the line. -/
theorem exists_offset {p : Position Nat} (h : p.line < s.lineCount) :
    ∃ offset : Nat, s.offset p.line p.column = .ok offset := by
  rw [← length_lineStarts] at h
  exact ⟨_, offset_eq_ok_iff.2 ⟨_, List.getElem?_eq_getElem h, rfl⟩⟩

/-- The start of a line has the first column of that line as its position. -/
theorem positionAt_lineStart {line start : Nat}
    (h : (Text.lineStarts s.text)[line]? = some start) :
    Text.positionAt s.text start = ⟨line, 0⟩ := by
  have hline := (List.getElem?_eq_some_iff.1 h).1
  rw [Text.length_lineStarts] at hline
  obtain ⟨before, piece, after, hat⟩ := Text.exists_lineAt s.text (Nat.le_of_lt_succ hline)
  obtain rfl := Option.some.inj (hat.getElem?_lineStarts.symm.trans h)
  exact (hat.positionAt_eq_iff 0).2 (.inl (Nat.zero_le _))

/-- **A greater offset has a later position**, even when the position of the smaller one runs over
the end of its line. -/
theorem lt_positionAt {p : Position Nat} {offset later : Nat}
    (h : s.offset p.line p.column = .ok (offset : Int)) (hlt : offset < later) :
    p < Text.positionAt s.text later := by
  obtain ⟨start, hstart, hoffset⟩ := offset_eq_ok_iff.1 h
  have hafter : (⟨p.line, 0⟩ : Position Nat) < Text.positionAt s.text later := by
    rw [← positionAt_lineStart hstart]
    exact Text.positionAt_lt _ (by omega)
  rcases hafter with hline | ⟨hline, -⟩
  · exact .inl hline
  · by_cases hbefore : p.line < (Text.positionAt s.text later).line
    · exact .inl hbefore
    · -- On one line both columns count from the start of that line.
      have hsame : p.line = (Text.positionAt s.text later).line :=
        Nat.le_antisymm (Nat.not_lt.1 hline) (Nat.not_lt.1 hbefore)
      obtain ⟨start', hstart', hlater⟩ := offset_eq_ok_iff.1 (s.offset_positionAt later)
      rw [← hsame, hstart] at hstart'
      obtain rfl := Option.some.inj hstart'
      exact .inr ⟨hline, by omega⟩

end Source

namespace Location

variable {s : Source} {anchor : String} {loc wider : Location} {b e : Nat}

/-! ### To the right -/

/-- **Expansion to the right goes to the nearest anchor.** -/
theorem expandRight_eq_ok_iff_isLeast
    (hlast : s.offset loc.last.line loc.last.column = .ok (e : Int)) :
    expandRight s anchor loc = .ok wider ↔ ∃ found, IsLeast (s.placesFrom anchor (e + 1)) found ∧
      wider = ⟨loc.first, Text.positionAt s.text (found + anchor.length - 1)⟩ := by
  rw [expandRight_eq_ok_iff]
  constructor
  · rintro ⟨stop, found, hstop, hfound, rfl⟩
    obtain rfl := Except.ok.inj (hlast.symm.trans hstop)
    exact ⟨found, Text.firstFrom?_eq_some_iff.1 hfound, by rw [String.length_toList]⟩
  · rintro ⟨found, hfound, rfl⟩
    exact ⟨e, found, hlast, Text.firstFrom?_eq_some_iff.2 hfound, by rw [String.length_toList]⟩

/-- It succeeds if there is an anchor on that side. -/
theorem exists_expandRight_iff
    (hlast : s.offset loc.last.line loc.last.column = .ok (e : Int)) :
    (∃ wider, expandRight s anchor loc = .ok wider) ↔
      (s.placesFrom anchor (e + 1)).Nonempty := by
  constructor
  · rintro ⟨wider, hwider⟩
    obtain ⟨found, hfound, -⟩ := (expandRight_eq_ok_iff_isLeast hlast).1 hwider
    exact ⟨found, hfound.1⟩
  · rintro ⟨i, hle, hi⟩
    obtain ⟨found, hfound⟩ := Text.exists_firstFrom? hle hi
    exact ⟨_, (expandRight_eq_ok_iff_isLeast hlast).2
      ⟨found, Text.firstFrom?_eq_some_iff.1 hfound, rfl⟩⟩

/-- Otherwise the error tells where the search began. -/
theorem expandRight_error (hlast : s.offset loc.last.line loc.last.column = .ok (e : Int))
    {error : AnchorError} (h : expandRight s anchor loc = .error error) :
    error = .notFound .right (loc.last.line + 1) (loc.last.column + 1) anchor := by
  rw [expandRight, hlast, ok_mapError_bind] at h
  cases hfound : Text.firstFrom? anchor.toList s.text ((e : Int) + 1).toNat with
  | none =>
    rw [hfound] at h
    exact (Except.error.inj h).symm
  | some found =>
    rw [hfound] at h
    exact absurd h (by simp)

/-! ### To the left -/

/-- **Expansion to the left goes to the nearest anchor.** -/
theorem expandLeft_eq_ok_iff_isGreatest
    (hfirst : s.offset loc.first.line loc.first.column = .ok (b : Int)) :
    expandLeft s anchor loc = .ok wider ↔ ∃ found, IsGreatest (s.placesUpTo anchor b) found ∧
      wider = ⟨Text.positionAt s.text found, loc.last⟩ := by
  rw [expandLeft_eq_ok_iff]
  constructor
  · rintro ⟨start, found, hstart, hfound, rfl⟩
    obtain rfl := Except.ok.inj (hfirst.symm.trans hstart)
    exact ⟨found, Text.lastUpTo?_eq_some_iff.1 hfound, rfl⟩
  · rintro ⟨found, hfound, rfl⟩
    exact ⟨b, found, hfirst, Text.lastUpTo?_eq_some_iff.2 hfound, rfl⟩

/-- It succeeds if there is an anchor on that side, which may reach into the location. -/
theorem exists_expandLeft_iff
    (hfirst : s.offset loc.first.line loc.first.column = .ok (b : Int)) :
    (∃ wider, expandLeft s anchor loc = .ok wider) ↔ (s.placesUpTo anchor b).Nonempty := by
  constructor
  · rintro ⟨wider, hwider⟩
    obtain ⟨found, hfound, -⟩ := (expandLeft_eq_ok_iff_isGreatest hfirst).1 hwider
    exact ⟨found, hfound.1⟩
  · rintro ⟨i, hle, hi⟩
    obtain ⟨found, hfound⟩ := Text.exists_lastUpTo? hle hi
    exact ⟨_, (expandLeft_eq_ok_iff_isGreatest hfirst).2
      ⟨found, Text.lastUpTo?_eq_some_iff.1 hfound, rfl⟩⟩

theorem expandLeft_error (hfirst : s.offset loc.first.line loc.first.column = .ok (b : Int))
    {error : AnchorError} (h : expandLeft s anchor loc = .error error) :
    error = .notFound .left (loc.first.line + 1) (loc.first.column + 1) anchor := by
  rw [expandLeft, hfirst, ok_mapError_bind] at h
  cases hfound : Text.lastUpTo? anchor.toList s.text (b : Int).toNat with
  | none =>
    rw [hfound] at h
    exact (Except.error.inj h).symm
  | some found =>
    rw [hfound] at h
    exact absurd h (by simp)

/-- A location that starts at an anchor stays as it is. -/
theorem expandLeft_idem (h : expandLeft s anchor loc = .ok wider) :
    expandLeft s anchor wider = .ok wider := by
  obtain ⟨start, found, -, hfound, rfl⟩ := expandLeft_eq_ok_iff.1 h
  obtain ⟨⟨-, hoccurs⟩, -⟩ := Text.lastUpTo?_eq_some_iff.1 hfound
  refine (expandLeft_eq_ok_iff_isGreatest (s.offset_positionAt found)).2 ⟨found, ?_, rfl⟩
  exact ⟨⟨Nat.le_refl found, hoccurs⟩, fun i hi ↦ hi.1⟩

/-! ### Both sides -/

/-- **Expansion goes to the nearest anchor.** Let a location on lines of the source go from the
offset `b` to the offset `e`.

* To the right it succeeds exactly when the anchor occurs somewhere after `e`. Then the start stays,
  and the end moves to the last character of the first such occurrence, which is further right.
* To the left it succeeds exactly when the anchor occurs somewhere at or before `b`. Then the end
  stays, and the start moves to the last such occurrence. Its offset does not grow, and neither does
  the position if it was on its line. Another expansion changes nothing.

If one of them fails, then the error names the end that was to be moved, counted from one. -/
theorem expand_nearest (s : Source) {anchor : String} (hanchor : anchor ≠ "") {loc : Location}
    (hfirst : loc.first.line < s.lineCount) (hlast : loc.last.line < s.lineCount) :
    ∃ b e : Nat, s.offset loc.first.line loc.first.column = .ok (b : Int) ∧
      s.offset loc.last.line loc.last.column = .ok (e : Int) ∧
      ((∃ wider, expandRight s anchor loc = .ok wider) ↔
        (s.placesFrom anchor (e + 1)).Nonempty) ∧
      (∀ wider, expandRight s anchor loc = .ok wider → wider.first = loc.first ∧
        ∃ found, IsLeast (s.placesFrom anchor (e + 1)) found ∧
          s.offset wider.last.line wider.last.column =
            .ok ((found + anchor.length - 1 : Nat) : Int) ∧
          e < found + anchor.length - 1 ∧ loc.last < wider.last) ∧
      (∀ error, expandRight s anchor loc = .error error →
        error = .notFound .right (loc.last.line + 1) (loc.last.column + 1) anchor) ∧
      ((∃ wider, expandLeft s anchor loc = .ok wider) ↔ (s.placesUpTo anchor b).Nonempty) ∧
      (∀ wider, expandLeft s anchor loc = .ok wider → wider.last = loc.last ∧
        (∃ found, IsGreatest (s.placesUpTo anchor b) found ∧
          s.offset wider.first.line wider.first.column = .ok (found : Int) ∧
          found ≤ b ∧ (s.OnLine loc.first → wider.first ≤ loc.first)) ∧
        expandLeft s anchor wider = .ok wider) ∧
      ∀ error, expandLeft s anchor loc = .error error →
        error = .notFound .left (loc.first.line + 1) (loc.first.column + 1) anchor := by
  obtain ⟨b, hb⟩ := Source.exists_offset hfirst
  obtain ⟨e, he⟩ := Source.exists_offset hlast
  have hlength : 0 < anchor.length := Nat.pos_of_ne_zero (mt String.length_eq_zero_iff.1 hanchor)
  refine ⟨b, e, hb, he, exists_expandRight_iff he, fun wider hwider ↦ ?_,
    fun _ ↦ expandRight_error he, exists_expandLeft_iff hb, fun wider hwider ↦ ?_,
    fun _ ↦ expandLeft_error hb⟩
  · obtain ⟨found, hfound, rfl⟩ := (expandRight_eq_ok_iff_isLeast he).1 hwider
    -- The anchor is not empty, so its last character lies behind the location.
    have hlt : e < found + anchor.length - 1 := by
      have := hfound.1.1
      omega
    exact ⟨rfl, found, hfound, s.offset_positionAt _, hlt, Source.lt_positionAt he hlt⟩
  · have hidem := expandLeft_idem hwider
    obtain ⟨found, hfound, rfl⟩ := (expandLeft_eq_ok_iff_isGreatest hb).1 hwider
    refine ⟨rfl, ⟨found, hfound, s.offset_positionAt found, hfound.1.1, fun honLine ↦ ?_⟩, hidem⟩
    exact ((Source.onLine_iff.2 ⟨found, rfl⟩).le_iff honLine (s.offset_positionAt found) hb).2
      (Int.ofNat_le.2 hfound.1.1)

/-- Two lines, with an anchor at the start of each and two brackets in the second one. -/
def twoCases : Source :=
  ⟨['w', 'h', 'e', 'n', ' ', 'a', '\n', 'w', 'h', 'e', 'n', ' ', 'b', ']', 'c', ']'],
    Source.unnamed⟩

/-- A location that starts at offset 13, which is given as a column of the first line. -/
def overflowing : Location := ⟨⟨0, 13⟩, ⟨1, 5⟩⟩

/-- Of two brackets the first one is taken, and of two words the last one. The word is on the second
line, so the start moves to a later line, and to a smaller offset. There is no parenthesis. -/
theorem expand_nearest_twoCases :
    expandRight twoCases "]" overflowing = .ok ⟨⟨0, 13⟩, ⟨1, 6⟩⟩ ∧
      IsLeast (twoCases.placesFrom "]" 13) 13 ∧
      expandLeft twoCases "when " overflowing = .ok ⟨⟨1, 0⟩, ⟨1, 5⟩⟩ ∧
      IsGreatest (twoCases.placesUpTo "when " 13) 7 ∧
      expandLeft twoCases "when " ⟨⟨1, 0⟩, ⟨1, 5⟩⟩ = .ok ⟨⟨1, 0⟩, ⟨1, 5⟩⟩ ∧
      ¬ (twoCases.placesFrom ")" 13).Nonempty ∧
      expandRight twoCases ")" overflowing = .error (.notFound .right 2 6 ")") := by
  have hfirst : overflowing.first.line < twoCases.lineCount := by decide
  have hlast : overflowing.last.line < twoCases.lineCount := by decide
  have hstart : twoCases.offset overflowing.first.line overflowing.first.column = .ok 13 := by rfl
  have hstop : twoCases.offset overflowing.last.line overflowing.last.column = .ok 12 := by rfl
  refine ⟨by rfl, ?_, by rfl, ?_, ?_, ?_, by rfl⟩
  · obtain ⟨b, e, -, he, -, hmoves, -⟩ :=
      expand_nearest twoCases (show "]" ≠ "" by decide) hfirst hlast
    obtain rfl : 12 = e := Int.ofNat.inj (Except.ok.inj (hstop.symm.trans he))
    obtain ⟨-, found, hleast, hfound, -⟩ := hmoves ⟨⟨0, 13⟩, ⟨1, 6⟩⟩ (by rfl)
    obtain rfl : 13 = found := Int.ofNat.inj (Except.ok.inj hfound)
    exact hleast
  · obtain ⟨b, e, hb, -, -, -, -, -, hmoves, -⟩ :=
      expand_nearest twoCases (show "when " ≠ "" by decide) hfirst hlast
    obtain rfl : 13 = b := Int.ofNat.inj (Except.ok.inj (hstart.symm.trans hb))
    obtain ⟨-, ⟨found, hgreatest, hfound, -⟩, -⟩ := hmoves ⟨⟨1, 0⟩, ⟨1, 5⟩⟩ (by rfl)
    obtain rfl : 7 = found := Int.ofNat.inj (Except.ok.inj hfound)
    exact hgreatest
  · obtain ⟨b, e, -, -, -, -, -, -, hmoves, -⟩ :=
      expand_nearest twoCases (show "when " ≠ "" by decide) hfirst hlast
    exact (hmoves ⟨⟨1, 0⟩, ⟨1, 5⟩⟩ (by rfl)).2.2
  · obtain ⟨b, e, -, he, hiff, -⟩ :=
      expand_nearest twoCases (show ")" ≠ "" by decide) hfirst hlast
    obtain rfl : 12 = e := Int.ofNat.inj (Except.ok.inj (hstop.symm.trans he))
    rw [← hiff]
    rintro ⟨wider, hwider⟩
    have herror : expandRight twoCases ")" overflowing =
        .error (.notFound .right 2 6 ")") := by rfl
    rw [herror] at hwider
    exact absurd hwider (by simp)

end Location

end CoffeeTree
