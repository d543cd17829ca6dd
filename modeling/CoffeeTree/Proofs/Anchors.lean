import CoffeeTree.Anchor
import CoffeeTree.Proofs.Lines

/-!
# Anchors in a longer text

An expansion succeeds exactly when its position is in the source and the search finds the anchor
(`Location.expandRight_eq_ok_iff`, `Location.expandLeft_eq_ok_iff`). Both searches go away from the
start of the text or stop at the occurrence that is nearest to their position, so a text in front
does not change what they find: the offset moves with the text.

To the left that holds for successful searches only. A search that fails in the text itself may
succeed in the text in front of it.
-/

namespace CoffeeTree

namespace Text

/-- A text in front moves what is found to the right of it. -/
theorem firstFrom?_append (pattern p text : List Char) (start : Nat) :
    firstFrom? pattern (p ++ text) (start + p.length) =
      (firstFrom? pattern text start).map (· + p.length) := by
  have hdrop : (p ++ text).drop (start + p.length) = text.drop start := by
    rw [Nat.add_comm, List.drop_length_add_append]
  have hle : start + p.length ≤ (p ++ text).length ↔ start ≤ text.length := by
    rw [List.length_append]
    omega
  rw [firstFrom?, firstFrom?, hdrop]
  by_cases hstart : start ≤ text.length
  · rw [if_pos hstart, if_pos (hle.2 hstart), Option.map_map]
    congr 1
    funext i
    exact (Nat.add_assoc i start p.length).symm
  · rw [if_neg hstart, if_neg (mt hle.1 hstart)]
    rfl

/-- The last occurrence in a text is the last one in a longer text that ends in it. -/
theorem last?_append {pattern text : List Char} {i : Nat} (h : last? pattern text = some i)
    (p : List Char) : last? pattern (p ++ text) = some (i + p.length) := by
  induction p with
  | nil => exact h
  | cons c rest ih =>
    rw [List.cons_append, last?, ih]
    rfl

theorem lastUpTo?_append {pattern text : List Char} {stop i : Nat}
    (h : lastUpTo? pattern text stop = some i) (p : List Char) :
    lastUpTo? pattern (p ++ text) (stop + p.length) = some (i + p.length) := by
  have htake : (p ++ text).take (stop + p.length + pattern.length) =
      p ++ text.take (stop + pattern.length) := by
    rw [show stop + p.length + pattern.length = p.length + (stop + pattern.length) by omega,
      List.take_length_add_append]
  rw [lastUpTo?, htake]
  exact last?_append h p

end Text

namespace Location

/-- The location some lines further down. -/
def down (lines : Nat) (loc : Location) : Location :=
  ⟨⟨loc.first.line + lines, loc.first.column⟩, ⟨loc.last.line + lines, loc.last.column⟩⟩

theorem ok_mapError_bind {ε ε' α β : Type} (f : ε → ε') (a : α) (next : α → Except ε' β) :
    ((Except.ok a).mapError f >>= next) = next a := rfl

/-- Expansion to the right, without its errors. -/
theorem expandRight_eq_ok_iff {source : Source} {anchor : String} {loc wider : Location} :
    expandRight source anchor loc = .ok wider ↔ ∃ stop found,
      source.offset loc.last.line loc.last.column = .ok stop ∧
      Text.firstFrom? anchor.toList source.text (stop + 1).toNat = some found ∧
      wider = ⟨loc.first, Text.positionAt source.text (found + anchor.toList.length - 1)⟩ := by
  cases hstop : source.offset loc.last.line loc.last.column with
  | error e =>
    have hresult : expandRight source anchor loc = .error (.outside e) := by
      rw [expandRight, hstop]
      rfl
    simp [hresult]
  | ok stop =>
    rw [expandRight, hstop, ok_mapError_bind]
    cases hfound : Text.firstFrom? anchor.toList source.text (stop + 1).toNat with
    | none => simp [hfound]
    | some found => simp [hfound, eq_comm]

/-- Expansion to the left, without its errors. -/
theorem expandLeft_eq_ok_iff {source : Source} {anchor : String} {loc wider : Location} :
    expandLeft source anchor loc = .ok wider ↔ ∃ start found,
      source.offset loc.first.line loc.first.column = .ok start ∧
      Text.lastUpTo? anchor.toList source.text start.toNat = some found ∧
      wider = ⟨Text.positionAt source.text found, loc.last⟩ := by
  cases hstart : source.offset loc.first.line loc.first.column with
  | error e =>
    have hresult : expandLeft source anchor loc = .error (.outside e) := by
      rw [expandLeft, hstart]
      rfl
    simp [hresult]
  | ok start =>
    rw [expandLeft, hstart, ok_mapError_bind]
    cases hfound : Text.lastUpTo? anchor.toList source.text start.toNat with
    | none => simp [hfound]
    | some found => simp [hfound, eq_comm]

section Prepend

variable {s : Source} {p : List Char} (hp : Text.WholeLines p) {loc wider : Location}

include hp

/-- **Expansion to the right moves with the text.** -/
theorem expandRight_prepend {anchor : String} (hanchor : 0 < anchor.toList.length)
    (h : expandRight s anchor loc = .ok wider) :
    expandRight (s.prepend p) anchor (down (p.count '\n') loc) =
      .ok (down (p.count '\n') wider) := by
  obtain ⟨stop, found, hstop, hfound, rfl⟩ := expandRight_eq_ok_iff.1 h
  have hnonneg : 0 ≤ stop := Source.offset_nonneg hstop
  have hnext : (stop + p.length + 1).toNat = (stop + 1).toNat + p.length := by omega
  have hmoved : found + p.length + anchor.toList.length - 1 =
      found + anchor.toList.length - 1 + p.length := by omega
  refine expandRight_eq_ok_iff.2
    ⟨stop + p.length, found + p.length, Source.offset_prepend hp hstop, ?_, ?_⟩
  · show Text.firstFrom? anchor.toList (p ++ s.text) (stop + p.length + 1).toNat = _
    rw [hnext, Text.firstFrom?_append, hfound]
    rfl
  · show _ = Extent.mk _ (Text.positionAt (p ++ s.text) _)
    rw [hmoved, Text.positionAt_append hp]
    rfl

/-- **Expansion to the left moves with the text**, where it succeeds in the text itself. -/
theorem expandLeft_prepend {anchor : String} (h : expandLeft s anchor loc = .ok wider) :
    expandLeft (s.prepend p) anchor (down (p.count '\n') loc) =
      .ok (down (p.count '\n') wider) := by
  obtain ⟨start, found, hstart, hfound, rfl⟩ := expandLeft_eq_ok_iff.1 h
  have hnonneg : 0 ≤ start := Source.offset_nonneg hstart
  have hmoved : (start + p.length).toNat = start.toNat + p.length := by omega
  refine expandLeft_eq_ok_iff.2
    ⟨start + p.length, found + p.length, Source.offset_prepend hp hstart, ?_, ?_⟩
  · show Text.lastUpTo? anchor.toList (p ++ s.text) (start + p.length).toNat = _
    rw [hmoved, Text.lastUpTo?_append hfound]
  · show _ = Extent.mk (Text.positionAt (p ++ s.text) _) _
    rw [Text.positionAt_append hp]
    rfl

end Prepend

end Location

end CoffeeTree
