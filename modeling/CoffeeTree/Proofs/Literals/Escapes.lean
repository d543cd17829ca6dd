import CoffeeTree.Proofs.Literals.Strings

/-!
# Texts without unknown escapes

Read from left to right, a backslash takes the character behind it, whatever that is. So a text
falls into *segments* (`Literal.segments`): characters other than a backslash, pairs of a backslash
and the character that it takes, and one backslash without a character where the text ends with it.
The segments are the only ones of that form that spell the text (`segments_flatMap_spelling`).

The first stage of decoding settles each pair by itself: one that means nothing becomes the
character alone. Removing a backslash could shift the pairs behind it, since these are read from the
left. It does not, because a character that has lost its backslash is not a backslash itself: the
segments of the result are the settled segments of the text (`segments_dropUnknownEscapes`). Hence
the result has known pairs only, and there is nothing left to remove from it.
-/

namespace CoffeeTree.Literal

/-- A unit of a text that is read from left to right. -/
inductive Segment where
  /-- A character that no backslash has taken. -/
  | plain (c : Char) (ne_backslash : c ≠ '\\')
  /-- A backslash and the character that it takes. -/
  | pair (c : Char)
  /-- A backslash with nothing behind it. -/
  | lone
  deriving DecidableEq

namespace Segment

def spelling : Segment → List Char
  | plain c _ => [c]
  | pair c => ['\\', c]
  | lone => ['\\']

theorem ne_backslash_of_unknown {c : Char} (h : ¬ isKnownEscape c = true) : c ≠ '\\' := by
  rintro rfl
  exact h rfl

/-- The segment without a backslash that means nothing. -/
def settle : Segment → Segment
  | pair c => if h : isKnownEscape c = true then pair c else plain c (ne_backslash_of_unknown h)
  | segment => segment

/-- If the segment is a pair, its character gives a meaning to the backslash. -/
def IsKnown (segment : Segment) : Prop := ∀ c, segment = pair c → isKnownEscape c = true

/-- A segment stays as it is if it is known. -/
theorem settle_eq_self_iff {segment : Segment} : segment.settle = segment ↔ segment.IsKnown := by
  cases segment with
  | plain c hc => exact ⟨fun _ _ h ↦ absurd h (by simp), fun _ ↦ rfl⟩
  | lone => exact ⟨fun _ _ h ↦ absurd h (by simp), fun _ ↦ rfl⟩
  | pair c =>
    rw [settle]
    by_cases hknown : isKnownEscape c = true
    · rw [dif_pos hknown]
      refine ⟨fun _ other hother ↦ ?_, fun _ ↦ rfl⟩
      rwa [← Segment.pair.inj hother]
    · rw [dif_neg hknown]
      exact ⟨fun h ↦ absurd h (by simp), fun h ↦ absurd (h c rfl) hknown⟩

/-- Settling makes a segment known. -/
theorem settle_isKnown (segment : Segment) : segment.settle.IsKnown := by
  intro c hc
  cases segment with
  | plain other hother => exact absurd hc (by simp [settle])
  | lone => exact absurd hc (by simp [settle])
  | pair other =>
    rw [settle] at hc
    split at hc
    · rwa [← Segment.pair.inj hc]
    · exact absurd hc (by simp)

theorem settle_ne_lone {segment : Segment} (h : segment ≠ lone) : segment.settle ≠ lone := by
  cases segment with
  | plain c hc => exact h
  | lone => exact absurd rfl h
  | pair c =>
    rw [settle]
    split
    · simp
    · simp

end Segment

/-- The segments of a text. -/
def segments : List Char → List Segment
  | [] => []
  | '\\' :: c :: rest => .pair c :: segments rest
  | c :: rest => (if h : c = '\\' then .lone else .plain c h) :: segments rest

/-- Only the last segment is a backslash without a character. -/
def LoneLast (parts : List Segment) : Prop := parts.Pairwise fun segment _ ↦ segment ≠ .lone

theorem segments_cons {c : Char} (h : c ≠ '\\') (rest : List Char) :
    segments (c :: rest) = .plain c h :: segments rest := by
  rw [segments, dif_neg h]
  exact fun _ _ hc _ ↦ h hc

/-- A character that starts no pair is not a backslash, or is the last one. -/
theorem ne_backslash_or_eq_nil {c : Char} {rest : List Char}
    (h : ∀ next tail, c = '\\' → rest = next :: tail → False) : c ≠ '\\' ∨ rest = [] := by
  rcases rest with _ | ⟨next, tail⟩
  · exact .inr rfl
  · exact .inl fun hc ↦ h next tail hc rfl

/-- The segments of a text spell it. -/
theorem flatMap_spelling_segments (text : List Char) :
    (segments text).flatMap Segment.spelling = text := by
  fun_induction segments text with
  | case1 => rfl
  | case2 c rest ih =>
    rw [List.flatMap_cons, ih]
    rfl
  | case3 c rest hpair ih =>
    rw [List.flatMap_cons, ih]
    by_cases hc : c = '\\'
    · rw [dif_pos hc, hc]
      rfl
    · rw [dif_neg hc]
      rfl

/-- A lone backslash can stand at the end only. -/
theorem segments_loneLast (text : List Char) : LoneLast (segments text) := by
  fun_induction segments text with
  | case1 => exact .nil
  | case2 c rest ih => exact .cons (fun _ _ ↦ by simp) ih
  | case3 c rest hpair ih =>
    refine .cons (fun segment hsegment ↦ ?_) ih
    rcases ne_backslash_or_eq_nil hpair with hc | rfl
    · rw [dif_neg hc]
      simp
    · exact absurd hsegment List.not_mem_nil

/-- **The segments of a text are the only ones that spell it.** -/
theorem segments_flatMap_spelling {parts : List Segment} (h : LoneLast parts) :
    segments (parts.flatMap Segment.spelling) = parts := by
  induction parts with
  | nil => rfl
  | cons segment rest ih =>
    obtain ⟨hfirst, hrest⟩ := List.pairwise_cons.1 h
    rw [List.flatMap_cons]
    cases segment with
    | plain c hc =>
      show segments (c :: rest.flatMap Segment.spelling) = _
      rw [segments_cons hc, ih hrest]
    | pair c =>
      show segments ('\\' :: c :: rest.flatMap Segment.spelling) = _
      rw [segments, ih hrest]
    | lone =>
      rcases rest with _ | ⟨next, rest⟩
      · rfl
      · exact absurd rfl (hfirst next List.mem_cons_self)

/-! ### The first stage -/

/-- The first stage settles each segment by itself. -/
theorem dropUnknownEscapes_eq (text : List Char) :
    dropUnknownEscapes text = ((segments text).map Segment.settle).flatMap Segment.spelling := by
  fun_induction segments text with
  | case1 => rfl
  | case2 c rest ih =>
    rw [dropUnknownEscapes, ih, List.map_cons, List.flatMap_cons, Segment.settle]
    split
    · rfl
    · rfl
  | case3 c rest hpair ih =>
    rw [dropUnknownEscapes, ih, List.map_cons, List.flatMap_cons]
    · by_cases hc : c = '\\'
      · rw [dif_pos hc, hc]
        rfl
      · rw [dif_neg hc]
        rfl
    · exact hpair

/-- **The result is read as the text was**, with each pair settled. -/
theorem segments_dropUnknownEscapes (text : List Char) :
    segments (dropUnknownEscapes text) = (segments text).map Segment.settle := by
  have hlone : LoneLast ((segments text).map Segment.settle) :=
    List.pairwise_map.2 ((segments_loneLast text).imp Segment.settle_ne_lone)
  rw [dropUnknownEscapes_eq, segments_flatMap_spelling hlone]

/-- The first stage changes nothing if all segments are known. -/
theorem dropUnknownEscapes_eq_self_iff {text : List Char} :
    dropUnknownEscapes text = text ↔ ∀ segment ∈ segments text, segment.IsKnown := by
  have hmap : (segments text).map Segment.settle = (segments text).map id ↔
      ∀ segment ∈ segments text, segment.IsKnown :=
    List.map_inj_left.trans (forall₂_congr fun _ _ ↦ Segment.settle_eq_self_iff)
  rw [← hmap, List.map_id]
  constructor
  · intro h
    rw [← segments_dropUnknownEscapes, h]
  · intro h
    rw [dropUnknownEscapes_eq, h, flatMap_spelling_segments]

/-- It leaves known segments only. -/
theorem forall_isKnown_dropUnknownEscapes (text : List Char) :
    ∀ segment ∈ segments (dropUnknownEscapes text), segment.IsKnown := by
  rw [segments_dropUnknownEscapes, List.forall_mem_map]
  exact fun segment _ ↦ segment.settle_isKnown

/-- **The first stage gives a normal form.** Doing it twice is doing it once. It changes nothing
exactly when all pairs of the text are known escapes. Its result is spelled by the settled segments
of the text; every pair there is a known escape, and only the last segment may be a backslash that
takes nothing. -/
theorem dropUnknownEscapes_normal (text : List Char) :
    dropUnknownEscapes (dropUnknownEscapes text) = dropUnknownEscapes text ∧
      (dropUnknownEscapes text = text ↔ ∀ c, .pair c ∈ segments text → isKnownEscape c = true) ∧
      (∀ c, .pair c ∈ segments (dropUnknownEscapes text) → isKnownEscape c = true) ∧
      LoneLast (segments (dropUnknownEscapes text)) ∧
      (segments (dropUnknownEscapes text)).flatMap Segment.spelling = dropUnknownEscapes text ∧
      segments (dropUnknownEscapes text) = (segments text).map Segment.settle := by
  have hpairs (parts : List Segment) : (∀ segment ∈ parts, segment.IsKnown) ↔
      ∀ c, .pair c ∈ parts → isKnownEscape c = true :=
    ⟨fun h c hc ↦ h _ hc c rfl, fun h segment hsegment c hc ↦ h c (hc ▸ hsegment)⟩
  have hknown := forall_isKnown_dropUnknownEscapes text
  refine ⟨dropUnknownEscapes_eq_self_iff.2 hknown, ?_, (hpairs _).1 hknown, segments_loneLast _,
    flatMap_spelling_segments _, segments_dropUnknownEscapes text⟩
  rw [dropUnknownEscapes_eq_self_iff, hpairs]

/-- Three backslashes, of which the second is taken by the first, and the third takes a letter that
means nothing. The text ends with a backslash that takes nothing. -/
example : dropUnknownEscapes ['\\', '\\', '\\', 'q', '\\', '\n', '\\'] =
    ['\\', '\\', 'q', '\\', '\n', '\\'] := by
  decide

end CoffeeTree.Literal
