import CoffeeTree.Proofs.Anchors
import CoffeeTree.Proofs.Containment
import CoffeeTree.Proofs.Simulation

/-!
# Lines after a program

A program does not depend on the lines that come after it (`program_extends`). If nothing of it had
to be clamped, then it stays the same node for node when a line feed and any text are put behind its
source.

Three things could go wrong, and each is a lemma about longer texts:

* positions: the line table only grows at its end (`Text.exists_lineStarts_append_right`), so lines
  keep their starts and offsets up to the end of the old text keep their positions;
* the search to the right: it takes the first occurrence, and the old text ends after it
  (`Text.first?_append_right`);
* the search to the left: it looks past its own offset by the length of the anchor, so it does see
  the added text. An anchor without line feed does not run into it (`Text.lastUpTo?_append_feed`),
  provided that the search starts in the old text. This is what the condition on first positions is
  for, and the only use of the line feed.

Ranges are the same as long as they need no clamping, since clamping is the one step that sees the
length of the source.
-/

namespace CoffeeTree

namespace Text

/-! ### Searches in a longer text -/

theorem isPrefixOf_append_right {pattern text : List Char} (h : pattern.length ≤ text.length)
    (t : List Char) : pattern.isPrefixOf (text ++ t) = pattern.isPrefixOf text := by
  rw [Bool.eq_iff_iff, List.isPrefixOf_iff_prefix, List.isPrefixOf_iff_prefix]
  constructor
  · intro hp
    exact List.prefix_of_prefix_length_le hp (List.prefix_append text t) h
  · intro hp
    exact hp.trans (List.prefix_append text t)

/-- **The first occurrence stays the first one** when a text is put behind. It ends in the old
text, and so does every earlier one. -/
theorem first?_append_right {pattern text : List Char} {i : Nat}
    (h : first? pattern text = some i) (t : List Char) :
    first? pattern (text ++ t) = some i ∧ i + pattern.length ≤ text.length := by
  -- The text behind could only matter for a pattern that does not fit into the text.
  induction text generalizing i with
  | nil =>
    rw [first?] at h
    split at h
    · rename_i hempty
      obtain rfl := Option.some.inj h
      obtain rfl := List.isEmpty_iff.1 hempty
      refine ⟨?_, Nat.le_refl 0⟩
      cases t with
      | nil => rfl
      | cons c rest => rfl
    · exact absurd h (by simp)
  | cons c rest ih =>
    rw [first?] at h
    by_cases hp : pattern.isPrefixOf (c :: rest) = true
    · rw [if_pos hp] at h
      obtain rfl := Option.some.inj h
      have hle := (List.isPrefixOf_iff_prefix.1 hp).length_le
      refine ⟨?_, by omega⟩
      rw [List.cons_append, first?, ← List.cons_append, isPrefixOf_append_right hle, if_pos hp]
    · rw [if_neg hp] at h
      obtain ⟨j, hj, rfl⟩ := Option.map_eq_some_iff.1 h
      obtain ⟨hfirst, hle⟩ := ih hj
      have hlength : pattern.length ≤ (c :: rest).length := by
        rw [List.length_cons]
        omega
      refine ⟨?_, by rw [List.length_cons]; omega⟩
      rw [List.cons_append, first?, ← List.cons_append, isPrefixOf_append_right hlength, if_neg hp,
        hfirst]
      rfl

/-- What is found is found in a longer text, at the same place. -/
theorem firstFrom?_append_right {pattern text : List Char} {start i : Nat}
    (h : firstFrom? pattern text start = some i) (t : List Char) :
    firstFrom? pattern (text ++ t) start = some i ∧ i + pattern.length ≤ text.length := by
  rw [firstFrom?] at h
  split at h
  · rename_i hstart
    obtain ⟨j, hj, rfl⟩ := Option.map_eq_some_iff.1 h
    obtain ⟨hfirst, hle⟩ := first?_append_right hj t
    have hlonger : start ≤ (text ++ t).length := by
      rw [List.length_append]
      omega
    rw [List.length_drop] at hle
    refine ⟨?_, by omega⟩
    rw [firstFrom?, if_pos hlonger, List.drop_append_of_le_length hstart, hfirst]
    rfl
  · exact absurd h (by simp)

theorem last?_le {pattern text : List Char} {i : Nat} (h : last? pattern text = some i) :
    i + pattern.length ≤ text.length := by
  induction text generalizing i with
  | nil =>
    rw [last?] at h
    split at h
    · rename_i hempty
      obtain rfl := Option.some.inj h
      rw [List.isEmpty_iff.1 hempty]
      exact Nat.le_refl 0
    · exact absurd h (by simp)
  | cons c rest ih =>
    rw [last?] at h
    rw [List.length_cons]
    split at h
    · rename_i j hj
      obtain rfl := Option.some.inj h
      have := ih hj
      omega
    · split at h
      · rename_i hp
        obtain rfl := Option.some.inj h
        have := (List.isPrefixOf_iff_prefix.1 hp).length_le
        rw [List.length_cons] at this
        omega
      · exact absurd h (by simp)

/-- A pattern without line feed does not reach over one. -/
theorem isPrefixOf_append_feed {pattern : List Char} (hpattern : '\n' ∉ pattern)
    (text t : List Char) :
    pattern.isPrefixOf (text ++ '\n' :: t) = pattern.isPrefixOf text := by
  by_cases hlength : pattern.length ≤ text.length
  · exact isPrefixOf_append_right hlength _
  · rw [Bool.eq_iff_iff, List.isPrefixOf_iff_prefix, List.isPrefixOf_iff_prefix]
    constructor
    · intro hp
      have hline : text ++ ['\n'] <+: text ++ '\n' :: t :=
        ⟨t, by rw [List.append_assoc, List.singleton_append]⟩
      have hfeed : text ++ ['\n'] <+: pattern :=
        List.prefix_of_prefix_length_le hline hp (by
          rw [List.length_append, List.length_singleton]
          omega)
      exact absurd (hfeed.subset (by simp)) hpattern
    · intro hp
      exact absurd hp.length_le hlength

/-- The last occurrence stays the last one when a line feed is put behind, and after it less text
than a whole occurrence takes. -/
theorem last?_append_feed {pattern : List Char} (hpattern : '\n' ∉ pattern) (text : List Char)
    {t : List Char} (ht : t.length < pattern.length) :
    last? pattern (text ++ '\n' :: t) = last? pattern text := by
  induction text with
  | nil =>
    have hnone : last? pattern t = none := by
      cases hfound : last? pattern t with
      | none => rfl
      | some i =>
        have := last?_le hfound
        omega
    have hfeed : pattern.isPrefixOf ('\n' :: t) = pattern.isPrefixOf [] :=
      isPrefixOf_append_feed hpattern [] t
    show last? pattern ('\n' :: t) = _
    rw [last?, last?, hnone, hfeed]
    cases pattern with
    | nil => exact absurd ht (Nat.not_lt_zero _)
    | cons d others => rfl
  | cons c rest ih =>
    rw [List.cons_append, last?, ih, last?, ← List.cons_append,
      isPrefixOf_append_feed hpattern (c :: rest)]

/-- **The search to the left does not see what comes after a line feed**, if it starts before it. -/
theorem lastUpTo?_append_feed {pattern : List Char} (hpattern : '\n' ∉ pattern)
    {text : List Char} {stop : Nat} (hstop : stop ≤ text.length) (t : List Char) :
    lastUpTo? pattern (text ++ '\n' :: t) stop = lastUpTo? pattern text stop := by
  rw [lastUpTo?, lastUpTo?, List.take_append]
  cases hmore : stop + pattern.length - text.length with
  | zero => rw [List.take_zero, List.append_nil]
  | succ more =>
    -- The search takes in the whole old text, the line feed and `more` characters.
    have hwhole : text.take (stop + pattern.length) = text := List.take_of_length_le (by omega)
    have hlength : (t.take more).length < pattern.length := by
      rw [List.length_take]
      omega
    rw [hwhole, List.take_succ_cons, last?_append_feed hpattern text hlength]

theorem lastUpTo?_le {pattern text : List Char} {stop i : Nat}
    (h : lastUpTo? pattern text stop = some i) : i ≤ text.length := by
  have hle := last?_le h
  rw [List.length_take] at hle
  omega

end Text

/-! ### A longer source -/

namespace Source

/-- The source with a text behind it. -/
def extend (s : Source) (t : List Char) : Source := { s with text := s.text ++ t }

/-- A longer source has the same offsets, and more of them. -/
theorem offset_extend {s : Source} {line : Nat} {column offset : Int}
    (h : s.offset line column = .ok offset) (t : List Char) :
    (s.extend t).offset line column = .ok offset := by
  obtain ⟨start, hstart, hoffset⟩ := offset_eq_ok_iff.1 h
  exact offset_eq_ok_iff.2 ⟨start, Text.getElem?_lineStarts_append_right hstart t, hoffset⟩

/-- A text that lies in the source is the same in a longer one. -/
theorem slice_extend {s : Source} {stop : Nat} (h : stop ≤ s.length) (start : Nat)
    (t : List Char) : (s.extend t).slice start stop = s.slice start stop := by
  show ((s.text ++ t).take stop).drop start = _
  rw [List.take_append_of_le_length h]
  rfl

/-- The first position of a location is not after the end of the source. Nothing is asked of a
position on a line that the source does not have. -/
def StartsInside (s : Source) (loc : Location) : Prop :=
  ∀ first, s.offset loc.first.line loc.first.column = .ok first → first ≤ s.length

/-- A merged location starts where one of the two starts. -/
theorem StartsInside.merge {s : Source} {a b : Location} (ha : s.StartsInside a)
    (hb : s.StartsInside b) : s.StartsInside (a.merge b) := by
  intro first hfirst
  rw [Extent.merge] at hfirst
  split at hfirst
  · exact ha first hfirst
  · exact hb first hfirst

end Source

namespace Location

variable {s : Source} {loc wider : Location}

/-- **Expansion to the right ignores what comes after the source**, where it succeeds. -/
theorem expandRight_extend {anchor : String} (h : expandRight s anchor loc = .ok wider)
    (t : List Char) : expandRight (s.extend t) anchor loc = .ok wider := by
  obtain ⟨stop, found, hstop, hfound, rfl⟩ := expandRight_eq_ok_iff.1 h
  obtain ⟨hlonger, hle⟩ := Text.firstFrom?_append_right hfound t
  refine expandRight_eq_ok_iff.2 ⟨stop, found, Source.offset_extend hstop t, hlonger, ?_⟩
  show _ = Extent.mk _ (Text.positionAt (s.text ++ t) _)
  rw [Text.positionAt_append_right (by omega)]

/-- **Expansion to the left ignores the lines after the source**, where it succeeds from a position
in the source. -/
theorem expandLeft_extend {anchor : String} (hanchor : '\n' ∉ anchor.toList)
    (hloc : s.StartsInside loc) (h : expandLeft s anchor loc = .ok wider) (t : List Char) :
    expandLeft (s.extend ('\n' :: t)) anchor loc = .ok wider := by
  obtain ⟨start, found, hstart, hfound, rfl⟩ := expandLeft_eq_ok_iff.1 h
  have hinside : start.toNat ≤ s.text.length := Int.toNat_le.2 (hloc start hstart)
  refine expandLeft_eq_ok_iff.2 ⟨start, found, Source.offset_extend hstart _, ?_, ?_⟩
  · show Text.lastUpTo? anchor.toList (s.text ++ '\n' :: t) start.toNat = _
    rw [Text.lastUpTo?_append_feed hanchor hinside, hfound]
  · show _ = Extent.mk (Text.positionAt (s.text ++ '\n' :: t) _) _
    rw [Text.positionAt_append_right (Text.lastUpTo?_le hfound)]

/-- An expansion to the left starts where its anchor was found. -/
theorem startsInside_of_expandLeft {anchor : String} (h : expandLeft s anchor loc = .ok wider) :
    s.StartsInside wider := by
  obtain ⟨start, found, -, hfound, rfl⟩ := expandLeft_eq_ok_iff.1 h
  intro first hfirst
  obtain rfl := Except.ok.inj ((s.offset_positionAt found).symm.trans hfirst)
  exact Int.ofNat_le.2 (Text.lastUpTo?_le hfound)

theorem feed_not_mem_when : '\n' ∉ "when ".toList := by
  decide

/-- An expansion to the right keeps the start. -/
theorem startsInside_of_expandRight {anchor : String} (hloc : s.StartsInside loc)
    (h : expandRight s anchor loc = .ok wider) : s.StartsInside wider := by
  obtain ⟨stop, found, -, -, rfl⟩ := expandRight_eq_ok_iff.1 h
  exact hloc

end Location

namespace Range

/-- A range that needs no clamping needs none in a longer text. -/
theorem clamp_eq_of_le {r : Range} {length longer : Nat} (h : r.clamp length = r)
    (hle : length ≤ longer) : r.clamp longer = r := by
  rw [clamp_eq_self_iff] at h ⊢
  omega

end Range

namespace Node

/-- **One step makes the same node of the longer source**, if it clamps nothing. -/
theorem build_extend {s : Source} {loc : Location} {shape : Shape Node} {node : Node}
    (h : build s (some loc) shape = ⟨[], .ok node⟩) (t : List Char) :
    build (s.extend t) (some loc) shape = ⟨[], .ok node⟩ := by
  obtain ⟨first, last, hfirst, hlast⟩ := exists_offsets_of_build (congrArg Traced.result h)
  have hown : rangeOf s loc = .ok ⟨first, last + 1⟩ :=
    rangeOf_eq_ok_iff.2 ⟨first, last, hfirst, hlast, rfl⟩
  have hextend : rangeOf (s.extend t) loc = .ok ⟨first, last + 1⟩ :=
    rangeOf_eq_ok_iff.2
      ⟨first, last, Source.offset_extend hfirst t, Source.offset_extend hlast t, rfl⟩
  rw [build_some hown, Traced.mk.injEq] at h
  obtain ⟨hevents, hnode⟩ := h
  -- Nothing was recorded, so nothing was clamped.
  have hclamp : (reach ⟨first, last + 1⟩ shape).clamp s.length = reach ⟨first, last + 1⟩ shape := by
    by_contra hne
    rw [if_neg hne] at hevents
    exact absurd hevents (List.cons_ne_nil _ _)
  have hlonger : (reach ⟨first, last + 1⟩ shape).clamp (s.extend t).length =
      reach ⟨first, last + 1⟩ shape := by
    refine Range.clamp_eq_of_le hclamp ?_
    show s.text.length ≤ (s.text ++ t).length
    rw [List.length_append]
    exact Nat.le_add_right _ _
  have hstop : (reach ⟨first, last + 1⟩ shape).stop.toNat ≤ s.length := by
    have := Range.clamp_stop_le (reach ⟨first, last + 1⟩ shape) s.length
    rw [hclamp] at this
    exact Int.toNat_le.2 this
  have hplace : placeOf (s.extend t) loc (reach ⟨first, last + 1⟩ shape) =
      placeOf s loc (reach ⟨first, last + 1⟩ shape) := by
    rw [placeOf, placeOf, Source.slice_extend hstop]
  rw [hclamp] at hnode
  rw [build_some hextend, hlonger, if_pos rfl, hplace, hnode]

end Node

/-- **A source simulates what becomes of it in front of more lines**, in runs that clamp nothing. -/
def Simulation.extend (s : Source) (t : List Char) : Simulation s (s.extend ('\n' :: t)) where
  onLocation := id
  onPlace := id
  Admits := s.StartsInside
  Allows _ := False
  injective := Function.injective_id
  admits_merge := Source.StartsInside.merge
  onLocation_merge := Location.id_merge
  expandRight hloc h :=
    ⟨Location.startsInside_of_expandRight hloc h, Location.expandRight_extend h _⟩
  expandLeft hloc h :=
    ⟨Location.startsInside_of_expandLeft h,
      Location.expandLeft_extend Location.feed_not_mem_when hloc h t⟩
  build {loc shape node} _ _ hnode hallowed := by
    have hevents : (Node.build s (some loc) shape).events = [] :=
      List.eq_nil_iff_forall_not_mem.2 hallowed
    have hbuild : Node.build s (some loc) shape = ⟨[], .ok node⟩ := by
      rw [← hevents, ← hnode]
    rw [Shape.map_mapPlaces_id, Node.mapPlaces_id, hevents]
    exact Node.build_extend hbuild _

namespace Convert

/-- **Lines after a program change nothing in it.** If the program was converted without clamping
and every location of its tree starts in the source, then with a line feed and any text behind the
source nothing is clamped either, and the body is the same. -/
theorem program_extends {s : Source} (hs : s.text ≠ []) {root : Tree.Block Tree}
    (hroot : ∀ u, (Tree.block root).Reaches u → ∀ loc ∈ u.location, s.StartsInside loc)
    {node : Node} (h : program s root = ⟨[], .ok node⟩) (t : List Char) :
    ∃ body, node = .mk (some (wholePlace s)) (.program (some body)) ∧
      program (s.extend ('\n' :: t)) root =
        ⟨[], .ok (.mk (some (wholePlace (s.extend ('\n' :: t)))) (.program (some body)))⟩ := by
  obtain ⟨body, hbody, rfl⟩ := exists_programBody hs (congrArg Traced.result h)
  have hevents : (programBody s root).events = [] := by
    rw [program_eq hs hbody] at h
    exact congrArg Traced.events h
  have hadmits : (Simulation.extend s t).AdmitsTree (.block root) := hroot
  obtain ⟨-, hsame, hsameEvents⟩ := Simulation.programBody_follows hadmits body hbody
    fun loc hloc ↦ absurd (hevents ▸ hloc) List.not_mem_nil
  have hextend : (s.extend ('\n' :: t)).text ≠ [] := List.append_ne_nil_of_left_ne_nil hs _
  have hprogram := program_eq hextend hsame
  refine ⟨body, rfl, ?_⟩
  rw [hsameEvents, hevents] at hprogram
  change program _ (Tree.relocateBlock id root) = ⟨[], .ok (.mk _ (.program (some
    (body.mapPlaces id))))⟩ at hprogram
  rw [Tree.relocateBlock_id, Node.mapPlaces_id] at hprogram
  exact hprogram

def caseText : Source :=
  ⟨['w', 'h', 'e', 'n', ' ', 'n', 'u', 'l', 'l', '[', 'n', 'u', 'l', 'l', ']'], Source.unnamed⟩

/-- A case without body whose condition is an index. Its location starts at the end of the text. -/
def caseTree : Tree.Block Tree :=
  ⟨none, [.switch none none [⟨.one (.value (some ⟨⟨0, 15⟩, ⟨0, 13⟩⟩)
    (.null (some ⟨⟨0, 5⟩, ⟨0, 8⟩⟩)) [.index (some ⟨⟨0, 9⟩, ⟨0, 13⟩⟩)
      (.null (some ⟨⟨0, 10⟩, ⟨0, 13⟩⟩))]), ⟨none, []⟩⟩] none]⟩

def caseBody : Node :=
  .mk none (.block [.mk none (.switch none [.mk (some ⟨1, 1, ⟨0, 15⟩, "when null[null]"⟩)
    (.switchCase [.mk (some ⟨1, 6, ⟨5, 15⟩, "null[null]"⟩) (.dynamicMemberAccess
      (.mk (some ⟨1, 6, ⟨5, 9⟩, "null"⟩) .null) (.mk (some ⟨1, 11, ⟨10, 14⟩, "null"⟩) .null))]
      none)] none)])

/-- Every location of the tree starts in the text, one of them just at its end. -/
theorem caseTree_startsInside :
    ∀ u, (Tree.block caseTree).Reaches u → ∀ loc ∈ u.location, caseText.StartsInside loc := by
  have hnone : ∀ loc ∈ (none : Option Location), caseText.StartsInside loc :=
    fun loc hloc ↦ absurd hloc (by simp)
  have hcolumn : ∀ (column : Nat) (last : Position Nat), column ≤ 15 →
      ∀ loc ∈ some (Extent.mk ⟨0, column⟩ last), caseText.StartsInside loc := by
    intro column last hle loc hloc first hfirst
    obtain rfl := Option.some.inj hloc
    obtain ⟨start, hstart, rfl⟩ := Source.offset_eq_ok_iff.1 hfirst
    obtain rfl : 0 = start := Option.some.inj hstart
    show ((0 : Nat) : Int) + column ≤ 15
    omega
  have hleaf : ∀ column last, column ≤ 15 →
      ∀ u, (Tree.null (some ⟨⟨0, column⟩, last⟩)).Reaches u →
        ∀ loc ∈ u.location, caseText.StartsInside loc :=
    fun column last hle ↦ Tree.forall_reaches_iff.2
      ⟨hcolumn column last hle, fun c hc ↦ absurd hc List.not_mem_nil⟩
  -- The block, the switch, and then the condition and the body of its case.
  refine Tree.forall_reaches_iff.2 ⟨hnone, List.forall_mem_singleton.2 ?_⟩
  refine Tree.forall_reaches_iff.2
    ⟨hnone, List.forall_mem_cons.2 ⟨?_, List.forall_mem_singleton.2 ?_⟩⟩
  · refine Tree.forall_reaches_iff.2 ⟨hcolumn 15 _ (by decide), List.forall_mem_cons.2
      ⟨hleaf 5 _ (by decide), List.forall_mem_singleton.2 ?_⟩⟩
    exact Tree.forall_reaches_iff.2
      ⟨hcolumn 9 _ (by decide), List.forall_mem_singleton.2 (hleaf 10 _ (by decide))⟩
  · exact Tree.forall_reaches_iff.2 ⟨hnone, fun c hc ↦ absurd hc List.not_mem_nil⟩

/-- Both anchors occur again in the added text, where neither search may end. -/
theorem program_extends_case :
    program caseText caseTree =
        ⟨[], .ok (.mk (some (wholePlace caseText)) (.program (some caseBody)))⟩ ∧
      program (caseText.extend ['\n', 'w', 'h', 'e', 'n', ' ', ']']) caseTree =
        ⟨[], .ok (.mk (some (wholePlace (caseText.extend ['\n', 'w', 'h', 'e', 'n', ' ', ']'])))
          (.program (some caseBody)))⟩ := by
  have hprogram : program caseText caseTree =
      ⟨[], .ok (.mk (some (wholePlace caseText)) (.program (some caseBody)))⟩ := by
    rfl
  obtain ⟨body, hnode, hextends⟩ := program_extends (List.cons_ne_nil _ _) caseTree_startsInside
    hprogram ['w', 'h', 'e', 'n', ' ', ']']
  obtain rfl : caseBody = body := by
    injection hnode with _ hshape
    injection hshape with hbody
    exact Option.some.inj hbody
  exact ⟨hprogram, hextends⟩

end Convert

end CoffeeTree
