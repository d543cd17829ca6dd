import CoffeeTree.Proofs.Walk.Single

/-!
# Where the nodes of the output stand

The converter takes locations that may overlap, run backwards or leave the source, and every node
that it hands out is nevertheless in order:

* the place of a located node fits the source (`output_place_fits`);
* a located node contains each of its located children, shared ones included
  (`output_contains_child`);
* the root covers the source from its first to its last character (`program_covers_source`).

All follow from one fact, that the output is built (`Convert.Output.built`). It is what a walk
through one run says about the nodes that come up on the way.

Containment does *not* pass through virtual nodes: a range is widened by the ranges of the parts,
and a virtual part has none (`not_forall_contains_nearest`). What a node contains of the located
nodes behind its virtual parts is decided by the location that places it and by its located
children, on each side alone (`output_contains_nearest_iff`).
-/

namespace CoffeeTree

open CoffeeTree.Convert

namespace Node

/-- The second node is the first one, if that is located, or the first located one on a way down
through virtual nodes. -/
inductive Exposes : Node → Node → Prop where
  | located {n : Node} {place : Place} (hplace : place ∈ n.place) : Exposes n n
  | through {n c m : Node} (hvirtual : n.place = none) (hc : c ∈ n.children)
      (hm : Exposes c m) : Exposes n m

/-- The first node is located, and it is the nearest such node above the second one, which is
located too. -/
def NearestLocated (a m : Node) : Prop :=
  (∃ place, place ∈ a.place) ∧ ∃ c ∈ a.children, c.Exposes m

/-- What is exposed stands below. -/
theorem Exposes.reaches {n m : Node} (h : n.Exposes m) : n.Reaches m := by
  induction h with
  | located _ => exact .refl _
  | through _ hc _ ih => exact .head hc ih

/-- So does a node from its nearest located ancestor. -/
theorem NearestLocated.reaches {a m : Node} (h : a.NearestLocated m) : a.Reaches m := by
  obtain ⟨-, c, hc, hm⟩ := h
  exact .head hc hm.reaches

end Node

namespace Convert

/-- A node that the converter hands out: a whole program, or what became of any one node. -/
inductive Output (source : Source) : Node → Prop where
  | program {root : Tree.Block Tree} {node : Node}
      (result : (program source root).result = .ok node) : Output source node
  | node {ancestors : List String} {tree : Tree} {node : Node}
      (result : (node? source ancestors tree).result = .ok (some node)) : Output source node

/-- What a branch becomes is built. -/
theorem built_of_node? {source : Source} {ancestors : List String} {tree : Tree} {node : Node}
    (h : (node? source ancestors tree).result = .ok (some node)) : node.Built source :=
  (madeFor_of_node? h).built node List.mem_cons_self

/-- The program without characters is what a step makes of the first position of an empty text. -/
theorem built_emptyProgram {source : Source} (h : source.text = []) :
    emptyProgram.Built source := by
  obtain ⟨text, name⟩ := source
  obtain rfl : text = [] := h
  have hstep : (Node.build ⟨[], name⟩ (some ⟨⟨0, 0⟩, ⟨0, 0⟩⟩) (.program none)).result =
      .ok emptyProgram :=
    rfl
  exact .step (fun c hc ↦ absurd hc List.not_mem_nil) hstep

/-! ### The node of a whole program -/

/-- The place of all characters. -/
def wholePlace (source : Source) : Place :=
  ⟨1, 1, ⟨0, source.length⟩, String.ofList source.text⟩

/-- The location of the whole source has the range of the whole source. -/
theorem rangeOf_wholeLocation {source : Source} (h : source.text ≠ []) :
    Node.rangeOf source (wholeLocation source) = .ok ⟨0, source.length⟩ := by
  have hpos : 0 < source.length := List.length_pos_iff.2 h
  have hfirst : source.offset (0 : Nat) (0 : Nat) = .ok 0 :=
    Source.offset_eq_ok_iff.2 ⟨0, rfl, rfl⟩
  have hlast := source.offset_positionAt (source.length - 1)
  have hstop : (source.length : Int) = ((source.length - 1 : Nat) : Int) + 1 := by omega
  exact Node.rangeOf_eq_ok_iff.2 ⟨0, _, hfirst, hlast, congrArg (Range.mk 0) hstop⟩

/-- What is in the source does not widen the range of the whole source. -/
theorem reach_whole {source : Source} {body : Node} (h : body.Built source) :
    Node.reach ⟨0, source.length⟩ (.program (some body)) = ⟨0, source.length⟩ := by
  show Range.coverAll _ ([body].filterMap Node.range?) = _
  cases hrange : body.range? with
  | none =>
    rw [List.filterMap_cons_none hrange]
    rfl
  | some r =>
    obtain ⟨place, hplace, rfl⟩ := Node.mem_range?_iff.1 hrange
    have hfits := h.fits place hplace
    have hstart : min 0 place.range.start = 0 := Int.min_eq_left hfits.start_nonneg
    have hstop : max (source.length : Int) place.range.stop = source.length :=
      Int.max_eq_left hfits.stop_le_length
    rw [List.filterMap_cons_some hrange]
    show Range.mk (min 0 place.range.start) (max source.length place.range.stop) = _
    rw [hstart, hstop]

/-- **A program covers its source**, and nothing has to be clamped for that. -/
theorem build_wholeLocation {source : Source} (h : source.text ≠ []) {body : Node}
    (hbody : body.Built source) :
    Node.build source (some (wholeLocation source)) (.program (some body)) =
      ⟨[], .ok (.mk (some (wholePlace source)) (.program (some body)))⟩ := by
  have hclamp : Range.clamp ⟨0, source.length⟩ source.length = ⟨0, source.length⟩ := by
    simp only [Range.clamp, Range.mk.injEq]
    omega
  have hslice : source.slice 0 source.length = source.text := List.take_length
  have hplace : Node.placeOf source (wholeLocation source) ⟨0, source.length⟩ =
      wholePlace source := by
    show Place.mk 1 1 _ (String.ofList (source.slice 0 source.length)) = _
    rw [hslice]
    rfl
  rw [Node.build_some (rangeOf_wholeLocation h), reach_whole hbody, hclamp, hplace, if_pos rfl]

/-- The body of a program is built. -/
theorem built_of_programBody {source : Source} {root : Tree.Block Tree} {body : Node}
    (h : (programBody source root).result = .ok body) : body.Built source :=
  (madeFor_of_programBody h).built body List.mem_cons_self

/-- A program that is not empty is its body under a root at the place of the whole source. The root
adds neither a recorded location nor an error. -/
theorem program_eq_map {source : Source} (hsource : source.text ≠ []) (root : Tree.Block Tree) :
    program source root = ⟨(programBody source root).events,
      (programBody source root).result.map fun body ↦
        .mk (some (wholePlace source)) (.program (some body))⟩ := by
  rw [program_of_ne_nil hsource, Traced.bind_def, Traced.andThen]
  cases hbody : (programBody source root).result with
  | error e => rfl
  | ok body =>
    have hbuild := build_wholeLocation hsource (built_of_programBody hbody)
    show Traced.mk (_ ++ (Node.build _ _ _).events) (Node.build _ _ _).result = _
    rw [hbuild, List.append_nil]
    rfl

/-- A program is its body at the place of the whole source. Building it records nothing. -/
theorem program_eq {source : Source} (hsource : source.text ≠ []) {root : Tree.Block Tree}
    {body : Node} (h : (programBody source root).result = .ok body) :
    program source root = ⟨(programBody source root).events,
      .ok (.mk (some (wholePlace source)) (.program (some body)))⟩ := by
  rw [program_eq_map hsource, h]
  rfl

/-- A program that was converted has a body that was converted. -/
theorem exists_programBody {source : Source} (hsource : source.text ≠ [])
    {root : Tree.Block Tree} {node : Node} (h : (program source root).result = .ok node) :
    ∃ body, (programBody source root).result = .ok body ∧
      node = .mk (some (wholePlace source)) (.program (some body)) := by
  rw [program_of_ne_nil hsource] at h
  obtain ⟨body, hbody, hnode⟩ := Traced.result_bind_eq_ok.1 h
  rw [build_wholeLocation hsource (built_of_programBody hbody)] at hnode
  exact ⟨body, hbody, (Except.ok.inj hnode).symm⟩

/-- A program that fails has a body that fails in the same way. -/
theorem programBody_of_program_error {source : Source} {root : Tree.Block Tree}
    {e : ConversionError} (h : (program source root).result = .error e) :
    (programBody source root).result = .error e := by
  by_cases hempty : source.text = []
  · rw [program, if_pos (List.isEmpty_iff.2 hempty)] at h
    exact absurd h (by simp)
  · rcases hbody : (programBody source root).result with e' | body
    · rw [program_eq_map hempty, hbody] at h
      exact congrArg _ (Except.error.inj h)
    · rw [program_eq hempty hbody] at h
      exact absurd h (by simp)

/-- **A program is built**, and so is everything in it. -/
theorem built_of_program {source : Source} {root : Tree.Block Tree} {node : Node}
    (h : (program source root).result = .ok node) : node.Built source := by
  by_cases hempty : source.text = []
  · rw [program, if_pos (List.isEmpty_iff.2 hempty)] at h
    obtain rfl := Except.ok.inj h
    exact built_emptyProgram hempty
  · obtain ⟨body, hbody, rfl⟩ := exists_programBody hempty h
    have hbuilt := built_of_programBody hbody
    refine .step (fun c hc ↦ ?_) (congrArg Traced.result (build_wholeLocation hempty hbuilt))
    obtain rfl : c = body := List.mem_singleton.1 hc
    exact hbuilt

/-- **The output is built.** -/
theorem Output.built {source : Source} {node : Node} (h : Output source node) :
    node.Built source := by
  cases h with
  | program result => exact built_of_program result
  | node result => exact built_of_node? result

/-! ### The root -/

/-- **A program covers its source.** If there are characters, then the conversion of a program is
that of its body, whose result is put under a root with the place of the whole source. The root is
never clamped and never fails, wherever the body stands. Without characters the tree is not looked
at, and the root is empty. -/
theorem program_covers_source (source : Source) (root : Tree.Block Tree) :
    (source.text ≠ [] → program source root = ⟨(programBody source root).events,
      (programBody source root).result.map fun body ↦
        .mk (some ⟨1, 1, ⟨0, source.length⟩, String.ofList source.text⟩)
          (.program (some body))⟩) ∧
    (source.text = [] → program source root =
      ⟨[], .ok (.mk (some ⟨1, 1, ⟨0, 0⟩, ""⟩) (.program none))⟩) := by
  constructor
  · intro hsource
    exact program_eq_map hsource root
  · intro hempty
    rw [program, if_pos (List.isEmpty_iff.2 hempty)]
    rfl

def lineText : Source := ⟨['n', 'u', 'l', 'l', '\n'], Source.unnamed⟩

/-- A block that starts after the end of the text, on the empty last line, and ends before it
starts. -/
def strayBlock : Tree.Block Tree :=
  ⟨some ⟨⟨1, 7⟩, ⟨0, 9⟩⟩, [.null (some ⟨⟨0, 0⟩, ⟨0, 3⟩⟩)]⟩

def strayBody : Node :=
  .mk (some ⟨2, 8, ⟨0, 5⟩, "null\n"⟩) (.block [.mk (some ⟨1, 1, ⟨0, 4⟩, "null"⟩) .null])

/-- The block is clamped, the root around it is not; on the empty text the same block is not
converted at all. -/
theorem program_covers_source_stray_block :
    programBody lineText strayBlock = ⟨[⟨⟨1, 7⟩, ⟨0, 9⟩⟩], .ok strayBody⟩ ∧
      program lineText strayBlock = ⟨[⟨⟨1, 7⟩, ⟨0, 9⟩⟩],
        .ok (.mk (some ⟨1, 1, ⟨0, 5⟩, "null\n"⟩) (.program (some strayBody)))⟩ ∧
      program ⟨[], Source.unnamed⟩ strayBlock =
        ⟨[], .ok (.mk (some ⟨1, 1, ⟨0, 0⟩, ""⟩) (.program none))⟩ := by
  have hbody : programBody lineText strayBlock = ⟨[⟨⟨1, 7⟩, ⟨0, 9⟩⟩], .ok strayBody⟩ := by rfl
  have hline := (program_covers_source lineText strayBlock).1 (by decide)
  have hempty := (program_covers_source ⟨[], Source.unnamed⟩ strayBlock).2 rfl
  rw [hbody] at hline
  exact ⟨hbody, hline, hempty⟩

/-! ### Places and children -/

/-- **The place of every located node of the output fits the source**, however the tree was
located. -/
theorem output_place_fits {source : Source} {node n : Node} {place : Place}
    (h : Output source node) (hn : node.Reaches n) (hplace : place ∈ n.place) :
    place.Fits source :=
  (h.built.of_reaches hn).fits place hplace

def twoLines : Source := ⟨['i', 'f', '\n', 'n', 'u', 'l', 'l'], Source.unnamed⟩

/-- A block that runs backwards, from a column after the end of the second line to a column that the
first line does not have, around a word whose location leaves the text. -/
def backwards : Tree.Block Tree :=
  ⟨some ⟨⟨1, 7⟩, ⟨0, 9⟩⟩, [.null (some ⟨⟨1, 0⟩, ⟨1, 5⟩⟩)]⟩

def backwardsBlock : Node :=
  .mk (some ⟨2, 8, ⟨3, 7⟩, "null"⟩) (.block [.mk (some ⟨2, 1, ⟨3, 7⟩, "null"⟩) .null])

def backwardsOutput : Node :=
  .mk (some ⟨1, 1, ⟨0, 7⟩, "if\nnull"⟩) (.program (some backwardsBlock))

theorem output_place_fits_backwards :
    (program twoLines backwards).result = .ok backwardsOutput ∧
      backwardsOutput.Reaches backwardsBlock ∧
      (⟨2, 8, ⟨3, 7⟩, "null"⟩ : Place).Fits twoLines := by
  have hresult : (program twoLines backwards).result = .ok backwardsOutput := by rfl
  have hblock : backwardsOutput.Reaches backwardsBlock :=
    .head (List.mem_singleton_self _) (.refl _)
  exact ⟨hresult, hblock, output_place_fits (.program hresult) hblock rfl⟩

/-- **Every located node of the output contains its located children**, in whichever field it holds
them. -/
theorem output_contains_child {source : Source} {node n c : Node} {r q : Range}
    (h : Output source node) (hn : node.Reaches n) (hr : r ∈ n.range?) (hc : c ∈ n.children)
    (hq : q ∈ c.range?) : r.Contains q :=
  (h.built.of_reaches hn).contains_child hr hc hq

def classText : Source :=
  ⟨['c', 'l', 'a', 's', 's', ' ', 'n', 'u', 'l', 'l', '\n',
    ' ', 'n', 'u', 'l', 'l', ':', ' ', '=', '>'], Source.unnamed⟩

/-- A class that runs backwards, with a body that has no location and one bound member. -/
def classTree : Tree :=
  .classNode (some ⟨⟨0, 6⟩, ⟨0, 2⟩⟩) (some (.null (some ⟨⟨0, 6⟩, ⟨0, 9⟩⟩))) none
    (some ⟨none, [.value none (.obj none [.assign (some ⟨⟨1, 1⟩, ⟨1, 40⟩⟩)
      (.null (some ⟨⟨1, 1⟩, ⟨1, 4⟩⟩)) (.code (some ⟨⟨1, 7⟩, ⟨1, 8⟩⟩) [] none true) none]) []]⟩)

def classTitle : Node := .mk (some ⟨1, 7, ⟨6, 10⟩, "null"⟩) .null

def classMember : Node :=
  .mk (some ⟨2, 2, ⟨12, 20⟩, "null: =>"⟩) (.classProtoAssign
    (.mk (some ⟨2, 2, ⟨12, 16⟩, "null"⟩) .null)
    (.mk (some ⟨2, 8, ⟨18, 20⟩, "=>"⟩) (.function true none [])))

def classOutput : Node :=
  .mk (some ⟨1, 7, ⟨6, 20⟩, "null\n null: =>"⟩) (.classDefinition (some classTitle)
    (some classTitle) (some (.mk none (.block [classMember]))) [classMember] none none)

/-- The body is virtual, but the class holds its bound member a second time, under a name of its
own, and so it contains the member nevertheless. -/
theorem output_contains_child_bound_member :
    (node? classText [] classTree).result = .ok (some classOutput) ∧
      classMember ∈ classOutput.children ∧ (⟨6, 20⟩ : Range).Contains ⟨12, 20⟩ := by
  have hmember : classMember ∈ classOutput.children :=
    List.mem_cons_of_mem _ (List.mem_cons_of_mem _ (List.mem_cons_of_mem _ List.mem_cons_self))
  have hresult : (node? classText [] classTree).result = .ok (some classOutput) := by rfl
  exact ⟨hresult, hmember, output_contains_child (.node hresult) (.refl _) rfl hmember rfl⟩

/-! ### Through virtual nodes -/

/-- **What a node contains of the located nodes below it.** Let `a` be the nearest located node
above `m`. Some location places `a`; take any that does. If `m` is a child of `a`, then `a` contains
it. In general `a` contains it exactly when, on each side, the location or a located child of `a`
reaches as far as `m` does. The virtual nodes between the two play no part. -/
theorem output_contains_nearest_iff {source : Source} {node a : Node} {place : Place}
    (h : Output source node) (ha : node.Reaches a) (hplace : place ∈ a.place) :
    (∃ loc first last, (Node.build source (some loc) a.shape).result = .ok a ∧
      source.offset loc.first.line loc.first.column = .ok first ∧
      source.offset loc.last.line loc.last.column = .ok last) ∧
    ∀ (loc : Location) (first last : Int), (Node.build source (some loc) a.shape).result = .ok a →
      source.offset loc.first.line loc.first.column = .ok first →
      source.offset loc.last.line loc.last.column = .ok last →
      ∀ m q, a.NearestLocated m → q ∈ m.range? →
        (m ∈ a.children → place.range.Contains q) ∧
        (place.range.Contains q ↔
          (min first source.length ≤ q.start ∨
            ∃ c ∈ a.children, ∃ r ∈ c.range?, r.start ≤ q.start) ∧
          (q.stop ≤ max (last + 1) place.range.start ∨
            ∃ c ∈ a.children, ∃ r ∈ c.range?, q.stop ≤ r.stop)) := by
  have hbuilt : a.Built source := h.built.of_reaches ha
  constructor
  · obtain ⟨loc, hloc⟩ := hbuilt.exists_build hplace
    obtain ⟨first, last, hfirst, hlast⟩ := Node.exists_offsets_of_build hloc
    exact ⟨loc, first, last, hloc, hfirst, hlast⟩
  · -- The place is decided by the location and the children; how far below the part stands does not
    -- matter.
    intro loc first last hloc hfirst hlast m q hm hq
    obtain ⟨part, hpart, rfl⟩ := Node.mem_range?_iff.1 hq
    have hlength := ((hbuilt.of_reaches hm.reaches).fits part hpart).stop_le_length
    have hrange : place.range ∈ a.range? := Node.mem_range?_iff.2 ⟨place, hplace, rfl⟩
    exact ⟨fun hc ↦ hbuilt.contains_child hrange hc hq,
      hbuilt.contains_iff hplace hloc hfirst hlast hlength⟩

def unlessText : Source :=
  ⟨['n', 'u', 'l', 'l', ' ', 'u', 'n', 'l', 'e', 's', 's', ' ', 'n', 'u', 'l', 'l'],
    Source.unnamed⟩

/-- An `unless` whose location stops before its condition. -/
def unlessTree : Tree.Block Tree :=
  ⟨some ⟨⟨0, 0⟩, ⟨0, 15⟩⟩, [.ifNode (some ⟨⟨0, 0⟩, ⟨0, 3⟩⟩)
    (.op (some ⟨⟨0, 0⟩, ⟨0, 3⟩⟩) "!" (.null (some ⟨⟨0, 12⟩, ⟨0, 15⟩⟩)) none)
    ⟨some ⟨⟨0, 0⟩, ⟨0, 3⟩⟩, [.null (some ⟨⟨0, 0⟩, ⟨0, 3⟩⟩)]⟩ none]⟩

def unlessOperand : Node := .mk (some ⟨1, 13, ⟨12, 16⟩, "null"⟩) .null

def unlessNode : Node :=
  .mk (some ⟨1, 1, ⟨0, 4⟩, "null"⟩) (.conditional (.mk none (.unary .not unlessOperand))
    (some (.mk (some ⟨1, 1, ⟨0, 4⟩, "null"⟩)
      (.block [.mk (some ⟨1, 1, ⟨0, 4⟩, "null"⟩) .null]))) none)

def unlessOutput : Node :=
  .mk (some ⟨1, 1, ⟨0, 16⟩, "null unless null"⟩) (.program (some
    (.mk (some ⟨1, 1, ⟨0, 16⟩, "null unless null"⟩) (.block [unlessNode]))))

theorem program_unlessTree : (program unlessText unlessTree).result = .ok unlessOutput := by
  rfl

theorem unlessOutput_reaches : unlessOutput.Reaches unlessNode :=
  .head (List.mem_singleton_self _) (.head (List.mem_singleton_self _) (.refl _))

theorem unlessNode_nearestLocated : unlessNode.NearestLocated unlessOperand := by
  refine ⟨⟨_, rfl⟩, .mk none (.unary .not unlessOperand), List.mem_cons_self, ?_⟩
  exact .through rfl (List.mem_singleton_self _) (.located rfl)

/-- Neither the location of the statement nor one of its located children reaches the operand, so
the statement does not contain it. -/
theorem output_contains_nearest_iff_unless :
    (program unlessText unlessTree).result = .ok unlessOutput ∧
      unlessOutput.Reaches unlessNode ∧ unlessNode.NearestLocated unlessOperand ∧
      ((⟨0, 4⟩ : Range).Contains ⟨12, 16⟩ ↔
        (min 0 unlessText.length ≤ (12 : Int) ∨
          ∃ c ∈ unlessNode.children, ∃ r ∈ c.range?, r.start ≤ 12) ∧
        (16 ≤ max (3 + 1) (0 : Int) ∨
          ∃ c ∈ unlessNode.children, ∃ r ∈ c.range?, 16 ≤ r.stop)) := by
  refine ⟨program_unlessTree, unlessOutput_reaches, unlessNode_nearestLocated, ?_⟩
  have hiff := output_contains_nearest_iff (.program program_unlessTree) unlessOutput_reaches rfl
  exact (hiff.2 ⟨⟨0, 0⟩, ⟨0, 3⟩⟩ 0 3 (by rfl) (by rfl) (by rfl) unlessOperand ⟨12, 16⟩
    unlessNode_nearestLocated rfl).2

/-- **Containment does not pass through virtual nodes.** -/
theorem not_forall_contains_nearest :
    ¬ ∀ (source : Source) (node a m : Node) (r q : Range), Output source node →
      node.Reaches a → a.NearestLocated m → r ∈ a.range? → q ∈ m.range? → r.Contains q := by
  intro h
  have hcontains : (⟨0, 4⟩ : Range).Contains ⟨12, 16⟩ :=
    h unlessText unlessOutput unlessNode unlessOperand ⟨0, 4⟩ ⟨12, 16⟩
      (.program program_unlessTree) unlessOutput_reaches unlessNode_nearestLocated rfl rfl
  exact absurd hcontains (by decide)

end Convert

end CoffeeTree
