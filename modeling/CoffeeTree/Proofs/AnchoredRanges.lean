import CoffeeTree.Proofs.Nearest
import CoffeeTree.Proofs.Visited

/-!
# Anchors end up in the ranges

The parse tree leaves out the bracket that closes an index and the word before a case. The converter
looks for both in the text, and the expanded location places the node. The range of the node then
takes the anchor in: an access by an index goes through the first `]` after its location
(`Place.EndsThrough`), and a case starts no later than the last `when ` up to the start of its
location (`Place.StartsThrough`).

That the text of the node also ends, or starts, with the anchor needs more, as a range is widened by
the parts and cut to the text: no part may reach further than the anchor does, and the other end of
the range has to leave room for it.

This is a fact about one building step (`Node.exists_endsThrough`, `Node.exists_startsThrough`). The
rest finds that step: the accesses of a value are a fold, so every one of them ends what the value
with fewer accesses becomes (`Convert.accesses_append`), and the cases of a switch are converted one
by one.
-/

namespace CoffeeTree

namespace Source

variable {s : Source} {pattern : List Char} {start stop i : Nat}

/-- A slice that stops behind an occurrence ends with it. -/
theorem isSuffix_slice (h : Text.OccursAt pattern s.text i) (hstart : start ≤ i) :
    pattern <:+ s.slice start (i + pattern.length) := by
  obtain ⟨before, after, rfl, htext⟩ := h
  have hslice : s.slice start (before.length + pattern.length) =
      before.drop start ++ pattern := by
    rw [slice, htext, ← List.append_assoc, ← List.length_append, List.take_left,
      List.drop_append_of_le_length hstart]
  rw [hslice]
  exact List.suffix_append _ _

/-- A slice that starts at an occurrence, and is long enough, starts with it. -/
theorem isPrefix_slice (h : Text.OccursAt pattern s.text i) (hstop : i + pattern.length ≤ stop) :
    pattern <+: s.slice i stop := by
  obtain ⟨before, after, rfl, htext⟩ := h
  rw [slice, List.drop_take, htext, List.drop_left]
  exact List.prefix_take_iff.2 ⟨List.prefix_append _ _, by omega⟩

end Source

namespace Location

variable {s : Source} {anchor : String} {loc wider : Location}

/-- An expansion that succeeds has found the nearest anchor to the right. -/
theorem exists_isLeast_of_expandRight (h : expandRight s anchor loc = .ok wider) :
    ∃ e found : Nat, s.offset loc.last.line loc.last.column = .ok (e : Int) ∧
      IsLeast (s.placesFrom anchor (e + 1)) found ∧
      wider = ⟨loc.first, Text.positionAt s.text (found + anchor.length - 1)⟩ := by
  obtain ⟨stop, -, hstop, -, -⟩ := expandRight_eq_ok_iff.1 h
  obtain ⟨e, rfl⟩ := Int.eq_ofNat_of_zero_le (Source.offset_nonneg hstop)
  obtain ⟨found, hfound, hwider⟩ := (expandRight_eq_ok_iff_isLeast hstop).1 h
  exact ⟨e, found, hstop, hfound, hwider⟩

/-- The same to the left. -/
theorem exists_isGreatest_of_expandLeft (h : expandLeft s anchor loc = .ok wider) :
    ∃ b found : Nat, s.offset loc.first.line loc.first.column = .ok (b : Int) ∧
      IsGreatest (s.placesUpTo anchor b) found ∧
      wider = ⟨Text.positionAt s.text found, loc.last⟩ := by
  obtain ⟨start, -, hstart, -, -⟩ := expandLeft_eq_ok_iff.1 h
  obtain ⟨b, rfl⟩ := Int.eq_ofNat_of_zero_le (Source.offset_nonneg hstart)
  obtain ⟨found, hfound, hwider⟩ := (expandLeft_eq_ok_iff_isGreatest hstart).1 h
  exact ⟨b, found, hstart, hfound, hwider⟩

end Location

/-! ### One building step -/

namespace Range

variable {r : Range} {length : Nat} {x : Int}

theorem le_clamp_stop (hstop : x ≤ r.stop) (hx : x ≤ length) : x ≤ (r.clamp length).stop := by
  rw [clamp_stop]
  omega

/-- Clamping keeps an end that lies in the source. -/
theorem clamp_stop_eq (hstart : (r.clamp length).start ≤ r.stop) (hstop : r.stop ≤ length) :
    (r.clamp length).stop = r.stop := by
  rw [clamp_stop]
  omega

theorem clamp_start_le (hstart : r.start ≤ x) (hx : 0 ≤ x) : (r.clamp length).start ≤ x := by
  rw [clamp_start]
  omega

/-- It keeps a start that does. -/
theorem clamp_start_eq (hstart : 0 ≤ r.start) (hlength : r.start ≤ length) :
    (r.clamp length).start = r.start := by
  rw [clamp_start]
  omega

end Range

namespace Place

/-- The range goes through the first anchor after the location. The text ends with that anchor when
the range does not start behind it and no part of the node stops behind it. -/
def EndsThrough (source : Source) (anchor : String) (loc : Location) (parts : List Node)
    (place : Place) : Prop :=
  ∃ e found : Nat, source.offset loc.last.line loc.last.column = .ok (e : Int) ∧
    IsLeast (source.placesFrom anchor (e + 1)) found ∧
    (found : Int) + anchor.length ≤ place.range.stop ∧
    (place.range.start ≤ found →
      (∀ c ∈ parts, ∀ r ∈ c.range?, r.stop ≤ (found : Int) + anchor.length) →
      anchor.toList <:+ place.raw.toList)

/-- The range starts no later than the last anchor up to the start of the location. The text starts
with that anchor when no part of the node starts before it and the range does not stop inside it. -/
def StartsThrough (source : Source) (anchor : String) (loc : Location) (parts : List Node)
    (place : Place) : Prop :=
  ∃ b found : Nat, source.offset loc.first.line loc.first.column = .ok (b : Int) ∧
    IsGreatest (source.placesUpTo anchor b) found ∧
    place.range.start ≤ found ∧
    ((∀ c ∈ parts, ∀ r ∈ c.range?, (found : Int) ≤ r.start) →
      (found : Int) + anchor.length ≤ place.range.stop →
      anchor.toList <+: place.raw.toList)

end Place

namespace Node

variable {source : Source} {anchor : String} {loc wider : Location} {shape : Shape Node} {n : Node}

theorem le_start_reach_iff {own : Range} {x : Int} :
    x ≤ (reach own shape).start ↔
      x ≤ own.start ∧ ∀ c ∈ shape.children, ∀ r ∈ c.range?, x ≤ r.start := by
  rw [reach, Range.le_start_coverAll_iff, forall_mem_filterMap_range?]

/-- A node that is built at a location has the range of that location, widened and clamped. -/
theorem exists_offsets_eq_of_build (h : (build source (some loc) shape).result = .ok n) :
    ∃ first last, source.offset loc.first.line loc.first.column = .ok first ∧
      source.offset loc.last.line loc.last.column = .ok last ∧
      n = mk (some (placeOf source loc ((reach ⟨first, last + 1⟩ shape).clamp source.length)))
        shape := by
  rcases build_eq_ok_cases h with ⟨hnone, -⟩ | ⟨loc', own, hloc, hown, hn⟩
  · exact absurd hnone (by simp)
  · obtain rfl := Option.some.inj hloc
    obtain ⟨first, last, hfirst, hlast, rfl⟩ := rangeOf_eq_ok_iff.1 hown
    exact ⟨first, last, hfirst, hlast, hn⟩

/-- **A node whose location was expanded to the right goes through the anchor.** -/
theorem exists_endsThrough (hanchor : anchor ≠ "")
    (hwider : Location.expandRight source anchor loc = .ok wider)
    (h : (build source (some wider) shape).result = .ok n) :
    ∃ place, n = mk (some place) shape ∧ place.EndsThrough source anchor loc shape.children := by
  obtain ⟨e, found, hend, hfound, rfl⟩ := Location.exists_isLeast_of_expandRight hwider
  obtain ⟨first, last, -, hlast, hn⟩ := exists_offsets_eq_of_build h
  have hlength : 0 < anchor.length := Nat.pos_of_ne_zero (mt String.length_eq_zero_iff.1 hanchor)
  have hinside : found + anchor.toList.length ≤ source.length := hfound.1.2.length_le
  rw [String.length_toList] at hinside
  have hstop : last + 1 = (found : Int) + anchor.length := by
    have := Except.ok.inj ((source.offset_positionAt _).symm.trans hlast)
    omega
  rw [hstop] at hn
  have hreach : (found : Int) + anchor.length ≤
      (reach ⟨first, (found : Int) + anchor.length⟩ shape).stop :=
    le_stop_reach_iff.2 (.inl (Int.le_refl _))
  refine ⟨_, hn, e, found, hend, hfound, Range.le_clamp_stop hreach (by omega),
    fun hstart hparts ↦ ?_⟩
  -- Nothing goes further than the anchor, so the range stops right behind it.
  have hreach : (reach ⟨first, (found : Int) + anchor.length⟩ shape).stop =
      (found : Int) + anchor.length :=
    Int.le_antisymm (stop_reach_le_iff.2 ⟨Int.le_refl _, hparts⟩) hreach
  have hstart : (Range.clamp _ _).start ≤ (found : Int) := hstart
  show _ <:+ (String.ofList (source.slice (Range.clamp _ _).start.toNat
    (Range.clamp _ _).stop.toNat)).toList
  rw [String.toList_ofList, Range.clamp_stop_eq (by omega) (by omega), hreach,
    ← String.length_toList]
  exact Source.isSuffix_slice hfound.1.2 (Int.toNat_le.2 hstart)

/-- **A node whose location was expanded to the left takes the anchor in.** -/
theorem exists_startsThrough
    (hwider : Location.expandLeft source anchor loc = .ok wider)
    (h : (build source (some wider) shape).result = .ok n) :
    ∃ place, n = mk (some place) shape ∧
      place.StartsThrough source anchor loc shape.children := by
  obtain ⟨b, found, hbegin, hfound, rfl⟩ := Location.exists_isGreatest_of_expandLeft hwider
  obtain ⟨first, last, hfirst, -, hn⟩ := exists_offsets_eq_of_build h
  have hinside : found + anchor.toList.length ≤ source.length := hfound.1.2.length_le
  obtain rfl := Except.ok.inj ((source.offset_positionAt found).symm.trans hfirst)
  have hreach : (reach ⟨found, last + 1⟩ shape).start ≤ found :=
    start_reach_le_iff.2 (.inl (Int.le_refl _))
  refine ⟨_, hn, b, found, hbegin, hfound, Range.clamp_start_le hreach (by omega),
    fun hparts hstop ↦ ?_⟩
  -- Nothing starts before the anchor, so the range starts at it.
  have hreach : (reach ⟨found, last + 1⟩ shape).start = found :=
    Int.le_antisymm hreach (le_start_reach_iff.2 ⟨Int.le_refl _, hparts⟩)
  have hstop : (found : Int) + anchor.length ≤ (Range.clamp _ _).stop := hstop
  rw [← String.length_toList] at hstop
  show _ <+: (String.ofList (source.slice (Range.clamp _ _).start.toNat
    (Range.clamp _ _).stop.toNat)).toList
  rw [String.toList_ofList, Range.clamp_start_eq (by omega) (by omega), hreach, Int.toNat_natCast]
  exact Source.isPrefix_slice hfound.1.2 (by omega)

end Node

namespace Convert

variable {source : Source} {ancestors : List String}

/-! ### The step of an access and of a case -/

/-- An expansion that succeeds gives a location. -/
theorem exists_of_expand {f : Location → Except AnchorError Location} {loc : Location}
    {location : Option Location} (h : (expand f (some loc)).result = .ok location) :
    ∃ wider, f loc = .ok wider ∧ location = some wider := by
  obtain ⟨wider, hwider, hlocation⟩ := Traced.result_bind_eq_ok.1 h
  refine ⟨wider, ?_, (Except.ok.inj hlocation).symm⟩
  cases hf : f loc with
  | error e =>
    rw [hf] at hwider
    have hfail : Except.error (ConversionError.ofAnchor e) = Except.ok wider := hwider
    exact absurd hfail (by simp)
  | ok found =>
    rw [hf] at hwider
    rw [Except.ok.inj hwider]

/-- Accesses are a fold over what is accessed. -/
theorem accesses_append (base : Option Location) (expression : Node) (before after : List Tree) :
    accesses source ancestors base expression (before ++ after) =
      accesses source ancestors base expression before >>= fun node ↦
        accesses source ancestors base node after := by
  induction before generalizing expression with
  | nil => rfl
  | cons t rest ih =>
    cases t with
    | access location name =>
      rw [List.cons_append, accesses_access, accesses_access, Traced.bind_assoc]
      simp only [ih]
    | index location i =>
      rw [List.cons_append, accesses_index, accesses_index]
      simp only [Traced.bind_assoc, ih]
    | _ => rfl

/-- What the accesses up to an index become: the part before it, the index, and the node that is
built from the two. -/
theorem exists_of_accesses {base : Option Location} {start n : Node} {properties : List Tree}
    (h : (accesses source ancestors base start properties).result = .ok n) {k : Nat}
    {inner : Option Location} {i : Tree} (hk : properties[k]? = some (.index inner i)) :
    ∃ wider expression indexing node,
      (expand (Location.expandRight source "]") (Extent.hull [base, inner])).result = .ok wider ∧
      (accesses source ancestors base start (properties.take k)).result = .ok expression ∧
      (expr source (ancestors ++ ["Index"]) i).result = .ok indexing ∧
      (Node.build source wider (.dynamicMemberAccess expression indexing)).result = .ok node ∧
      (accesses source ancestors base start (properties.take (k + 1))).result = .ok node ∧
      n.Reaches node := by
  -- The run is split at the index: what comes before it, the index itself, what follows.
  obtain ⟨hlt, hget⟩ := List.getElem?_eq_some_iff.1 hk
  rw [← List.take_append_drop k properties, List.drop_eq_getElem_cons hlt, hget,
    accesses_append] at h
  obtain ⟨expression, hbefore, h⟩ := Traced.result_bind_eq_ok.1 h
  obtain ⟨wider, hwider, h⟩ := Traced.result_bind_eq_ok.1 h
  obtain ⟨indexing, hindexing, h⟩ := Traced.result_bind_eq_ok.1 h
  obtain ⟨node, hnode, h⟩ := Traced.result_bind_eq_ok.1 h
  refine ⟨wider, expression, indexing, node, hwider, hbefore, hindexing, hnode, ?_,
    reaches_of_accesses h⟩
  rw [List.take_add_one, hk, Option.toList_some, accesses_append]
  refine Traced.result_bind_eq_ok.2 ⟨expression, hbefore, ?_⟩
  exact Traced.result_bind_eq_ok.2 ⟨wider, hwider, Traced.result_bind_eq_ok.2
    ⟨indexing, hindexing, Traced.result_bind_eq_ok.2 ⟨node, hnode, rfl⟩⟩⟩

/-- Each case is built by a step of its own, found by its index. -/
theorem exists_of_switchCases {cases : List (Tree.Case Tree)} {branches : List Node}
    (h : (switchCases source ancestors cases).result = .ok branches) {k : Nat}
    {case : Tree.Case Tree} (hk : cases[k]? = some case) :
    ∃ wider conditions consequent node,
      (expand (Location.expandLeft source "when ")
        (Extent.hull (case.conditions.toList.map (·.location) ++ [case.body.location]))).result =
          .ok wider ∧
      (tests source ancestors case.conditions).result = .ok conditions ∧
      (block? source ancestors case.body).result = .ok consequent ∧
      (Node.build source wider (.switchCase conditions consequent)).result = .ok node ∧
      branches[k]? = some node := by
  induction cases generalizing k branches with
  | nil => exact absurd hk (by simp)
  | cons first rest ih =>
    obtain ⟨wider, hwider, h⟩ := Traced.result_bind_eq_ok.1 h
    obtain ⟨conditions, hconditions, h⟩ := Traced.result_bind_eq_ok.1 h
    obtain ⟨consequent, hconsequent, h⟩ := Traced.result_bind_eq_ok.1 h
    obtain ⟨node, hnode, h⟩ := Traced.result_bind_eq_ok.1 h
    obtain ⟨nodes, hnodes, h⟩ := Traced.result_bind_eq_ok.1 h
    obtain rfl := Except.ok.inj h
    -- Every case takes its own step, so the index of the case is that of its node.
    rcases k with _ | k
    · obtain rfl := Option.some.inj hk
      exact ⟨wider, conditions, consequent, node, hwider, hconditions, hconsequent, hnode, rfl⟩
    · exact ih hnodes hk

/-! ### Every index and every case -/

/-- Let the access at `k` of a value be an index. In the output there is an access that ends what
the value becomes with its accesses up to `k`. It is located, and its range goes through the bracket
after the hull of the base and the index. -/
def IndexAnchored (source : Source) (output : Node) (location : Option Location) (base : Tree)
    (properties : List Tree) (k : Nat) (inner : Option Location) (i : Tree) : Prop :=
  ∃ loc ancestors expression indexing n place,
    Extent.hull [base.location, inner] = some loc ∧
    (expr source ancestors (.value location base (properties.take k))).result = .ok expression ∧
    (expr source (ancestors ++ ["Value"] ++ ["Index"]) i).result = .ok indexing ∧
    (expr source ancestors (.value location base (properties.take (k + 1)))).result = .ok n ∧
    n = .mk (some place) (.dynamicMemberAccess expression indexing) ∧ output.Reaches n ∧
    place.EndsThrough source "]" loc [expression, indexing]

/-- Let a switch have a case at `k`. In the output there is what the switch becomes, and its branch
at `k` is what that case becomes. It is located, and its range starts no later than the word before
the hull of the conditions and the body. -/
def CaseAnchored (source : Source) (output : Node) (location : Option Location)
    (subject : Option Tree) (cases : List (Tree.Case Tree)) (otherwise : Option (Tree.Block Tree))
    (k : Nat) (case : Tree.Case Tree) : Prop :=
  ∃ loc ancestors n expression branches alternate conditions consequent place,
    Extent.hull (case.conditions.toList.map (·.location) ++ [case.body.location]) = some loc ∧
    (expr source ancestors (.switch location subject cases otherwise)).result = .ok n ∧
    n.shape = .switch expression branches alternate ∧ output.Reaches n ∧
    (tests source (ancestors ++ ["Switch"]) case.conditions).result = .ok conditions ∧
    (block? source (ancestors ++ ["Switch"]) case.body).result = .ok consequent ∧
    branches[k]? = some (.mk (some place) (.switchCase conditions consequent)) ∧
    place.StartsThrough source "when " loc (conditions ++ consequent.toList)

/-- A value is converted if its base is, and then its accesses. -/
theorem expr_value_eq_ok_iff {location : Option Location} {base : Tree} {properties : List Tree}
    {n : Node} :
    (expr source ancestors (.value location base properties)).result = .ok n ↔
      ∃ start, (expr source (ancestors ++ ["Value"]) base).result = .ok start ∧
        (accesses source (ancestors ++ ["Value"]) base.location start properties).result =
          .ok n := by
  rw [expr_value]
  exact Traced.result_bind_eq_ok

/-- An index that was converted ends at its bracket. -/
theorem indexAnchored {tree : Tree} {output : Node} (h : Becomes source tree output)
    {location : Option Location} {base : Tree} {properties : List Tree}
    (hvalue : tree.Converts (.value location base properties)) {k : Nat}
    {inner : Option Location} {i : Tree} (hk : properties[k]? = some (.index inner i))
    {loc : Location} (hloc : Extent.hull [base.location, inner] = some loc) :
    IndexAnchored source output location base properties k inner i := by
  obtain ⟨ancestors, whole, hwhole, hstays⟩ := exists_of_converts h hvalue
  obtain ⟨start, hstart, haccesses⟩ := expr_value_eq_ok_iff.1 hwhole
  obtain ⟨wider, expression, indexing, n, hwider, hbefore, hindexing, hn, hthrough, hreaches⟩ :=
    exists_of_accesses haccesses hk
  rw [hloc] at hwider
  obtain ⟨wider, hexpand, rfl⟩ := exists_of_expand hwider
  obtain ⟨place, hplace, hends⟩ := Node.exists_endsThrough (by decide) hexpand hn
  refine ⟨loc, ancestors, expression, indexing, n, place, hloc,
    expr_value_eq_ok_iff.2 ⟨start, hstart, hbefore⟩, hindexing,
    expr_value_eq_ok_iff.2 ⟨start, hstart, hthrough⟩, hplace, ?_, hends⟩
  rcases hstays.of_reaches hreaches with hmem | hname
  · exact hmem
  · rw [hplace] at hname
    exact absurd hname Bool.false_ne_true

/-- A case that was converted starts at its word. -/
theorem caseAnchored {tree : Tree} {output : Node} (h : Becomes source tree output)
    {location : Option Location} {subject : Option Tree} {cases : List (Tree.Case Tree)}
    {otherwise : Option (Tree.Block Tree)}
    (hswitch : tree.Converts (.switch location subject cases otherwise)) {k : Nat}
    {case : Tree.Case Tree} (hk : cases[k]? = some case) {loc : Location}
    (hloc : Extent.hull (case.conditions.toList.map (·.location) ++ [case.body.location]) =
      some loc) :
    CaseAnchored source output location subject cases otherwise k case := by
  obtain ⟨ancestors, n, hn, hstays⟩ := exists_of_converts h hswitch
  have hsteps := hn
  rw [expr_switch] at hsteps
  obtain ⟨branches, hbranches, hsteps⟩ := Traced.result_bind_eq_ok.1 hsteps
  obtain ⟨expression, -, hsteps⟩ := Traced.result_bind_eq_ok.1 hsteps
  obtain ⟨alternate, -, hbuild⟩ := Traced.result_bind_eq_ok.1 hsteps
  have hshape := Node.shape_of_build hbuild
  obtain ⟨wider, conditions, consequent, node, hwider, hconditions, hconsequent, hnode, hget⟩ :=
    exists_of_switchCases hbranches hk
  rw [hloc] at hwider
  obtain ⟨wider, hexpand, rfl⟩ := exists_of_expand hwider
  obtain ⟨place, rfl, hstarts⟩ := Node.exists_startsThrough hexpand hnode
  refine ⟨loc, ancestors, n, expression, branches, alternate, conditions, consequent, place, hloc,
    hn, hshape, ?_, hconditions, hconsequent, hget, ?_⟩
  · -- Only the name of a constructor may be left out of the output, and a switch is none.
    rcases hstays with hreaches | hname
    · exact hreaches
    · rw [hshape] at hname
      exact absurd hname Bool.false_ne_true
  · simpa [Shape.children, Shape.fields, Field.parts] using hstarts

/-- **Anchors end up in the ranges.** Let a tree become an output.

* For every index among the accesses of a value that is converted, if the base or the index is
  located, then the access that it becomes goes through the first `]` after them.
* For every case of a switch that is converted, if a condition or the body is located, then the
  case that it becomes starts no later than the last `when ` up to them. -/
theorem anchors_in_ranges {tree : Tree} {output : Node} (h : Becomes source tree output) :
    (∀ location base properties, tree.Converts (.value location base properties) →
      ∀ k inner i, properties[k]? = some (.index inner i) →
        (base.location ≠ none ∨ inner ≠ none) →
        IndexAnchored source output location base properties k inner i) ∧
    ∀ location subject cases otherwise,
      tree.Converts (.switch location subject cases otherwise) →
      ∀ k case, cases[k]? = some case →
        ((∃ t ∈ case.conditions.toList, t.location ≠ none) ∨ case.body.location ≠ none) →
        CaseAnchored source output location subject cases otherwise k case := by
  constructor
  · intro location base properties hvalue k inner i hk hlocated
    -- There is something to expand if one of the two is located.
    have hsome : Extent.hull [base.location, inner] ≠ none := by
      rw [Ne, Extent.hull_eq_none_iff, List.forall_mem_cons, List.forall_mem_singleton]
      exact not_and_or.2 hlocated
    obtain ⟨loc, hloc⟩ := Option.ne_none_iff_exists'.1 hsome
    exact indexAnchored h hvalue hk hloc
  · intro location subject cases otherwise hswitch k case hk hlocated
    have hsome : Extent.hull
        (case.conditions.toList.map (·.location) ++ [case.body.location]) ≠ none := by
      rw [Ne, Extent.hull_eq_none_iff, List.forall_mem_append, List.forall_mem_map,
        List.forall_mem_singleton]
      refine not_and_or.2 (hlocated.imp_left ?_)
      rintro ⟨t, ht, hne⟩ hall
      exact hne (hall t ht)
    obtain ⟨loc, hloc⟩ := Option.ne_none_iff_exists'.1 hsome
    exact caseAnchored h hswitch hk hloc

/-- A switch over a value with two indexes, and one case on a line of its own. -/
def chainedSwitch : Source :=
  ⟨['s', 'w', 'i', 't', 'c', 'h', ' ', 'n', 'u', 'l', 'l', '[', 'n', 'u', 'l', 'l', ']',
    '[', 'n', 'u', 'l', 'l', ']', '\n', ' ', ' ', 'w', 'h', 'e', 'n', ' ', 'n', 'u', 'l', 'l',
    ' ', 't', 'h', 'e', 'n', ' ', 'n', 'u', 'l', 'l'], Source.unnamed⟩

def chainedBase : Tree := .null (some ⟨⟨0, 7⟩, ⟨0, 10⟩⟩)

def lastIndex : Tree := .null (some ⟨⟨0, 18⟩, ⟨0, 21⟩⟩)

/-- The indexes are located without their brackets. -/
def chainedIndexes : List Tree :=
  [.index (some ⟨⟨0, 12⟩, ⟨0, 15⟩⟩) (.null (some ⟨⟨0, 12⟩, ⟨0, 15⟩⟩)),
    .index (some ⟨⟨0, 18⟩, ⟨0, 21⟩⟩) lastIndex]

def chainedValue : Tree := .value (some ⟨⟨0, 7⟩, ⟨0, 22⟩⟩) chainedBase chainedIndexes

def onlyCase : Tree.Case Tree :=
  ⟨.one (.null (some ⟨⟨1, 7⟩, ⟨1, 10⟩⟩)),
    ⟨some ⟨⟨1, 17⟩, ⟨1, 20⟩⟩, [.null (some ⟨⟨1, 17⟩, ⟨1, 20⟩⟩)]⟩⟩

def chainedTree : Tree :=
  .switch (some ⟨⟨0, 0⟩, ⟨1, 20⟩⟩) (some chainedValue) [onlyCase] none

theorem chainedTree_converts :
    (Tree.block ⟨none, [chainedTree]⟩).Converts chainedTree :=
  ⟨.expression, .head List.mem_cons_self .refl, rfl⟩

theorem chainedValue_converts :
    (Tree.block ⟨none, [chainedTree]⟩).Converts chainedValue :=
  ⟨.expression, .head List.mem_cons_self (.head List.mem_cons_self .refl), rfl⟩

/-- The second index goes through the second bracket, and the case goes back to its word. -/
theorem anchors_in_ranges_chained :
    ∃ output, (program chainedSwitch ⟨none, [chainedTree]⟩).result = .ok output ∧
      IndexAnchored chainedSwitch output (some ⟨⟨0, 7⟩, ⟨0, 22⟩⟩) chainedBase chainedIndexes 1
        (some ⟨⟨0, 18⟩, ⟨0, 21⟩⟩) lastIndex ∧
      CaseAnchored chainedSwitch output (some ⟨⟨0, 0⟩, ⟨1, 20⟩⟩) (some chainedValue) [onlyCase]
        none 0 onlyCase := by
  obtain ⟨output, houtput⟩ :
      ∃ output, (program chainedSwitch ⟨none, [chainedTree]⟩).result = .ok output := ⟨_, rfl⟩
  obtain ⟨hindex, hcase⟩ := anchors_in_ranges (.program (List.cons_ne_nil _ _) houtput)
  refine ⟨output, houtput, ?_, ?_⟩
  · exact hindex _ _ _ chainedValue_converts 1 _ _ rfl (.inr (Option.some_ne_none _))
  · exact hcase _ _ _ _ chainedTree_converts 0 _ rfl (.inr (Option.some_ne_none _))

end Convert

end CoffeeTree
