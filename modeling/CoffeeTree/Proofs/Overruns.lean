import CoffeeTree.Proofs.Collecting

/-!
# Locations that are recorded

A location is recorded when the range of its node had to be clamped, and normalization then warns
that the location runs past the end of the source. Clamping has two reasons, and this is only one of
them. A step clamps a location that stops past the end of the text, and one that stops before it
starts if no located part stands in between (`Node.mem_events_build_iff`). So a location that is
recorded *overruns* its source or is *reversed* (`Convert.overruns_or_reversed_of_program`), and a
reversed one may well be inside.
-/

namespace CoffeeTree

namespace Source

/-- The location starts past the end of the text, or its last character does not lie in the text. -/
def Overruns (s : Source) (loc : Location) : Prop :=
  ∃ first last, s.offset loc.first.line loc.first.column = .ok first ∧
    s.offset loc.last.line loc.last.column = .ok last ∧
    ((s.length : Int) < first ∨ (s.length : Int) < last + 1)

/-- The location stops before it starts. -/
def Reversed (s : Source) (loc : Location) : Prop :=
  ∃ first last, s.offset loc.first.line loc.first.column = .ok first ∧
    s.offset loc.last.line loc.last.column = .ok last ∧ last + 1 < first

end Source

namespace Node

variable {source : Source} {loc found : Location} {shape : Shape Node}

/-- What a step records at a location whose two offsets are known. -/
theorem mem_events_build_of_offsets {first last : Int}
    (hfirst : source.offset loc.first.line loc.first.column = .ok first)
    (hlast : source.offset loc.last.line loc.last.column = .ok last)
    (hparts : ∀ c ∈ shape.children, c.Built source) :
    found ∈ (build source (some loc) shape).events ↔ found = loc ∧
      ((source.length : Int) < last + 1 ∨
        (last + 1 < first ∧ ∀ c ∈ shape.children, c.range? = none)) := by
  have hown : rangeOf source loc = .ok ⟨first, last + 1⟩ :=
    rangeOf_eq_ok_iff.2 ⟨first, last, hfirst, hlast, rfl⟩
  have hclamp : (reach ⟨first, last + 1⟩ shape).clamp source.length =
      reach ⟨first, last + 1⟩ shape ↔
        last + 1 ≤ source.length ∧ (first ≤ last + 1 ∨ ∃ c ∈ shape.children, c.range? ≠ none) :=
    clamp_reach_eq_self_iff (Source.offset_nonneg hfirst) hparts
  have hvirtual : (¬ ∃ c ∈ shape.children, c.range? ≠ none) ↔
      ∀ c ∈ shape.children, c.range? = none := by
    simp
  rw [build_some hown, List.mem_ite_nil_left, List.mem_singleton, hclamp, and_comm, not_and_or,
    not_or, Int.not_le, Int.not_le, hvirtual]

/-- **What one step records.** Its own location is recorded, if the text ends before it does or if
it is reversed and no part is located. -/
theorem mem_events_build_iff (hparts : ∀ c ∈ shape.children, c.Built source) :
    found ∈ (build source (some loc) shape).events ↔ found = loc ∧ ∃ first last,
      source.offset loc.first.line loc.first.column = .ok first ∧
      source.offset loc.last.line loc.last.column = .ok last ∧
      ((source.length : Int) < last + 1 ∨
        (last + 1 < first ∧ ∀ c ∈ shape.children, c.range? = none)) := by
  constructor
  · intro h
    cases hown : rangeOf source loc with
    | error e =>
      -- A location that the source refuses ends the step before anything is recorded.
      have hevents : (build source (some loc) shape).events = [] := by
        rw [build, hown]
        rfl
      rw [hevents] at h
      exact absurd h List.not_mem_nil
    | ok own =>
      obtain ⟨first, last, hfirst, hlast, -⟩ := rangeOf_eq_ok_iff.1 hown
      obtain ⟨heq, hclamps⟩ := (mem_events_build_of_offsets hfirst hlast hparts).1 h
      exact ⟨heq, first, last, hfirst, hlast, hclamps⟩
  · rintro ⟨heq, first, last, hfirst, hlast, hclamps⟩
    exact (mem_events_build_of_offsets hfirst hlast hparts).2 ⟨heq, hclamps⟩

/-- A step that records a location has a reason in that location. -/
theorem overruns_or_reversed_of_build (hparts : ∀ c ∈ shape.children, c.Built source)
    (h : found ∈ (build source (some loc) shape).events) :
    source.Overruns found ∨ source.Reversed found := by
  obtain ⟨rfl, first, last, hfirst, hlast, hpast | ⟨hreversed, -⟩⟩ :=
    (mem_events_build_iff hparts).1 h
  · exact .inl ⟨first, last, hfirst, hlast, .inr hpast⟩
  · exact .inr ⟨first, last, hfirst, hlast, hreversed⟩

theorem build_strays (hparts : ∀ c ∈ shape.children, c.Built source) :
    Alongside (fun loc ↦ source.Overruns loc ∨ source.Reversed loc) (fun _ _ ↦ True)
      (fun _ ↦ True) (build source (some loc) shape) (build source (some loc) shape) :=
  ⟨rfl, fun _ hfound ↦ overruns_or_reversed_of_build hparts hfound, .self _⟩

end Node

/-- A run beside itself, of which only the recorded locations matter. -/
def Parallel.strays (source : Source) : Parallel source source where
  Stands _ _ _ := True
  Admits _ := True
  Records loc := source.Overruns loc ∨ source.Reversed loc
  Fails _ _ := True
  stands_child _ _ := trivial
  admits_of_stands _ _ _ := trivial
  admits_merge _ _ := trivial
  unrecognized _ _ := trivial
  expandRight _ := .self _
  expandLeft _ := .self _
  build _ hparts := Node.build_strays hparts

namespace Convert

/-- So has every location that a conversion records. -/
theorem overruns_or_reversed_of_program {source : Source} {root : Tree.Block Tree} {loc : Location}
    (h : loc ∈ (program source root).events) : source.Overruns loc ∨ source.Reversed loc := by
  by_cases hempty : source.text = []
  · rw [program, if_pos (List.isEmpty_iff.2 hempty)] at h
    exact absurd h List.not_mem_nil
  · have hstands : (Parallel.strays source).Stands [] [] (.block root) := trivial
    have hruns := Parallel.programBody_runs hstands
    rw [program_eq_map hempty] at h
    exact hruns.records loc h

end Convert

/-- An error is reported under another code than a location that was clamped. -/
theorem ConversionError.code_ne (e : ConversionError) : e.code ≠ "CSAST1004" := by
  unfold code
  split_ifs
  · cases e with
    | unrecognized _ => exact (by decide : "CSAST1001" ≠ "CSAST1004")
    | anchorNotFound _ _ _ _ => exact (by decide : "CSAST1002" ≠ "CSAST1004")
    | outside _ => exact (by decide : "CSAST1003" ≠ "CSAST1004")
  · exact (by decide : "CSAST1003" ≠ "CSAST1004")

/-- A warning of clamping is about a location that the conversion recorded. -/
theorem exists_of_clamped_warning {names : FileNames} {text : List Char} {input : Tree.Input}
    {n : Normalization} (hn : (normalize names text input).result = .ok n) {d : Diagnostic}
    (h : d ∈ n.diagnostics) (hcode : d.code = "CSAST1004") :
    ∃ root node, input.load.result = .ok root ∧
      (Convert.program ⟨text, names.source⟩ root).result = .ok node ∧
      ∃ loc ∈ (Convert.program ⟨text, names.source⟩ root).events,
        d = Diagnostic.clamped ⟨text, names.source⟩ loc := by
  cases result_normalize_eq_iff.1 hn with
  | refused _ =>
    rw [List.mem_singleton.1 h] at hcode
    exact absurd hcode (by decide : "CSAST1003" ≠ "CSAST1004")
  | @failed root e _ _ =>
    rw [List.mem_singleton.1 h, (Diagnostic.ofConversionError_isError _ names.tree e).2] at hcode
    exact absurd hcode e.code_ne
  | @converted root node hload hresult _ =>
    obtain ⟨loc, hloc, rfl⟩ := List.mem_map.1 h
    exact ⟨root, node, hload, hresult, loc, hloc, rfl⟩

namespace Convert

/-- **What is clamped overruns its source or is reversed.** A step records its location exactly when
the text ends before the location does, or when the location stops before it starts and no part of
the node is located. So the locations that a conversion records, and those that a warning is about,
overrun the source or are reversed. -/
theorem clamped_overruns_or_reversed (source : Source) :
    (∀ (loc found : Location) (shape : Shape Node), (∀ c ∈ shape.children, c.Built source) →
      (found ∈ (Node.build source (some loc) shape).events ↔ found = loc ∧ ∃ first last,
        source.offset loc.first.line loc.first.column = .ok first ∧
        source.offset loc.last.line loc.last.column = .ok last ∧
        ((source.length : Int) < last + 1 ∨
          (last + 1 < first ∧ ∀ c ∈ shape.children, c.range? = none)))) ∧
    (∀ root, ∀ loc ∈ (program source root).events,
      source.Overruns loc ∨ source.Reversed loc) ∧
    ∀ (names : FileNames) (input : Tree.Input) (n : Normalization),
      (normalize names source.text input).result = .ok n →
      ∀ d ∈ n.diagnostics, d.code = "CSAST1004" →
        ∃ root, input.load.result = .ok root ∧ ∃ loc ∈ (program source root).events,
          (source.Overruns loc ∨ source.Reversed loc) ∧
            d = Diagnostic.clamped ⟨source.text, names.source⟩ loc := by
  refine ⟨fun loc found shape hparts ↦ Node.mem_events_build_iff hparts,
    fun root loc hloc ↦ overruns_or_reversed_of_program hloc,
    fun names input n hn d hd hcode ↦ ?_⟩
  obtain ⟨root, node, hload, -, loc, hloc, hclamped⟩ := exists_of_clamped_warning hn hd hcode
  rw [program_rename source.text names.source source.name root] at hloc
  exact ⟨root, hload, loc, hloc, overruns_or_reversed_of_program hloc, hclamped⟩

/-- From the last letter of the word back to the first. -/
def wordBack : Location := ⟨⟨0, 3⟩, ⟨0, 0⟩⟩

theorem not_overruns_wordBack : ¬ (Source.mk wordText Source.unnamed).Overruns wordBack := by
  rintro ⟨first, last, hfirst, hlast, hpast⟩
  obtain rfl : (3 : Int) = first := Except.ok.inj hfirst
  obtain rfl : (0 : Int) = last := Except.ok.inj hlast
  exact absurd hpast (by decide)

/-- The word backwards, and a word that runs past the end of the text. -/
def strayWords : Tree.Block Tree :=
  ⟨none, [.null (some wordBack), .null (some ⟨⟨0, 0⟩, ⟨0, 9⟩⟩)]⟩

/-- Both locations are recorded and have their warnings, and only one of them runs past the end. -/
theorem clamped_overruns_or_reversed_words :
    wordBack ∈ (Node.build ⟨wordText, Source.unnamed⟩ (some wordBack) .null).events ∧
      (program ⟨wordText, Source.unnamed⟩ strayWords).events =
        [wordBack, ⟨⟨0, 0⟩, ⟨0, 9⟩⟩] ∧
      (Source.mk wordText Source.unnamed).Reversed wordBack ∧
      ¬ (Source.mk wordText Source.unnamed).Overruns wordBack ∧
      ∃ n, (normalize FileNames.unnamed wordText (.loaded strayWords)).result = .ok n ∧
        ∃ d ∈ n.diagnostics, ∃ loc ∈ (program ⟨wordText, Source.unnamed⟩ strayWords).events,
          d = Diagnostic.clamped ⟨wordText, Source.unnamed⟩ loc := by
  obtain ⟨hstep, hprogram, hwarnings⟩ :=
    clamped_overruns_or_reversed ⟨wordText, Source.unnamed⟩
  have hevents : (program ⟨wordText, Source.unnamed⟩ strayWords).events =
      [wordBack, ⟨⟨0, 0⟩, ⟨0, 9⟩⟩] := by
    rfl
  have hbuild := (hstep wordBack wordBack .null fun c hc ↦ absurd hc List.not_mem_nil).2
    ⟨rfl, 3, 0, rfl, rfl, .inr ⟨by decide, fun c hc ↦ absurd hc List.not_mem_nil⟩⟩
  have hreversed : (Source.mk wordText Source.unnamed).Reversed wordBack := by
    refine (hprogram strayWords wordBack ?_).resolve_left not_overruns_wordBack
    rw [hevents]
    exact List.mem_cons_self
  have hresult : ∃ node, (program ⟨wordText, Source.unnamed⟩ strayWords).result = .ok node :=
    ⟨_, by rfl⟩
  obtain ⟨node, hnode⟩ := hresult
  have hwritable : ∀ loc ∈ (program ⟨wordText, Source.unnamed⟩ strayWords).events,
      loc.isWritable = true := by
    rw [hevents]
    decide
  have hn : (normalize FileNames.unnamed wordText (.loaded strayWords)).result = .ok _ :=
    (NormalizesTo.converted rfl hnode hwritable).result_eq
  obtain ⟨root, hload, loc, hloc, -, hclamped⟩ := hwarnings FileNames.unnamed (.loaded strayWords)
    _ hn (Diagnostic.clamped ⟨wordText, Source.unnamed⟩ wordBack)
    (List.mem_map_of_mem (hevents ▸ List.mem_cons_self)) rfl
  obtain rfl : strayWords = root := Except.ok.inj hload
  exact ⟨hbuild, hevents, hreversed, not_overruns_wordBack, _, hn, _,
    List.mem_map_of_mem (hevents ▸ List.mem_cons_self), loc, hloc, hclamped⟩

/-- What is recorded need not run past the end of its source. -/
theorem not_forall_clamped_overruns :
    ¬ ∀ (source : Source) (root : Tree.Block Tree) (node : Node),
      (program source root).result = .ok node →
        ∀ loc ∈ (program source root).events, source.Overruns loc := by
  intro hall
  obtain ⟨node, hnode⟩ : ∃ node, (program ⟨wordText, Source.unnamed⟩
      ⟨none, [.null (some wordBack)]⟩).result = .ok node := ⟨_, by rfl⟩
  exact not_overruns_wordBack (hall _ _ node hnode wordBack List.mem_cons_self)

end Convert

end CoffeeTree
