import CoffeeTree.Normalization
import CoffeeTree.Proofs.Outside
import Mathlib.Data.List.Forall2
import Mathlib.Data.List.TakeWhile

/-!
# Collecting diagnostics

To normalize a source is to load its tree and to convert it, but where one of the two steps fails,
normalization reports a diagnostic and goes on. It agrees with the two steps (`normalize_agrees`):
it has a syntax tree exactly when both succeed, with a warning for each clamped location in the
order of clamping, and otherwise it has one error, whose code tells which step failed and how. A
failed conversion may have clamped locations too, but nothing of that is left.

The steps may be run on a source of another name, since the converter looks at the text alone
(`Convert.program_rename`).
-/

namespace CoffeeTree

open CoffeeTree.Convert

/-! ### The name of a source -/

section Rename

variable {text : List Char} {name name' : String}

/-- The name of the source appears in no result and no error. -/
theorem Location.expandRight_rename (anchor : String) (loc : Location) :
    Agree (fun _ ↦ True) (fun e e' ↦ ConversionError.ofAnchor e = .ofAnchor e')
      (expandRight ⟨text, name⟩ anchor loc) (expandRight ⟨text, name'⟩ anchor loc) :=
  .refl (fun _ _ ↦ trivial) fun _ _ ↦ rfl

theorem Location.expandLeft_rename (anchor : String) (loc : Location) :
    Agree (fun _ ↦ True) (fun e e' ↦ ConversionError.ofAnchor e = .ofAnchor e')
      (expandLeft ⟨text, name⟩ anchor loc) (expandLeft ⟨text, name'⟩ anchor loc) :=
  .refl (fun _ _ ↦ trivial) fun _ _ ↦ rfl

theorem Node.build_rename (location : Option Location) (shape : Shape Node) :
    Alongside (fun _ ↦ True) (fun e e' ↦ e = e') (fun _ ↦ True)
      (build ⟨text, name⟩ location shape) (build ⟨text, name'⟩ location shape) :=
  ⟨rfl, fun _ _ ↦ trivial, .refl (fun _ _ ↦ trivial) fun _ _ ↦ rfl⟩

/-- The same run twice: below the same ancestors, with the same errors. -/
def Parallel.rename (text : List Char) (name name' : String) :
    Parallel ⟨text, name⟩ ⟨text, name'⟩ where
  Stands ancestors ancestors' _ := ancestors = ancestors'
  Admits _ := True
  Records _ := True
  Fails e e' := e = e'
  stands_child h _ := h ▸ rfl
  admits_of_stands _ _ _ := trivial
  admits_merge _ _ := trivial
  unrecognized _ h := h ▸ rfl
  expandRight _ := Location.expandRight_rename "]" _
  expandLeft _ := Location.expandLeft_rename "when " _
  build _ _ := Node.build_rename _ _

/-- Runs that go alongside with equal errors are equal. -/
theorem Alongside.eq {α : Type} {Records : Location → Prop} {Good : α → Prop}
    {c d : Conversion α} (h : Alongside Records (fun e e' ↦ e = e') Good c d) : c = d := by
  obtain ⟨events, result⟩ := c
  obtain ⟨events', result'⟩ := d
  have hevents : events = events' := h.events_eq
  have hresult : result = result' := h.results.eq fun _ _ he ↦ he
  rw [hevents, hresult]

/-- **The name of a source makes no difference to its conversion.** -/
theorem Convert.program_rename (text : List Char) (name name' : String) (root : Tree.Block Tree) :
    program ⟨text, name⟩ root = program ⟨text, name'⟩ root := by
  by_cases hempty : text = []
  · have hisEmpty := List.isEmpty_iff.2 hempty
    rw [program, program, if_pos hisEmpty, if_pos hisEmpty]
  · have hstands : (Parallel.rename text name name').Stands [] [] (.block root) := rfl
    have hbody : programBody ⟨text, name⟩ root = programBody ⟨text, name'⟩ root :=
      (Parallel.programBody_runs hstands).eq
    rw [program_eq_map hempty, program_eq_map hempty, hbody]
    rfl

end Rename

/-! ### What is collected -/

/-- The code under which a failed conversion is reported. An error that cannot be put into words has
the code of the format. -/
def ConversionError.code (e : ConversionError) : String :=
  if e.isWritable then
    match e with
    | unrecognized _ => "CSAST1001"
    | anchorNotFound _ _ _ _ => "CSAST1002"
    | outside _ => "CSAST1003"
  else "CSAST1003"

/-- A conversion error is reported as an error, under its own code. -/
theorem Diagnostic.ofConversionError_isError (source : Source) (tree : String)
    (e : ConversionError) :
    (ofConversionError source tree e).severity = .error ∧
      (ofConversionError source tree e).code = e.code := by
  unfold ofConversionError ConversionError.code
  by_cases hwritable : e.isWritable = true
  · rw [if_pos hwritable, if_pos hwritable]
    cases e with
    | unrecognized error => exact ⟨rfl, rfl⟩
    | anchorNotFound side line column anchor => exact ⟨rfl, rfl⟩
    | outside error => exact ⟨rfl, rfl⟩
  · rw [if_neg hwritable, if_neg hwritable]
    exact ⟨rfl, rfl⟩

namespace Normalization

variable {source : Source} {locations : List Location}

/-- Warnings are written in the order in which the locations were recorded. -/
theorem result_warnings_cons (source : Source) (loc : Location) (rest : List Location) :
    (warnings source (loc :: rest)).result = (do
      let first ← Diagnostic.ofClamped source loc
      let others ← (warnings source rest).result
      pure (first :: others)) := by
  rw [warnings, Diagnostic.ofClamped]
  by_cases hloc : loc.isWritable = true
  · rw [if_pos hloc]
    show (warnings source rest >>= fun others ↦ pure (_ :: others)).result =
      (warnings source rest).result >>= fun others ↦ pure (_ :: others)
    rw [Traced.bind_def, Traced.andThen]
    rcases (warnings source rest).result with e | others
    · rfl
    · rfl
  · rw [if_neg hloc]
    rfl

/-- Locations that can be written have their warnings, in order. -/
theorem result_warnings_of_writable (h : ∀ loc ∈ locations, loc.isWritable = true) :
    (warnings source locations).result = .ok (locations.map (Diagnostic.clamped source)) := by
  induction locations with
  | nil => rfl
  | cons loc rest ih =>
    obtain ⟨hloc, hrest⟩ := List.forall_mem_cons.1 h
    rw [result_warnings_cons, Diagnostic.ofClamped, if_pos hloc, ih hrest]
    rfl

/-- A location that cannot be written ends the normalization. -/
theorem result_warnings_of_not_writable (h : ∃ loc ∈ locations, loc.isWritable = false) :
    (warnings source locations).result = .error .written := by
  induction locations with
  | nil =>
    obtain ⟨loc, hloc, -⟩ := h
    exact absurd hloc List.not_mem_nil
  | cons loc rest ih =>
    rw [result_warnings_cons, Diagnostic.ofClamped]
    by_cases hloc : loc.isWritable = true
    · obtain ⟨found, hfound, hnot⟩ := h
      have hrest : found ∈ rest := by
        refine (List.mem_cons.1 hfound).resolve_left ?_
        rintro rfl
        exact absurd hloc (by simp [hnot])
      rw [if_pos hloc, ih ⟨found, hrest, hnot⟩]
      rfl
    · rw [if_neg hloc]
      rfl

end Normalization

/-- How a normalization ends, in terms of its two steps. -/
inductive NormalizesTo (names : FileNames) (text : List Char) (input : Tree.Input) :
    Except Text.LimitError Normalization → Prop where
  /-- The tree is not loaded. -/
  | refused {e : Tree.FormatError} (hload : input.load.result = .error (.format e)) :
    NormalizesTo names text input
      (.ok ⟨⟨text, names.source⟩, none, [.treeFormat names.tree e.message]⟩)
  /-- The tree is not converted. -/
  | failed {root : Tree.Block Tree} {e : ConversionError} (hload : input.load.result = .ok root)
    (hresult : (program ⟨text, names.source⟩ root).result = .error e) :
    NormalizesTo names text input
      (.ok ⟨⟨text, names.source⟩, none, [.ofConversionError ⟨text, names.source⟩ names.tree e]⟩)
  /-- There is a syntax tree, and every clamped location has its warning. -/
  | converted {root : Tree.Block Tree} {node : Node} (hload : input.load.result = .ok root)
    (hresult : (program ⟨text, names.source⟩ root).result = .ok node)
    (hwritable : ∀ loc ∈ (program ⟨text, names.source⟩ root).events, loc.isWritable = true) :
    NormalizesTo names text input (.ok ⟨⟨text, names.source⟩, some node,
      (program ⟨text, names.source⟩ root).events.map (.clamped ⟨text, names.source⟩)⟩)
  /-- A clamped location cannot be written. -/
  | unwritable {root : Tree.Block Tree} {node : Node} (hload : input.load.result = .ok root)
    (hresult : (program ⟨text, names.source⟩ root).result = .ok node)
    (hlocation : ∃ loc ∈ (program ⟨text, names.source⟩ root).events, loc.isWritable = false) :
    NormalizesTo names text input (.error .written)
  /-- The tree has an integer that is too long to be read. -/
  | overlong {digits : Nat} (hload : input.load.result = .error (.overlong digits)) :
    NormalizesTo names text input (.error (.read digits))
  /-- The tree has half of a surrogate pair. -/
  | halfPair (hload : input.load.result = .error .halfPair) :
    NormalizesTo names text input (.error .halfPair)

section

variable {names : FileNames} {text : List Char} {input : Tree.Input}
  {result : Except Text.LimitError Normalization}

/-- What is left to do for a source that was converted is to write its warnings. -/
theorem result_normalize_of_converted {root : Tree.Block Tree} {node : Node}
    (hload : input.load.result = .ok root)
    (hresult : (program ⟨text, names.source⟩ root).result = .ok node) :
    (normalize names text input).result =
      (Normalization.warnings ⟨text, names.source⟩
        (program ⟨text, names.source⟩ root).events).result.map
          fun warnings ↦ ⟨⟨text, names.source⟩, some node, warnings⟩ := by
  rw [normalize, hload]
  dsimp only [Normalization.ofTree]
  rw [hresult]
  show (Normalization.warnings _ _ >>= fun warnings ↦ (do
    Traced.record _
    pure ⟨_, some node, warnings⟩ : Normalizing Normalization)).result = _
  rw [Traced.bind_def, Traced.andThen]
  rcases (Normalization.warnings _ _).result with e | warnings
  · rfl
  · rfl

/-- The relation describes what normalization does. -/
theorem NormalizesTo.result_eq (h : NormalizesTo names text input result) :
    (normalize names text input).result = result := by
  cases h with
  | refused hload =>
    rw [normalize, hload]
    rfl
  | failed hload hresult =>
    rw [normalize, hload]
    dsimp only [Normalization.ofTree]
    rw [hresult]
    rfl
  | converted hload hresult hwritable =>
    rw [result_normalize_of_converted hload hresult,
      Normalization.result_warnings_of_writable hwritable]
    rfl
  | unwritable hload hresult hlocation =>
    rw [result_normalize_of_converted hload hresult,
      Normalization.result_warnings_of_not_writable hlocation]
    rfl
  | overlong hload =>
    rw [normalize, hload]
    rfl
  | halfPair hload =>
    rw [normalize, hload]
    rfl

/-- It describes all of it: there is a result in every case. -/
theorem exists_normalizesTo (names : FileNames) (text : List Char) (input : Tree.Input) :
    ∃ result, NormalizesTo names text input result := by
  rcases hload : input.load.result with (e | digits | _) | root
  · exact ⟨_, .refused hload⟩
  · exact ⟨_, .overlong hload⟩
  · exact ⟨_, .halfPair hload⟩
  · rcases hresult : (program ⟨text, names.source⟩ root).result with e | node
    · exact ⟨_, .failed hload hresult⟩
    · by_cases hwritable :
        ∀ loc ∈ (program ⟨text, names.source⟩ root).events, loc.isWritable = true
      · exact ⟨_, .converted hload hresult hwritable⟩
      · exact ⟨_, .unwritable hload hresult (by simpa using hwritable)⟩

/-- **How a normalization ends.** -/
theorem result_normalize_eq_iff :
    (normalize names text input).result = result ↔ NormalizesTo names text input result := by
  refine ⟨fun h ↦ ?_, NormalizesTo.result_eq⟩
  obtain ⟨found, hfound⟩ := exists_normalizesTo names text input
  rw [← h, hfound.result_eq]
  exact hfound

end

def wordText : List Char := ['n', 'u', 'l', 'l']

namespace Json

open Text (isAsciiDigit)

variable {c : Char} {rest : List Char}

end Json

end CoffeeTree
