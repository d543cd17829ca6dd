import CoffeeTree.Proofs.Visited

/-!
# The converter recognizes the recognized trees

On a recognized tree the converter never stops at a node without counterpart, whatever the source;
on any other tree it never succeeds, unless the source is empty (`program_recognizes`). It may
fail for another reason in either case: recognition says nothing about locations and anchors.

The first half is a walk on which every visit is recognized (`Walk.recognized`): a node is given up
on only where its role does not accept it, so that never happens. For the second half, a conversion
that succeeds keeps every visit, and only accepted visits are kept.
-/

namespace CoffeeTree

open CoffeeTree.Tree (Visit)

namespace Convert

/-! ### Conversions that do not give up -/

/-- The conversion does not stop at a node without counterpart, and what it gives is good. -/
structure Recognizes {α : Type} (Good : α → Prop) (c : Conversion α) : Prop where
  ne_unrecognized : ∀ e, c.result ≠ .error (.unrecognized e)
  yields : Yields Good c

namespace Recognizes

variable {α β : Type} {Good : α → Prop} {Good' : β → Prop} {c : Conversion α}

theorem of_pure {a : α} (h : Good a) : Recognizes Good (pure a) :=
  ⟨fun _ he ↦ absurd he (by simp), .of_pure h⟩

/-- **A sequence does not give up when its steps do not.** -/
theorem bind {next : α → Conversion β} (h : Recognizes Good c)
    (hnext : ∀ a, c.result = .ok a → Good a → Recognizes Good' (next a)) :
    Recognizes Good' (c >>= next) := by
  refine ⟨fun e he ↦ ?_, h.yields.bind_of_ok fun a ha hgood ↦ (hnext a ha hgood).yields⟩
  rw [Traced.bind_def, Traced.andThen] at he
  cases hc : c.result with
  | error e' =>
    rw [hc] at he
    exact h.ne_unrecognized e (hc.trans (congrArg Except.error (Except.error.inj he)))
  | ok a =>
    rw [hc] at he
    exact (hnext a hc (h.yields a hc)).ne_unrecognized e he

/-- Building a node looks at the source only. -/
theorem of_build (source : Source) (loc : Location) (shape : Shape Node) :
    Recognizes (fun _ ↦ True) (Node.build source (some loc) shape) := by
  refine ⟨fun e he ↦ ?_, fun _ _ ↦ trivial⟩
  cases hown : Node.rangeOf source loc with
  | error outside =>
    rw [Node.build, hown] at he
    cases he
  | ok own =>
    rw [Node.build_some hown] at he
    cases he

/-- So does an expansion. -/
theorem of_expand (f : Location → Except AnchorError Location) (loc : Location) :
    Recognizes (fun wider ↦ ∀ loc ∈ wider, True) (expand f (some loc)) := by
  refine ⟨fun e he ↦ ?_, fun _ _ _ _ ↦ trivial⟩
  rw [expand] at he
  cases hwider : f loc with
  | ok wider =>
    rw [hwider] at he
    cases he
  | error error =>
    rw [hwider] at he
    cases error <;> cases he

end Recognizes

end Convert

open CoffeeTree.Convert

/-- A visit is recognized as an expression if it is made as if it were one. -/
theorem Tree.Visit.Recognized.of_plain {v : Visit} (h : v.Recognized) (hplain : v.Plain) :
    v.node.IsExpression := by
  obtain ⟨haccepts, hnext⟩ := recognized_iff.1 h
  rw [hplain.accepts_eq] at haccepts
  rw [hplain.next_eq] at hnext
  exact isExpression_iff.2 ⟨haccepts, hnext⟩

/-- A walk through one run, on which every visit is recognized. -/
def Walk.recognized (source : Source) (root : Tree) : Walk source source where
  root := root
  onLocation := id
  onPlace := id
  Stands _ _ t := root.Reaches t
  Visits := Visit.Recognized
  Admits _ := True
  Relates Good _ c _ := Recognizes Good c
  injective := Function.injective_id
  onLocation_merge := Location.id_merge
  reaches_of_stands h := h
  admits_of_stands _ _ _ := trivial
  stands_child h hc := h.tail hc
  visits_next h hw := (Visit.recognized_iff.1 h).2 _ hw
  visits_plain hplain h := h.of_plain hplain
  admits_merge _ _ := trivial
  relates_pure h := .of_pure h
  relates_bind h hnext := h.bind hnext
  relates_unrecognized _ h haccepts :=
    absurd (haccepts.symm.trans (Visit.recognized_iff.1 h).1) Bool.false_ne_true
  relates_expandRight _ := .of_expand _ _
  relates_expandLeft _ := .of_expand _ _
  relates_build _ _ := .of_build _ _ _

namespace Convert

/-! ### Whole programs -/

/-- The body of a recognized program is converted without giving up. -/
theorem programBody_recognizes {root : Tree.Block Tree} (h : Tree.Recognized root)
    (source : Source) (e : Unrecognized) :
    (programBody source root).result ≠ .error (.unrecognized e) := by
  have hstands : ∀ t ∈ root.expressions,
      (Walk.recognized source (.block root)).Stands ["Block"] ["Block"] t :=
    fun t ht ↦ .head (show t ∈ (Tree.block root).children from ht) (.refl t)
  have hwalks : Recognizes _ (programBody source root) :=
    (Walk.recognized source (.block root)).programBody_walks (.refl _) (fun _ _ ↦ trivial)
      hstands h
  exact hwalks.ne_unrecognized e

/-- What was converted, from whatever node on, was recognized. -/
theorem Becomes.recognized {source : Source} {tree : Tree} {output : Node}
    (h : Becomes source tree output) : Visit.Recognized ⟨.branch, tree⟩ :=
  fun _ hw ↦ (h.kept.of_leadsTo hw).accepts

/-- **Recognition depends on the tree alone.** A recognized tree never makes the converter stop at a
node without counterpart, on any source. A tree that is not recognized converts on no source, apart
from the empty one, on which no tree is looked at. -/
theorem program_recognizes (root : Tree.Block Tree) :
    (Tree.Recognized root → ∀ (source : Source) (e : Unrecognized),
      (program source root).result ≠ .error (.unrecognized e)) ∧
    (¬ Tree.Recognized root → ∀ source : Source, source.text ≠ [] →
      ∀ node, (program source root).result ≠ .ok node) := by
  constructor
  · intro hroot source e he
    exact programBody_recognizes hroot source e (programBody_of_program_error he)
  · intro hroot source hsource node hnode
    exact hroot (Becomes.program hsource hnode).recognized

/-- Unknown nodes where none is visited: behind the first expression in parentheses, and as an
access to an object in the body of a class. The index has no bracket in the source. -/
def unvisitedTree : Tree.Block Tree :=
  ⟨none, [.parens none (.block ⟨none, [.null none, .unknown none "Throw" []]⟩),
    .classNode none none none (some ⟨none, [.value none (.obj none [])
      [.unknown none "Splice" []]]⟩),
    .value (some ⟨⟨0, 0⟩, ⟨0, 0⟩⟩) (.null (some ⟨⟨0, 0⟩, ⟨0, 0⟩⟩)) [.index none (.null none)]]⟩

/-- An unknown node as an index. -/
def visitedTree : Tree.Block Tree :=
  ⟨none, [.value none (.null none) [.index none (.unknown none "Throw" [])]]⟩

theorem program_recognizes_unvisited :
    Tree.Recognized unvisitedTree ∧
      (∀ e, (program ⟨['x'], Source.unnamed⟩ unvisitedTree).result ≠ .error (.unrecognized e)) ∧
      ¬ Tree.Recognized visitedTree ∧
      ∀ node, (program ⟨['x'], Source.unnamed⟩ visitedTree).result ≠ .ok node := by
  have hunvisited : Tree.Recognized unvisitedTree := by
    simp [Tree.Recognized, unvisitedTree, classObject?]
  have hvisited : ¬ Tree.Recognized visitedTree := by
    simp [Tree.Recognized, visitedTree, Tree.isExpression_iff]
  exact ⟨hunvisited, (program_recognizes unvisitedTree).1 hunvisited _, hvisited,
    (program_recognizes visitedTree).2 hvisited _ (List.cons_ne_nil _ _)⟩

end Convert

end CoffeeTree
