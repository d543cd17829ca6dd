import CoffeeTree.Conversion.Program
import CoffeeTree.Diagnostic.Conversion
import CoffeeTree.Log
import CoffeeTree.Tree.Input

/-!
# Normalization

From a source text and its parse tree to a syntax tree, with problems collected as diagnostics.
There is either a syntax tree, and then a warning for each location that was clamped, or exactly one
error; warnings that came up before an error are dropped. Only what goes beyond the limits of texts
is not collected.
-/

namespace CoffeeTree

/-- The names under which a source and its tree are reported. -/
structure FileNames where
  source : String
  tree : String
  deriving DecidableEq, Repr

/-- The names of a source and a tree that do not come from files. -/
def FileNames.unnamed : FileNames := ⟨Source.unnamed, "<tree>"⟩

/-- The result of a normalization. -/
structure Normalization where
  source : Source
  ast : Option Node
  diagnostics : List Diagnostic

/-- Normalizing logs what it does. It fails if an integer cannot be read or written. -/
abbrev Normalizing := Traced LogEvent Text.LimitError

namespace Normalization

def hasErrors (n : Normalization) : Bool := n.diagnostics.any Diagnostic.isError

/-- What the log says about a tree that was loaded. One that was at hand is not mentioned. -/
def loadLog (input : Tree.Input) : List LogEvent :=
  match input with
  | .loaded _ => []
  | _ =>
    let kept := input.load.events.map fun node ↦ LogEvent.nodeKept node.type node.path
    match input.load.result with
    | .ok root => kept ++ [.treeLoaded root.expressions.length]
    | .error _ => kept

/-- What the log says about a failed conversion. -/
def failureEvent (file : String) (e : ConversionError) : LogEvent :=
  if e.isWritable then
    match e with
    | .unrecognized e => .nodeUnrecognized e.node.typeName file
    | .anchorNotFound _ _ _ anchor => .anchorMissing anchor file
    | .outside _ => .treeMismatched file
  else .treeMismatched file

/-- The warnings about locations that were clamped, each of which is logged. -/
def warnings (source : Source) : List Location → Normalizing (List Diagnostic)
  | [] => pure []
  | loc :: rest => do
    .record (.locationClamped source.name)
    let first ← .ofExcept (Diagnostic.ofClamped source loc)
    let others ← warnings source rest
    pure (first :: others)

/-- Converts a source with a tree that is loaded. -/
def ofTree (names : FileNames) (source : Source) (root : Tree.Block Tree) :
    Normalizing Normalization := do
  .record (.conversionStarted source.name source.length)
  let conversion := Convert.program source root
  match conversion.result with
  | .ok node => do
    let diagnostics ← warnings source conversion.events
    .record (.converted source.name)
    pure ⟨source, some node, diagnostics⟩
  | .error e => do
    .record (failureEvent source.name e)
    pure ⟨source, none, [.ofConversionError source names.tree e]⟩

end Normalization

/-- Normalizes a source text with its parse tree. -/
def normalize (names : FileNames) (text : List Char) (input : Tree.Input) :
    Normalizing Normalization := do
  let source : Source := ⟨text, names.source⟩
  .recordAll (Normalization.loadLog input)
  match input.load.result with
  | .ok root => Normalization.ofTree names source root
  | .error (.format e) => do
    .record (.treeRefused names.source)
    pure ⟨source, none, [.treeFormat names.tree e.message]⟩
  | .error (.overlong digits) => .fail (.read digits)
  | .error .halfPair => .fail .halfPair

end CoffeeTree
