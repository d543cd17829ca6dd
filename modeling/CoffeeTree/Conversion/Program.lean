import CoffeeTree.Conversion.Basic

/-!
# Converting whole programs

A program covers its source from the first to the last character, whatever the tree's own location
is. An empty source is a program without body, and its tree is not looked at.

A `Converter` serves several requests on one source and keeps the locations that were clamped, those
of failed requests included.
-/

namespace CoffeeTree

namespace Convert

/-- The location of all characters of a source that is not empty. -/
def wholeLocation (source : Source) : Location :=
  ⟨⟨0, 0⟩, Text.positionAt source.text (source.length - 1)⟩

/-- The program without characters. -/
def emptyProgram : Node := .mk (some ⟨1, 1, ⟨0, 0⟩, ""⟩) (.program none)

/-- Converts a tree whose root is given. -/
def program (source : Source) (root : Tree.Block Tree) : Conversion Node :=
  if source.text.isEmpty then pure emptyProgram
  else do
    let statements ← exprs source ["Block"] root.expressions
    let body ← Node.build source root.location (.block statements)
    Node.build source (some (wholeLocation source)) (.program (some body))

/-- Converts any node. Only an empty block gives no node. -/
def node? (source : Source) (ancestors : List String) : Tree → Conversion (Option Node)
  | .block b => block? source ancestors b
  | tree => do
    let node ← expr source ancestors tree
    pure (some node)

end Convert

/-- A source and the locations that conversions have clamped so far. -/
structure Converter where
  source : Source
  clamped : List Location

namespace Converter

def ofSource (source : Source) : Converter := ⟨source, []⟩

/-- Runs a conversion on the source and keeps its trace. -/
def run {α : Type} (c : Converter) (conversion : Source → Conversion α) :
    Except ConversionError α × Converter :=
  let outcome := conversion c.source
  (outcome.result, { c with clamped := c.clamped ++ outcome.events })

end Converter

end CoffeeTree
