import CoffeeTree.Disk.Text
import CoffeeTree.Normalization

/-!
# Normalizing files

The source and the tree as text files, reported under the names that they were opened by.
-/

namespace CoffeeTree

variable {m : Type → Type} [Monad m] [MonadFiles m]

/-- The parse tree in a file. -/
def Tree.loadFile (path : Pathname) :
    m (Except ReadError (Traced Tree.Unsupported Tree.LoadError (Tree.Block Tree))) := do
  match ← readText path with
  | .error e => pure (.error e)
  | .ok text => pure (.ok (Tree.loadText text))

/-- Normalizes the source in one file with the tree in another. The source is read first. -/
def normalizeFiles (source tree : Pathname) :
    m (Except ReadError (Normalizing Normalization)) := do
  match ← readText source with
  | .error e => pure (.error e)
  | .ok text =>
    match ← readText tree with
    | .error e => pure (.error e)
    | .ok treeText =>
      pure (.ok (normalize ⟨source.toString, tree.toString⟩ text (.text treeText)))

end CoffeeTree
