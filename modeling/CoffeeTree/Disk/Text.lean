import CoffeeTree.Disk.Basic

/-!
# Reading and writing texts

Text files hold UTF-8. The line ends of other systems are turned into line feeds.
-/

namespace CoffeeTree

/-- Why a text could not be read. -/
inductive ReadError where
  | file (error : FileError)
  /-- The file is there, and its bytes are not UTF-8. -/
  | notText (path : Pathname)
  deriving DecidableEq, Repr

variable {m : Type → Type} [Monad m] [MonadFiles m]

def readText (path : Pathname) : m (Except ReadError (List Char)) := do
  match ← MonadFiles.read path with
  | .error e => pure (.error (.file e))
  | .ok bytes =>
    match Text.decodeFile bytes with
    | none => pure (.error (.notText path))
    | some text => pure (.ok text)

def writeText (path : Pathname) (text : String) : m (Except FileError Unit) :=
  MonadFiles.write path (Text.encodeUtf8 text)

end CoffeeTree
