import CoffeeTree.Disk.Text
import CoffeeTree.Settings.Basic

/-!
# Finding and loading settings

Settings come from the file that the user names, or else from one beside the source, or else from
one in the working directory.
-/

namespace CoffeeTree

/-- Why settings could not be loaded. -/
inductive SettingsError where
  | file (error : FileError)
  /-- The file is not UTF-8. -/
  | notText
  | notToml
  | invalid (problem : Settings.Problem)
  deriving DecidableEq, Repr

def SettingsError.message : SettingsError → String
  | file error => error.message
  | notText => "the file is not UTF-8"
  | notToml => "the file is not TOML"
  | invalid problem => problem.message

namespace Settings

/-- The settings in the bytes of a file. -/
def ofBytes (bytes : List UInt8) : Except SettingsError Settings :=
  match Text.decodeUtf8 .strict bytes with
  | none => .error .notText
  | some text =>
    match Toml.parse? text with
    | none => .error .notToml
    | some root => (ofDocument root).mapError .invalid

section

variable {m : Type → Type} [Monad m] [MonadFiles m]

def load (path : Pathname) : m (Except SettingsError Settings) := do
  match ← MonadFiles.read path with
  | .error e => pure (.error (.file e))
  | .ok bytes => pure (ofBytes bytes)

/-- The first of the given directories that has a settings file. -/
def findIn : List Pathname → m (Except FileError (Option Pathname))
  | [] => pure (.ok none)
  | directory :: rest => do
    let candidate := directory.child fileName
    match ← MonadFiles.isFile candidate with
    | .ok true => pure (.ok (some candidate))
    | .ok false => findIn rest
    | .error e => pure (.error e)

/-- The settings file that goes with a source when the user names none. -/
def infer (source : Pathname) : m (Except FileError (Option Pathname)) := do
  let here ← MonadFiles.workingDirectory
  findIn [source.parent, here]

end

/-- Where the tree of a source is kept. -/
def treePath (settings : Settings) (source : Pathname) : Except PathnameError Pathname :=
  source.withName (source.name ++ settings.treeSuffix)

end Settings

end CoffeeTree
