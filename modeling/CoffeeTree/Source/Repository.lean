import CoffeeTree.Disk.Text
import CoffeeTree.Source

/-!
# Repositories of sources

The sources that reports quote, by name. A source that was remembered is found under its name. Any
other is read from the disk when it is first asked for, and what was found then, if only that there
is no such file, is what is found ever after. Names in angle brackets stand for texts that are not
files.

A file that is not UTF-8 is an error each time, and leaves the repository as it was.
-/

namespace CoffeeTree

/-- What is known about names. -/
structure Repository where
  known : List (String × Option Source)
  deriving DecidableEq, Repr

namespace Repository

def empty : Repository := ⟨[]⟩

def find? (r : Repository) (name : String) : Option (Option Source) :=
  (r.known.find? (·.1 = name)).map (·.2)

/-- Settles what is found under a name. -/
def insert (r : Repository) (name : String) (found : Option Source) : Repository :=
  ⟨(name, found) :: r.known⟩

def remember (r : Repository) (source : Source) : Repository :=
  r.insert source.name (some source)

/-- Whether a name stands for a text that is not a file. -/
def isPlaceholder (name : String) : Bool :=
  name.toList.head? = some '<' && name.toList.getLast? = some '>'

section

variable {m : Type → Type} [Monad m] [MonadFiles m]

/-- Reads a source from the disk. A file that cannot be opened is no source. -/
def fetch (name : String) : m (Except ReadError (Option Source)) := do
  let path := Pathname.ofString name
  if isPlaceholder name then pure (.ok none)
  else
    match ← MonadFiles.isFile path with
    | .ok true => do
      match ← readText path with
      | .ok text => pure (.ok (some ⟨text, name⟩))
      | .error (.file _) => pure (.ok none)
      | .error e => pure (.error e)
    | _ => pure (.ok none)

/-- The source under a name, and the repository afterwards. -/
def get (r : Repository) (name : String) :
    m (Except ReadError (Option Source) × Repository) := do
  match r.find? name with
  | some found => pure (.ok found, r)
  | none =>
    match ← fetch name with
    | .ok found => pure (.ok found, r.insert name found)
    | .error e => pure (.error e, r)

end

end Repository

end CoffeeTree
