import CoffeeTree.Disk.Pathname
import CoffeeTree.Text.Encoding

/-!
# Disks

What the program does with files, as a class of monads, and a disk in memory as an instance of it.

The disk in memory is a list of entries under absolute names. Path names are resolved name by name
from the root or the working directory; each name that is passed through has to be a directory.
-/

namespace CoffeeTree

/-- Why an operation on a file failed. -/
inductive FileFault where
  | notFound
  | alreadyThere
  | notADirectory
  | isADirectory
  | denied
  | nameTooLong
  deriving DecidableEq, Repr

/-- A failed operation and the path name that it was about. -/
structure FileError where
  fault : FileFault
  path : Pathname
  deriving DecidableEq, Repr

/-- The system's number for a fault and its text. -/
def FileFault.number : FileFault → Nat
  | notFound => 2
  | denied => 13
  | alreadyThere => 17
  | notADirectory => 20
  | isADirectory => 21
  | nameTooLong => 36

def FileFault.text : FileFault → String
  | notFound => "No such file or directory"
  | denied => "Permission denied"
  | alreadyThere => "File exists"
  | notADirectory => "Not a directory"
  | isADirectory => "Is a directory"
  | nameTooLong => "File name too long"

def FileError.message (e : FileError) : String :=
  s!"[Errno {e.fault.number}] {e.fault.text}: {Text.quoted e.path.toString}"

/-- The operations on files. -/
class MonadFiles (m : Type → Type) where
  /-- The absolute path name of the working directory. -/
  workingDirectory : m Pathname
  /-- Whether a file stands there. Only a name that is too long makes this fail. -/
  isFile : Pathname → m (Except FileError Bool)
  isDirectory : Pathname → m Bool
  read : Pathname → m (Except FileError (List UInt8))
  write : Pathname → List UInt8 → m (Except FileError Unit)
  /-- Makes one directory, in a directory that is there. -/
  makeDirectory : Pathname → m (Except FileError Unit)

/-- What stands under a name. -/
inductive DiskEntry where
  | file (bytes : List UInt8)
  | directory
  deriving DecidableEq, Repr

/-- A disk in memory. -/
structure Disk where
  workingDirectory : List String
  entries : List (List String × DiskEntry)

namespace Disk

/-- What stands under an absolute name. The root is always there. -/
def find? (disk : Disk) (name : List String) : Option DiskEntry :=
  if name.isEmpty then some .directory else (disk.entries.find? (·.1 = name)).map (·.2)

def erase (disk : Disk) (name : List String) : Disk :=
  { disk with entries := disk.entries.filter (·.1 ≠ name) }

/-- Puts an entry under an absolute name, in place of what was there. -/
def insert (disk : Disk) (name : List String) (entry : DiskEntry) : Disk :=
  { disk with entries := disk.entries.filter (·.1 ≠ name) ++ [(name, entry)] }

/-- Makes a directory and the directories around it, as far as they are missing. -/
def insertDirectories (disk : Disk) (name : List String) : Disk :=
  (List.range name.length).foldl
    (fun disk i ↦
      let outer := name.take (i + 1)
      if (disk.find? outer).isSome then disk else disk.insert outer .directory)
    disk

/-- The most bytes that a name may have. -/
def maxNameSize : Nat := 255

/-- The most bytes that a path name may have. -/
def maxPathSize : Nat := 4095

/-- Follows names from a directory. The last one need not be there. -/
def walk (disk : Disk) (here : List String) : List String → Except FileFault (List String)
  | [] => .ok here
  | name :: rest =>
    match disk.find? here with
    | none => .error .notFound
    | some (.file _) => .error .notADirectory
    | some .directory =>
      if maxNameSize < (Text.encodeUtf8 name).length then .error .nameTooLong
      else if name = "." then disk.walk here rest
      else if name = ".." then disk.walk here.dropLast rest
      else disk.walk (here ++ [name]) rest

/-- The absolute name that a path name leads to. -/
def resolve (disk : Disk) (path : Pathname) : Except FileFault (List String) :=
  let start := if path.root.isEmpty then disk.workingDirectory else []
  if maxPathSize < (Text.encodeUtf8 path.toString).length then .error .nameTooLong
  else
    disk.walk start
      ((path.parts.flatMap fun part ↦ (Text.splitSlashes part.toList).map String.ofList).filter
        (!·.isEmpty))

def entry? (disk : Disk) (path : Pathname) : Except FileFault DiskEntry := do
  let name ← disk.resolve path
  match disk.find? name with
  | none => .error .notFound
  | some entry => .ok entry

def isFile (disk : Disk) (path : Pathname) : Except FileFault Bool :=
  match disk.entry? path with
  | .ok (.file _) => .ok true
  | .error .nameTooLong => .error .nameTooLong
  | _ => .ok false

def isDirectory (disk : Disk) (path : Pathname) : Bool :=
  match disk.entry? path with
  | .ok .directory => true
  | _ => false

def read (disk : Disk) (path : Pathname) : Except FileFault (List UInt8) := do
  match ← disk.entry? path with
  | .file bytes => .ok bytes
  | .directory => .error .isADirectory

def write (disk : Disk) (path : Pathname) (bytes : List UInt8) : Except FileFault Disk := do
  let name ← disk.resolve path
  match disk.find? name with
  | some .directory => .error .isADirectory
  | some (.file _) => .ok (disk.insert name (.file bytes))
  | none =>
    match disk.find? name.dropLast with
    | some .directory => .ok (disk.insert name (.file bytes))
    | some (.file _) => .error .notADirectory
    | none => .error .notFound

def makeDirectory (disk : Disk) (path : Pathname) : Except FileFault Disk := do
  let name ← disk.resolve path
  match disk.find? name with
  | some _ => .error .alreadyThere
  | none =>
    match disk.find? name.dropLast with
    | some .directory => .ok (disk.insert name .directory)
    | some (.file _) => .error .notADirectory
    | none => .error .notFound

/-- Takes over the disk after an operation that worked. -/
def update (path : Pathname) (change : Disk → Except FileFault Disk) :
    StateM Disk (Except FileError Unit) := do
  match change (← get) with
  | .ok disk => do
    set disk
    pure (.ok ())
  | .error fault => pure (.error ⟨fault, path⟩)

instance : MonadFiles (StateM Disk) where
  workingDirectory := do return ⟨"/", (← get).workingDirectory⟩
  isFile path := do return ((← get).isFile path).mapError (⟨·, path⟩)
  isDirectory path := do return (← get).isDirectory path
  read path := do return ((← get).read path).mapError (⟨·, path⟩)
  write path bytes := update path (·.write path bytes)
  makeDirectory path := update path (·.makeDirectory path)

end Disk

section

variable {m : Type → Type} [Monad m] [MonadFiles m]

/-- The end of making a directory: one that is there already is fine. -/
def settleDirectory (path : Pathname) : Except FileError Unit → m (Except FileError Unit)
  | .error ⟨.notFound, p⟩ => pure (.error ⟨.notFound, p⟩)
  | .error e => do
    if ← MonadFiles.isDirectory path then pure (.ok ()) else pure (.error e)
  | .ok () => pure (.ok ())

/-- Makes the directory with the given names, the last one first, and those around it that are
missing. -/
def makeDirectoriesFrom (root : String) : List String → m (Except FileError Unit)
  | [] => do settleDirectory ⟨root, []⟩ (← MonadFiles.makeDirectory ⟨root, []⟩)
  | name :: outer => do
    let path : Pathname := ⟨root, (name :: outer).reverse⟩
    match ← MonadFiles.makeDirectory path with
    | .error ⟨.notFound, _⟩ => do
      match ← makeDirectoriesFrom root outer with
      | .ok () => settleDirectory path (← MonadFiles.makeDirectory path)
      | .error e => pure (.error e)
    | result => settleDirectory path result

/-- Makes a directory and those around it that are missing. -/
def makeDirectories (path : Pathname) : m (Except FileError Unit) :=
  makeDirectoriesFrom path.root path.parts.reverse

end

end CoffeeTree
