import CoffeeTree.Diagnostic.Render
import CoffeeTree.Source.Repository

/-!
# Reports

A report quotes sources from a repository, which it fills as it goes. The diagnostics are printed by
file, line and column, in the given order where these agree, and a summary comes last.
-/

namespace CoffeeTree

/-- Computations that use a repository, and fail if a source is not UTF-8. A failure keeps the
repository. -/
abbrev Reporting (m : Type → Type) := ExceptT ReadError (StateT Repository m)

namespace Diagnostic

/-- Whether a diagnostic comes before or together with another. -/
def notAfter (d e : Diagnostic) : Bool :=
  if d.span.file = e.span.file then
    if d.span.line = e.span.line then d.span.column ≤ e.span.column
    else d.span.line < e.span.line
  else d.span.file < e.span.file

/-- The diagnostics in the order of a report. -/
def sorted (ds : List Diagnostic) : List Diagnostic := ds.mergeSort notAfter

end Diagnostic

namespace Report

variable {m : Type → Type} [Monad m] [MonadFiles m]

/-- The source under a name. -/
def find (name : String) : Reporting m (Option Source) := do
  let repository ← get
  let (found, after) ← (repository.get name : m _)
  set after
  match found with
  | .ok source => pure source
  | .error e => throw e

/-- The source that a diagnostic quotes: the given one if it has the name, and otherwise the one in
the repository. The given one is remembered in any case. -/
def resolve (source : Option Source) (name : String) : Reporting m (Option Source) := do
  match source with
  | none => find name
  | some s =>
    modify (·.remember s)
    if s.name = name then pure (some s) else find name

/-- The text of a diagnostic. -/
def text (source : Option Source) (d : Diagnostic) : Reporting m String := do
  let quoted ← resolve source d.span.file
  pure (d.render quoted)

/-- The texts of diagnostics. -/
def texts (source : Option Source) : List Diagnostic → Reporting m (List String)
  | [] => pure []
  | d :: rest => do
    let first ← text source d
    let others ← texts source rest
    pure (first :: others)

/-- The printed report, where `print` says what is printed for a text. Without diagnostics nothing
is printed. -/
def printed (print : String → String) (source : Option Source) (ds : List Diagnostic) :
    Reporting m String := do
  let parts ← texts source (Diagnostic.sorted ds)
  if ds.isEmpty then pure ""
  else
    pure (String.join (parts.map fun part ↦ print part ++ print "") ++
      print (Diagnostic.summary ds))

end Report

end CoffeeTree
