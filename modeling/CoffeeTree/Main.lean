import CoffeeTree.Command.Run
import CoffeeTree.Terminal.Arguments
import CoffeeTree.Terminal.Console

/-!
# The command line program

Files, environment and streams of the operating system. Everything else is in `Command.run`.
-/

namespace CoffeeTree.Terminal

/-- The fault that a failed operation on a path name shows. -/
def faultOf (isDirectory : Bool) : IO.Error → FileFault
  | .noFileOrDirectory .. => .notFound
  | .alreadyExists .. => .alreadyThere
  | .permissionDenied .. => .denied
  | _ => if isDirectory then .isADirectory else .notADirectory

/-- Runs an operation on a file and tells how it failed. -/
def attempt {α : Type} (path : Pathname) (act : IO α) : IO (Except FileError α) := do
  let full := (← IO.currentDir) / path.toString
  try
    return .ok (← act)
  catch e =>
    return .error ⟨faultOf (← full.isDir) e, path⟩

instance : MonadFiles IO where
  workingDirectory := do return .ofString (← IO.currentDir).toString
  isFile path := do
    let full := (← IO.currentDir) / path.toString
    return .ok ((← full.pathExists) && !(← full.isDir))
  isDirectory path := do
    let full := (← IO.currentDir) / path.toString
    full.isDir
  read path := attempt path do return (← IO.FS.readBinFile path.toString).toList
  write path bytes := attempt path (IO.FS.writeBinFile path.toString ⟨bytes.toArray⟩)
  makeDirectory path := attempt path (IO.FS.createDir path.toString)

/-- The number of columns that the terminal has. -/
def columns? : IO (Option Nat) := do
  return (← IO.getEnv "COLUMNS").bind (·.toNat?)

end CoffeeTree.Terminal

open CoffeeTree in
/-- Runs the command that the arguments ask for. -/
def main (args : List String) : IO UInt32 := do
  match Terminal.Arguments.parse args with
  | .error e =>
    IO.eprintln s!"Error: {e.message}"
    return 2
  | .ok request =>
    let page := Terminal.page (Terminal.pageWidth (← Terminal.columns?))
    let outcome ← Command.run (m := IO) page request
    for event in outcome.log do
      IO.eprintln event.line
    IO.print outcome.output
    for fault in outcome.fault.toList do
      IO.eprintln fault.message
    return outcome.exitCode.toUInt32
