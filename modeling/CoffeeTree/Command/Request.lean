import CoffeeTree.Disk.Pathname
import CoffeeTree.Log

/-!
# Requests

What a user can ask for, once the command line has been read.
-/

namespace CoffeeTree.Command

/-- The files that a command works on, and how much it says about its work. -/
structure Inputs where
  source : Pathname
  tree : Option Pathname
  settings : Option Pathname
  logLevel : LogLevel
  deriving DecidableEq, Repr

/-- What the user asks for. -/
inductive Request where
  | welcome
  | help
  | kinds
  | convert (inputs : Inputs) (json noRaw : Bool) (output : Option Pathname)
  | check (inputs : Inputs)
  deriving DecidableEq, Repr

/-- The level from which on events are logged. -/
def Request.logLevel : Request → LogLevel
  | convert inputs _ _ _ => inputs.logLevel
  | check inputs => inputs.logLevel
  | _ => .warning

end CoffeeTree.Command
