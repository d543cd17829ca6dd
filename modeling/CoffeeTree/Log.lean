import CoffeeTree.Json.Path
import CoffeeTree.Text.Quoted

/-!
# The log

What the program says about its own work: one event per thing worth noting. The level, the part of
the program that speaks and the wording follow from the event.
-/

namespace CoffeeTree

/-- How important an event is. -/
inductive LogLevel where
  | debug
  | info
  | warning
  | error
  deriving DecidableEq, Repr

namespace LogLevel

def rank : LogLevel → Nat
  | debug => 0
  | info => 1
  | warning => 2
  | error => 3

/-- The name of a level in the log. -/
def name : LogLevel → String
  | debug => "DEBUG"
  | info => "INFO"
  | warning => "WARNING"
  | error => "ERROR"

end LogLevel

/-- Something to note. -/
inductive LogEvent where
  /-- A node of an unknown type was kept while loading a tree. -/
  | nodeKept (type : String) (path : Json.Path)
  | treeLoaded (expressions : Nat)
  | treeRefused (file : String)
  | conversionStarted (file : String) (length : Nat)
  | nodeUnrecognized (type file : String)
  | anchorMissing (anchor file : String)
  | treeMismatched (file : String)
  | locationClamped (file : String)
  | converted (file : String)
  | settingsInferred (path : String)
  | treeWritten (path : String)
  deriving DecidableEq, Repr

namespace LogEvent

def level : LogEvent → LogLevel
  | nodeKept _ _ => .debug
  | treeLoaded _ => .debug
  | treeRefused _ => .error
  | conversionStarted _ _ => .debug
  | nodeUnrecognized _ _ => .error
  | anchorMissing _ _ => .error
  | treeMismatched _ => .error
  | locationClamped _ => .warning
  | converted _ => .info
  | settingsInferred _ => .info
  | treeWritten _ => .info

/-- The part of the program that an event comes from. -/
def topic : LogEvent → String
  | nodeKept _ _ => "csast.upstream.loader"
  | treeLoaded _ => "csast.upstream.loader"
  | settingsInferred _ => "csast.config.loader"
  | treeWritten _ => "csast.cli"
  | _ => "csast.compiler.pipeline"

def message : LogEvent → String
  | nodeKept type path => s!"Keeping unsupported upstream node `{type}` at {path.text}"
  | treeLoaded expressions =>
    s!"Loaded upstream tree with {expressions} top-level expression(s)"
  | treeRefused file => s!"Upstream tree for {file} could not be loaded"
  | conversionStarted file length => s!"Converting {file} ({length} characters)"
  | nodeUnrecognized type file => s!"Unrecognized upstream node `{type}` in {file}"
  | anchorMissing anchor file => s!"Anchor {Text.quoted anchor} not found in {file}"
  | treeMismatched file => s!"Upstream tree does not match {file}"
  | locationClamped file => s!"Clamped upstream location in {file}"
  | converted file => s!"Converted {file}"
  | settingsInferred path => s!"Inferred config file: {path}"
  | treeWritten path => s!"Wrote AST to {path}"

/-- The line of an event in the log. -/
def line (e : LogEvent) : String := s!"{e.level.name} | {e.topic} | {e.message}"

end LogEvent

end CoffeeTree
