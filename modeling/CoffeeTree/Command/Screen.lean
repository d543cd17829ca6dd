import CoffeeTree.Command.Console

/-!
# Fixed screens

The welcome screen, the list of node kinds and the help text.
-/

namespace CoffeeTree.Command

def version : String := "0.1.0"

def welcomeText : String :=
  s!"Welcome to csast v{version}\n\n" ++
    "Converts a CoffeeScript parser's tree into a normalized AST with exact source ranges."

/-- What one can do, and how. -/
def quickStart : List (String × String) :=
  [("Convert to JSON", "csast convert app.coffee --json"),
    ("Explicit tree dump", "csast convert app.coffee -t app.nodes.json"),
    ("Check only", "csast check app.coffee"),
    ("Node vocabulary", "csast kinds")]

/-- The quick start table fills the page, and its second column is twice as wide as the first. -/
def quickStartTable : Console.Table where
  title := "Quick Start"
  columns := [⟨"Workflow", quickStart.map (·.1), 1⟩, ⟨"Command", quickStart.map (·.2), 2⟩]
  fillsPage := true

def welcome (console : Console) : String :=
  console.panel "csast CLI" welcomeText ++ console.table quickStartTable ++
    console.text "Use `csast --help` for full command documentation."

def kindsTable : Console.Table where
  title := "Node kinds"
  columns := [⟨"Kind", Kind.all.map Kind.name, 1⟩]
  fillsPage := false

def help : String :=
  "Usage: csast [COMMAND] [OPTIONS]\n\n" ++
    "Commands:\n" ++
    "  convert FILE  Convert a source file and its upstream tree to a normalized AST.\n" ++
    "  check FILE    Convert a source file and report diagnostics only.\n" ++
    "  kinds         List the normalized node kinds.\n"

end CoffeeTree.Command
