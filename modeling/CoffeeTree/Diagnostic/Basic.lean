import CoffeeTree.Source

/-!
# Diagnostics

What a user is told about an input: a severity, a code that stays the same over time, a message, the
span that it is about, and further labels, notes and help.
-/

namespace CoffeeTree

/-- How bad it is. -/
inductive Severity where
  | error
  | warning
  deriving DecidableEq, Repr

def Severity.name : Severity → String
  | error => "error"
  | warning => "warning"

/-- A span with a message of its own. -/
structure Label where
  span : Span
  message : String
  primary : Bool
  deriving DecidableEq, Repr

/-- One thing to report. -/
structure Diagnostic where
  severity : Severity
  code : String
  message : String
  span : Span
  notes : List String
  help : List String
  labels : List Label
  deriving DecidableEq, Repr

namespace Diagnostic

def isError (d : Diagnostic) : Bool := d.severity = .error

/-- The first character of a file, for what concerns the file as a whole. -/
def fileSpan (file : String) : Span :=
  { startOffset := 0, endOffset := 1, line := 1, column := 1, endLine := 1, endColumn := 2, file }

/-- The tree could not be loaded, or does not belong to the source. -/
def treeFormat (file note : String) : Diagnostic where
  severity := .error
  code := "CSAST1003"
  message := "failed to load upstream parse tree"
  span := fileSpan file
  notes := [note]
  help := ["The tree must be the parser's JSON dump with a `Block` root node."]
  labels := []

/-- No tree was given, and there is none at its usual place. -/
def missingTree (source tree treeName : String) : Diagnostic where
  severity := .error
  code := "CSAST4002"
  message := s!"upstream tree not provided and default tree was not found: {tree}"
  span := fileSpan source
  notes := []
  help := [s!"Dump the parser output to `{treeName}` next to the source, or pass `--tree <path>`."]
  labels := []

def unreadableFile (file note : String) : Diagnostic where
  severity := .error
  code := "CSAST4003"
  message := s!"failed to read file: {file}"
  span := fileSpan file
  notes := [note]
  help := ["Verify the file path exists and is readable."]
  labels := []

def invalidSettings (file note : String) : Diagnostic where
  severity := .error
  code := "CSAST4004"
  message := s!"failed to load config TOML: {file}"
  span := fileSpan file
  notes := [note]
  help := ["Ensure the config payload is valid TOML and matches the expected schema."]
  labels := []

end Diagnostic

end CoffeeTree
