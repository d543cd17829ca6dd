import CoffeeTree.Text.Blank
import CoffeeTree.Toml.Document

/-!
# Settings

What a settings file can say. The file is checked in a fixed order, and the first problem is
reported: the version, then the table about trees, then the table about output; in a table the
unknown keys come first.
-/

namespace CoffeeTree

/-- How a syntax tree is printed. -/
inductive OutputFormat where
  | json
  | pretty
  deriving DecidableEq, Repr

namespace OutputFormat

def all : List OutputFormat := [json, pretty]

def name : OutputFormat → String
  | json => "json"
  | pretty => "pretty"

def ofName? (text : String) : Option OutputFormat := all.find? (·.name = text)

end OutputFormat

/-- What can be set. -/
structure Settings where
  /-- What the name of a tree has after the name of its source. -/
  treeSuffix : String
  format : OutputFormat
  /-- How far each level of JSON is moved in. With zero everything is on one line. -/
  indent : Nat
  /-- Whether JSON repeats the source text of each node. -/
  includeRaw : Bool
  deriving DecidableEq, Repr

namespace Settings

def default : Settings := ⟨".nodes.json", .pretty, 2, true⟩

/-- The only version of settings. -/
def version : String := "1"

/-- The name of a settings file. -/
def fileName : String := "csast.toml"

/-- What is wrong with a settings file. -/
inductive Problem where
  | badVersion
  | notATable (key : String)
  | unknownKeys (table : String) (keys : List String)
  | emptySuffix
  | notAString (key : String)
  | notAFormat (key : String)
  | notAnInteger (key : String)
  | negative (key : String)
  | notABoolean (key : String)
  deriving DecidableEq, Repr

def Problem.message : Problem → String
  | badVersion => s!"`schema_version` must be \"{version}\""
  | notATable key => s!"`{key}` must be a TOML table/object"
  | unknownKeys table keys => s!"`{table}` has unknown key(s): " ++ ", ".intercalate keys
  | emptySuffix => "`upstream.tree_suffix` must be a non-empty string"
  | notAString key => s!"`{key}` must be a string"
  | notAFormat key =>
    s!"`{key}` must be one of: " ++ ", ".intercalate (OutputFormat.all.map OutputFormat.name)
  | notAnInteger key => s!"`{key}` must be an integer"
  | negative key => s!"`{key}` must be >= 0"
  | notABoolean key => s!"`{key}` must be a boolean"

open Toml

/-- The table under a key, which is empty if there is none. -/
def tableAt (root : Table) (key : String) : Except Problem Table :=
  match root.get? key with
  | none => .ok []
  | some (.table entries) => .ok entries
  | some _ => .error (.notATable key)

/-- Refuses keys that are not known, and names them in order. -/
def checkKeys (name : String) (known : List String) (table : Table) : Except Problem Unit :=
  let unknown := (table.map (·.1)).filter (!known.contains ·)
  if unknown.isEmpty then .ok ()
  else .error (.unknownKeys name (unknown.mergeSort fun a b ↦ !(b < a)))

/-- A value that may be missing. -/
def valueOr {α : Type} (table : Table) (key : String) (default : α)
    (read : Toml → Except Problem α) : Except Problem α :=
  match table.get? key with
  | none => .ok default
  | some found => read found

/-- The suffix of trees. Blanks around it do not count. -/
def readSuffix : Toml → Except Problem String
  | .str text =>
    let stripped := Text.strip text.toList
    if stripped.isEmpty then .error .emptySuffix else .ok (String.ofList stripped)
  | _ => .error .emptySuffix

def readFormat (key : String) : Toml → Except Problem OutputFormat
  | .str text =>
    match OutputFormat.ofName? text with
    | some format => .ok format
    | none => .error (.notAFormat key)
  | _ => .error (.notAString key)

def readIndent (key : String) : Toml → Except Problem Nat
  | .int n => if n < 0 then .error (.negative key) else .ok n.toNat
  | _ => .error (.notAnInteger key)

def readBoolean (key : String) : Toml → Except Problem Bool
  | .bool b => .ok b
  | _ => .error (.notABoolean key)

/-- Accepts the one version there is, which is also meant if none is given. -/
def checkVersion (root : Table) : Except Problem Unit :=
  match root.get? "schema_version" with
  | none => .ok ()
  | some (.str text) => if text = version then .ok () else .error .badVersion
  | some _ => .error .badVersion

/-- The settings in a document. -/
def ofDocument (root : Table) : Except Problem Settings := do
  checkVersion root
  let trees ← tableAt root "upstream"
  checkKeys "upstream" ["tree_suffix"] trees
  let treeSuffix ← valueOr trees "tree_suffix" default.treeSuffix readSuffix
  let output ← tableAt root "output"
  checkKeys "output" ["format", "indent", "include_raw"] output
  let format ← valueOr output "format" default.format (readFormat "output.format")
  let indent ← valueOr output "indent" default.indent (readIndent "output.indent")
  let includeRaw ← valueOr output "include_raw" default.includeRaw
    (readBoolean "output.include_raw")
  .ok { treeSuffix, format, indent, includeRaw }

end Settings

end CoffeeTree
