import CoffeeTree.Command.Request
import CoffeeTree.Command.Screen
import CoffeeTree.Diagnostic.Report
import CoffeeTree.Json.Printer
import CoffeeTree.Node.Json
import CoffeeTree.Node.Listing
import CoffeeTree.Normalization
import CoffeeTree.Settings.Load

/-!
# Running commands

A command reads files, prints on a console and logs. It ends normally, or early with an exit code
once a problem has been reported, or with a fault: a problem that it does not report as a
diagnostic.
-/

namespace CoffeeTree.Command

/-- Problems that end a command without a diagnostic. -/
inductive Fault where
  /-- The tree's path name cannot be formed. -/
  | pathname (error : PathnameError)
  /-- A file that is read as text is not UTF-8. -/
  | notText (path : Pathname)
  /-- A file could not be looked for, or the result could not be written. -/
  | file (error : FileError)
  /-- A message holds a tag that cannot be read. -/
  | tag (error : TagError)
  /-- An integer cannot be read or written. -/
  | limit (error : Text.LimitError)
  /-- The result cannot be moved in that far. -/
  | indentation
  deriving DecidableEq, Repr

def Fault.message : Fault → String
  | pathname error => error.message
  | notText path => s!"{path.toString} is not UTF-8"
  | file error => error.message
  | tag error => error.message
  | limit error => error.message
  | indentation => "cannot fit 'int' into an index-sized integer"

/-- Why a command ends early. -/
inductive Stop where
  | exit (code : Nat)
  | fault (fault : Fault)
  deriving DecidableEq, Repr

/-- What a command has printed and logged. -/
structure Transcript where
  output : String
  log : List LogEvent

/-- Commands keep what they printed and logged when they end early. -/
abbrev Session (m : Type → Type) := ExceptT Stop (StateT Transcript m)

section

variable {m : Type → Type} [Monad m] [MonadFiles m]

def say (text : String) : Session m Unit :=
  modify fun t ↦ { t with output := t.output ++ text }

/-- Prints a message without its tags. -/
def announce (console : Console) (message : String) : Session m Unit :=
  match console.message message with
  | .ok text => say text
  | .error e => throw (.fault (.tag e))

def note (events : List LogEvent) : Session m Unit :=
  modify fun t ↦ { t with log := t.log ++ events }

/-- Prints a report, if the places of all diagnostics can be written. -/
def report (console : Console) (source : Option Source) (ds : List Diagnostic) :
    Session m Unit := do
  if ds.all Diagnostic.isPlaceable then
    let result ←
      ((Report.printed console.text source ds).run.run' .empty : m (Except ReadError String))
    match result with
    | .ok text => say text
    | .error (.notText path) => throw (.fault (.notText path))
    | .error (.file e) => throw (.fault (.file e))
  else throw (.fault (.limit .written))

/-- Reports one problem and ends the command. -/
def refuse {α : Type} (console : Console) (d : Diagnostic) : Session m α := do
  report console none [d]
  throw (.exit 1)

/-- The settings file to use, if there is one. One that was not named is noted. -/
def settingsPath (inputs : Inputs) : Session m (Option Pathname) := do
  match inputs.settings with
  | some path => pure (some path)
  | none =>
    match ← (Settings.infer inputs.source : m (Except FileError (Option Pathname))) with
    | .error e => throw (.fault (.file e))
    | .ok found => do
      note (found.toList.map fun path ↦ .settingsInferred path.toString)
      pure found

def loadSettings (console : Console) (inputs : Inputs) : Session m Settings := do
  match ← settingsPath inputs with
  | none => pure Settings.default
  | some path =>
    match ← (Settings.load path : m (Except SettingsError Settings)) with
    | .ok settings => pure settings
    | .error e => refuse console (.invalidSettings path.toString e.message)

/-- The path name of the tree. Unless the user named it, the file has to be there. -/
def findTree (console : Console) (inputs : Inputs) (settings : Settings) : Session m Pathname := do
  match inputs.tree with
  | some path => pure path
  | none =>
    match settings.treePath inputs.source with
    | .error e => throw (.fault (.pathname e))
    | .ok path =>
      match ← (MonadFiles.isFile path : m (Except FileError Bool)) with
      | .ok true => pure path
      | .ok false => refuse console (.missingTree inputs.source.toString path.toString path.name)
      | .error e => throw (.fault (.file e))

def readInput (console : Console) (path : Pathname) : Session m (List Char) := do
  match ← (readText path : m (Except ReadError (List Char))) with
  | .ok text => pure text
  | .error (.notText p) => throw (.fault (.notText p))
  | .error (.file e) => refuse console (.unreadableFile path.toString e.message)

/-- Reports what came up in a normalization. An error ends the command. -/
def conclude (console : Console) (result : Except Text.LimitError Normalization) :
    Session m (Node × List Diagnostic) :=
  match result with
  | .error e => throw (.fault (.limit e))
  | .ok n => do
    report console (some n.source) n.diagnostics
    match n.ast with
    | some node => if n.hasErrors then throw (.exit 1) else pure (node, n.diagnostics)
    | none => throw (.exit 1)

/-- Normalizes the source. -/
def normalizeInputs (console : Console) (inputs : Inputs) (settings : Settings) :
    Session m (Node × List Diagnostic) := do
  let treePath ← findTree console inputs settings
  let text ← readInput console inputs.source
  let tree ← readInput console treePath
  let normalizing := normalize ⟨inputs.source.toString, treePath.toString⟩ text (.text tree)
  note normalizing.events
  conclude console normalizing.result

/-- Writes the result to a file, in directories that are made as needed. -/
def writeResult (console : Console) (path : Pathname) (text : String) : Session m Unit := do
  match ← (makeDirectories path.parent : m (Except FileError Unit)) with
  | .error e => throw (.fault (.file e))
  | .ok () =>
    match ← (writeText path (text ++ "\n") : m (Except FileError Unit)) with
    | .error e => throw (.fault (.file e))
    | .ok () => do
      note [.treeWritten path.toString]
      announce console s!"Wrote {path.toString}"

/-- The first indentation that is too wide. -/
def indentLimit : Nat := 0x8000000000000000

/-- How JSON is laid out for an indentation. -/
def jsonLayout (indent : Nat) : Json.Layout := if indent = 0 then .line else .indented indent

/-- The JSON text of a syntax tree. -/
def resultText (settings : Settings) (noRaw : Bool) (node : Node) : Except Fault String :=
  let json := node.toJson (settings.includeRaw && !noRaw)
  if indentLimit ≤ settings.indent then .error .indentation
  else if json.isWritable then .ok (json.render (jsonLayout settings.indent))
  else .error (.limit .written)

/-- Goes on with a text, or ends with the fault that there is none. -/
def orFault (text : Except Fault String) (next : String → Session m Unit) : Session m Unit :=
  match text with
  | .ok text => next text
  | .error fault => throw (.fault fault)

def convert (console : Console) (inputs : Inputs) (json noRaw : Bool)
    (output : Option Pathname) : Session m Unit := do
  let settings ← loadSettings console inputs
  let (node, _) ← normalizeInputs console inputs settings
  match output with
  | some path => orFault (resultText settings noRaw node) (writeResult console path)
  | none =>
    if json || settings.format = .json then
      orFault (resultText settings noRaw node) fun text ↦ say (text ++ "\n")
    else say (console.node node)

def check (console : Console) (inputs : Inputs) : Session m Unit := do
  let settings ← loadSettings console inputs
  let (node, diagnostics) ← normalizeInputs console inputs settings
  let nodes := node.listing
  let status := if diagnostics.isEmpty then "No diagnostics."
    else s!"{diagnostics.length} warning(s)."
  let virtual := nodes.countP Node.virtual
  say (console.text s!"{status} {nodes.length} node(s), {virtual} virtual.")

/-- Does what the user asks for. -/
def perform (console : Console) : Request → Session m Unit
  | .welcome => say (welcome console)
  | .help => say help
  | .kinds => say (console.table kindsTable)
  | .convert inputs json noRaw output => convert console inputs json noRaw output
  | .check inputs => check console inputs

/-- How a command ended. -/
structure Outcome where
  exitCode : Nat
  fault : Option Fault
  output : String
  log : List LogEvent

/-- Runs a command on a console. Only events of the request's level are logged. -/
def run (console : Console) (request : Request) : m Outcome := do
  let (result, transcript) ← (perform console request).run.run ⟨"", []⟩
  let log := transcript.log.filter (request.logLevel.rank ≤ ·.level.rank)
  match result with
  | .ok () => pure ⟨0, none, transcript.output, log⟩
  | .error (.exit code) => pure ⟨code, none, transcript.output, log⟩
  | .error (.fault fault) => pure ⟨1, some fault, transcript.output, log⟩

end

end CoffeeTree.Command
