import CoffeeTree.Command.Request

/-!
# Command lines

Options come in a long and a short form. A long option takes its value after an equals sign or from
the next argument; short options may be joined, and the last of them takes the rest of the argument,
or the next one, as its value. Two dashes end the options. If an option is given more than once, the
last one counts.
-/

namespace CoffeeTree.Terminal.Arguments

open Command

/-- The options there are. -/
inductive Flag where
  | help
  | tree
  | settings
  | json
  | noRaw
  | output
  | noColor
  | logLevel
  deriving DecidableEq, Repr

namespace Flag

def long : Flag → String
  | help => "--help"
  | tree => "--tree"
  | settings => "--config"
  | json => "--json"
  | noRaw => "--no-raw"
  | output => "--output"
  | noColor => "--no-color"
  | logLevel => "--log-level"

def short? : Flag → Option Char
  | help => some 'h'
  | tree => some 't'
  | settings => some 'c'
  | json => some 'j'
  | noRaw => none
  | output => some 'o'
  | noColor => some 'n'
  | logLevel => some 'l'

def takesValue : Flag → Bool
  | tree => true
  | settings => true
  | output => true
  | logLevel => true
  | _ => false

end Flag

/-- The commands there are. -/
inductive Verb where
  | convert
  | check
  | kinds
  deriving DecidableEq, Repr

namespace Verb

def all : List Verb := [convert, check, kinds]

def name : Verb → String
  | convert => "convert"
  | check => "check"
  | kinds => "kinds"

def ofName? (text : String) : Option Verb := all.find? (·.name = text)

/-- The options of a command. -/
def flags : Verb → List Flag
  | convert => [.help, .tree, .settings, .json, .noRaw, .output, .noColor, .logLevel]
  | check => [.help, .tree, .settings, .noColor, .logLevel]
  | kinds => [.help, .noColor]

end Verb

/-- What is wrong with a command line. -/
inductive UsageError where
  | unknownOption (text : String)
  | missingValue (flag : Flag)
  | unexpectedValue (flag : Flag)
  | unknownCommand (name : String)
  | missingFile
  | extraArgument (text : String)
  | unknownLevel (text : String)
  deriving DecidableEq, Repr

def UsageError.message : UsageError → String
  | unknownOption text => s!"no such option: {text}"
  | missingValue flag => s!"option {flag.long} requires an argument"
  | unexpectedValue flag => s!"option {flag.long} does not take a value"
  | unknownCommand name => s!"no such command: {name}"
  | missingFile => "missing argument: FILE"
  | extraArgument text => s!"got unexpected extra argument: {text}"
  | unknownLevel text => s!"no such log level: {text}"

/-! ### Options -/

/-- The options of a command line with their values, and its other arguments. -/
structure Split where
  options : List (Flag × String)
  others : List String

namespace Split

def cons (option : Flag × String) (s : Split) : Split := { s with options := option :: s.options }

def has (s : Split) (flag : Flag) : Bool := s.options.any (·.1 = flag)

/-- The last value of an option. -/
def value? (s : Split) (flag : Flag) : Option String :=
  (s.options.reverse.find? (·.1 = flag)).map (·.2)

end Split

/-- What an argument says about options: those that are complete, and one that takes the next
argument as its value. -/
structure Reading where
  complete : List (Flag × String)
  waiting : Option Flag

/-- Reads joined short options. -/
def readShort (flags : List Flag) : List Char → Except UsageError Reading
  | [] => .ok ⟨[], none⟩
  | c :: rest =>
    match flags.find? (·.short? = some c) with
    | none => .error (.unknownOption (String.ofList ['-', c]))
    | some flag =>
      if flag.takesValue then
        if rest.isEmpty then .ok ⟨[], some flag⟩ else .ok ⟨[(flag, String.ofList rest)], none⟩
      else do
        let others ← readShort flags rest
        .ok { others with complete := (flag, "") :: others.complete }

/-- Reads a long option, given what stands before and after its first equals sign. -/
def readLong (flag : Flag) (value : Option String) : Except UsageError Reading :=
  match flag.takesValue, value with
  | true, some v => .ok ⟨[(flag, v)], none⟩
  | true, none => .ok ⟨[], some flag⟩
  | false, some _ => .error (.unexpectedValue flag)
  | false, none => .ok ⟨[(flag, "")], none⟩

/-- Reads an argument that starts with a dash and has more than that. -/
def readOption (flags : List Flag) (arg : List Char) : Except UsageError Reading :=
  let name := String.ofList (arg.takeWhile (· ≠ '='))
  let value := match arg.dropWhile (· ≠ '=') with
    | [] => none
    | _ :: rest => some (String.ofList rest)
  match flags.find? (·.long = name) with
  | some flag => readLong flag value
  | none =>
    match arg with
    | '-' :: '-' :: _ => .error (.unknownOption name)
    | _ => readShort flags (arg.drop 1)

/-- Whether an argument is written like an option. -/
def looksLikeOption (arg : String) : Bool :=
  match arg.toList with
  | '-' :: _ :: _ => true
  | _ => false

/-- Splits arguments into options and others. Unless they may be mixed, the options end at the first
other argument. -/
def split (flags : List Flag) (mixed : Bool) : List String → Except UsageError Split
  | [] => .ok ⟨[], []⟩
  | arg :: rest =>
    if arg = "--" then .ok ⟨[], rest⟩
    else if looksLikeOption arg then do
      let reading ← readOption flags arg.toList
      match reading.waiting, rest with
      | none, rest => do
        let s ← split flags mixed rest
        .ok (reading.complete.foldr .cons s)
      | some flag, [] => .error (.missingValue flag)
      | some flag, value :: more => do
        let s ← split flags mixed more
        .ok (reading.complete.foldr .cons (s.cons (flag, value)))
    else if mixed then do
      let s ← split flags mixed rest
      .ok { s with others := arg :: s.others }
    else .ok ⟨[], arg :: rest⟩

/-! ### Requests -/

/-- The names of levels on the command line. -/
def levelOf? : String → Option LogLevel
  | "debug" => some .debug
  | "info" => some .info
  | "warning" => some .warning
  | "error" => some .error
  | _ => none

def readLevel (s : Split) : Except UsageError LogLevel :=
  match s.value? .logLevel with
  | none => .ok .warning
  | some text =>
    match levelOf? text with
    | some level => .ok level
    | none => .error (.unknownLevel text)

def readInputs (s : Split) : Except UsageError Inputs := do
  match s.others with
  | [] => .error .missingFile
  | _ :: extra :: _ => .error (.extraArgument extra)
  | [file] =>
    let logLevel ← readLevel s
    .ok
      { source := .ofString file
        tree := (s.value? .tree).map .ofString
        settings := (s.value? .settings).map .ofString
        logLevel }

/-- The request of a command with its own arguments. -/
def requestOf (verb : Verb) (args : List String) : Except UsageError Request := do
  let s ← split verb.flags true args
  if s.has .help then .ok .help
  else
    match verb with
    | .convert =>
      let inputs ← readInputs s
      .ok (.convert inputs (s.has .json) (s.has .noRaw) ((s.value? .output).map .ofString))
    | .check =>
      let inputs ← readInputs s
      .ok (.check inputs)
    | .kinds =>
      match s.others with
      | [] => .ok .kinds
      | extra :: _ => .error (.extraArgument extra)

/-- Reads a command line. -/
def parse (args : List String) : Except UsageError Request := do
  let top ← split [.help] false args
  if top.has .help then .ok .help
  else
    match top.others with
    | [] => .ok .welcome
    | name :: rest =>
      match Verb.ofName? name with
      | none => .error (.unknownCommand name)
      | some verb => requestOf verb rest

end CoffeeTree.Terminal.Arguments
