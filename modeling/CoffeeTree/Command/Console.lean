import CoffeeTree.Node.Basic

/-!
# Consoles

What a command needs of the place where it prints: texts, messages with tags, syntax trees, panels
and tables. How they are laid out, and in which width, is left to the console.
-/

namespace CoffeeTree

/-- Why a message with tags cannot be printed. -/
inductive TagError where
  /-- A tag closes a style that is not open. -/
  | unopened
  /-- The argument of an event is not one that can handle it. -/
  | invalidHandler
  /-- A number of a colour is missing. -/
  | missingNumber
  deriving DecidableEq, Repr

def TagError.message : TagError → String
  | unopened => "a tag closes a style that is not open"
  | invalidHandler => "the handler of an event is not valid"
  | missingNumber => "a number of a colour is missing"

/-- A column of a table. -/
structure Console.Column where
  heading : String
  cells : List String
  /-- The share of the page that it gets if the table fills the page. -/
  share : Nat

/-- A table with a title. -/
structure Console.Table where
  title : String
  columns : List Console.Column
  fillsPage : Bool

/-- What is printed for each thing there is to print. -/
structure Console where
  /-- A text that holds no tags. -/
  text : String → String
  /-- A message, without its tags. -/
  message : String → Except TagError String
  node : Node → String
  panel (title text : String) : String
  table : Console.Table → String

end CoffeeTree
