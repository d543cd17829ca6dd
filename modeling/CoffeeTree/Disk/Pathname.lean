import CoffeeTree.Text.Quoted
import CoffeeTree.Text.Split

/-!
# Path names

A path name is a root, which may be empty, and the names below it. Writing a path name leaves out
empty names and single dots; double dots stay, since they depend on the disk.
-/

namespace CoffeeTree

/-- The pieces of a text between slashes. -/
def Text.splitSlashes (text : List Char) : List (List Char) := split (· = '/') text

/-- The name of a file or a directory. -/
structure Pathname where
  /-- Empty for a relative path name, otherwise one slash or two. -/
  root : String
  parts : List String
  deriving DecidableEq, Repr

/-- Why a path name cannot be given another last name. -/
inductive PathnameError where
  | emptyName (path : Pathname)
  | invalidName (name : String)
  deriving DecidableEq, Repr

namespace Pathname

/-- The names between slashes that count. -/
def namesIn (text : List Char) : List String :=
  ((Text.splitSlashes text).filter fun name ↦ name ≠ [] && name ≠ ['.']).map String.ofList

/-- Two slashes at the start are a root of their own, and any other number is the same as one. -/
def rootOf (text : List Char) : String :=
  match (text.takeWhile (· = '/')).length with
  | 0 => ""
  | 2 => "//"
  | _ => "/"

def ofString (text : String) : Pathname := ⟨rootOf text.toList, namesIn text.toList⟩

def toString (p : Pathname) : String :=
  let text := p.root ++ String.intercalate "/" p.parts
  if text.isEmpty then "." else text

/-- The last name, or nothing. -/
def name (p : Pathname) : String := p.parts.getLastD ""

/-- The directory of a path name. A root is its own. -/
def parent (p : Pathname) : Pathname := { p with parts := p.parts.dropLast }

/-- The path name of a file in a directory. -/
def child (p : Pathname) (name : String) : Pathname := { p with parts := p.parts ++ [name] }

/-- The path name with another last name, which has to be a single name. -/
def withName (p : Pathname) (name : String) : Except PathnameError Pathname :=
  let text := name.toList
  if p.name.isEmpty then .error (.emptyName p)
  else if text.getLast? = some '/' || rootOf text ≠ "" || (namesIn text).length ≠ 1 then
    .error (.invalidName name)
  else .ok (p.parent.child name)

end Pathname

def PathnameError.message : PathnameError → String
  | emptyName path => s!"PosixPath({Text.quoted path.toString}) has an empty name"
  | invalidName name => s!"Invalid name {Text.quoted name}"

end CoffeeTree
