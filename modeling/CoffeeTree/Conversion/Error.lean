import CoffeeTree.Anchor
import CoffeeTree.Json.Printer
import CoffeeTree.Traced
import CoffeeTree.Tree.Json

/-!
# Conversions and how they fail

A conversion turns part of a parse tree into part of a syntax tree. It records the locations that it
had to clamp because they run past the end of the source, and it fails in one of three ways: the
tree holds something that has no counterpart, an anchor is not in the source, or a location has a
line that the source does not have.
-/

namespace CoffeeTree

/-- Why a node has no counterpart. -/
inductive Cause where
  | unknownType
  | emptyParens
  | emptyBlock
  | numericLiteral (text : String)
  | booleanLiteral (text : String)
  | binaryOperator (operator : String)
  | unaryOperator (operator : String)
  | propertyType (type : String)
  | classMemberType (type : String)
  deriving DecidableEq, Repr

/-- What there is to say beyond the type of the node. -/
def Cause.detail? : Cause → Option String
  | unknownType => none
  | emptyParens => some "parenthesized expression is empty"
  | emptyBlock => some "empty block where an expression is expected"
  | numericLiteral text => some s!"unimplemented numeric literal: {text}"
  | booleanLiteral text => some s!"unknown boolean literal: {text}"
  | binaryOperator operator => some s!"unknown binary operator: {operator}"
  | unaryOperator operator => some s!"unknown unary operator: {operator}"
  | propertyType type => some s!"unknown property type: {type}"
  | classMemberType type => some s!"unknown class member type: {type}"

/-- A node without counterpart, and the types of the nodes around it, the outermost first. -/
structure Unrecognized where
  node : Tree
  ancestors : List String
  cause : Cause

namespace Unrecognized

def heading (e : Unrecognized) : String :=
  e.cause.detail?.getD s!"unknown node type: {e.node.typeName}"

/-- The heading and the node in full. -/
def message (e : Unrecognized) : String :=
  e.heading ++ "\n" ++ e.node.toJson.render (.indented 2)

end Unrecognized

/-- Why a conversion failed. -/
inductive ConversionError where
  | unrecognized (error : Unrecognized)
  /-- An anchor does not occur on one side of a line and a column, which count from one. -/
  | anchorNotFound (side : Side) (line column : Nat) (anchor : String)
  | outside (error : PositionError)

namespace ConversionError

/-- How messages describe a search for an anchor. -/
def anchorMessage (side : Side) (line column : Nat) (anchor : String) : String :=
  match side with
  | .right =>
    s!"unable to expand location ending at {line}:{column} because it is not followed by " ++
      Json.quote anchor
  | .left =>
    s!"unable to expand location starting at {line}:{column} because it is not preceded by " ++
      Json.quote anchor

def message : ConversionError → String
  | unrecognized error => error.message
  | anchorNotFound side line column anchor => anchorMessage side line column anchor
  | outside error => error.message

/-- Whether all integers in the message can be written. -/
def isWritable : ConversionError → Bool
  | unrecognized error => error.node.toJson.isWritable
  | anchorNotFound _ line column _ => Text.isWritable line && Text.isWritable column
  | outside error => error.isWritable

def ofAnchor : AnchorError → ConversionError
  | .notFound side line column anchor => anchorNotFound side line column anchor
  | .outside error => outside error

end ConversionError

/-- A conversion records the locations that it had to clamp. -/
abbrev Conversion := Traced Location ConversionError

end CoffeeTree
