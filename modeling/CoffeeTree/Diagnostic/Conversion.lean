import CoffeeTree.Conversion.Error
import CoffeeTree.Diagnostic.Basic
import CoffeeTree.Text.Quoted

/-!
# Diagnostics about conversions

How the failures of a conversion, and the locations that it clamped, are told to the user.
-/

namespace CoffeeTree

/-- Whether the line and the column of a position can be written, counted from one. -/
def Position.isWritable (p : Position Nat) : Bool :=
  Text.isWritable (p.line + 1) && Text.isWritable (p.column + 1)

def Location.isWritable (loc : Location) : Bool := loc.first.isWritable && loc.last.isWritable

/-- The span of a location. A node without location is reported at the start of the source, and a
location with a line that the source does not have at the position that it claims. -/
def Source.locationSpan (source : Source) : Option Location → Span
  | none => source.pointSpan 1 1
  | some loc =>
    match source.offset loc.first.line loc.first.column,
        source.offset loc.last.line loc.last.column with
    | .ok start, .ok last => source.span start (last + 1)
    | _, _ => source.pointSpan (loc.first.line + 1) (loc.first.column + 1)

namespace Diagnostic

/-- What to do when the tree and the source do not fit together. -/
def sameSourceHelp : String :=
  "Check that the upstream tree was produced from this exact source text."

def unrecognized (source : Source) (e : Unrecognized) : Diagnostic :=
  let type := e.node.typeName
  let span := source.locationSpan e.node.location
  { severity := .error
    code := "CSAST1001"
    message := e.heading
    span
    labels := [⟨span, s!"upstream `{type}` node", true⟩]
    notes := s!"node type: {type}" ::
      if e.ancestors.isEmpty then [] else ["inside: " ++ " > ".intercalate e.ancestors]
    help := ["Every upstream node kind must map to a normalized node; extend the converter."] }

def anchorNotFound (source : Source) (side : Side) (line column : Nat) (anchor : String) :
    Diagnostic :=
  let preposition := match side with
    | .right => "after"
    | .left => "before"
  { severity := .error
    code := "CSAST1002"
    message := ConversionError.anchorMessage side line column anchor
    span := source.pointSpan line column
    labels := []
    notes := [s!"searched {preposition} {line}:{column} for {Text.quoted anchor}"]
    help := [sameSourceHelp] }

/-- A location that runs past the end of the source. -/
def clamped (source : Source) (loc : Location) : Diagnostic :=
  let first := s!"{loc.first.line + 1}:{loc.first.column + 1}"
  let last := s!"{loc.last.line + 1}:{loc.last.column + 1}"
  { severity := .warning
    code := "CSAST1004"
    message := "upstream location runs past the end of the source; range was clamped"
    span := source.locationSpan (some loc)
    labels := []
    notes := [s!"upstream span {first}-{last}"]
    help := [sameSourceHelp] }

/-- The warning about a location, whose lines and columns have to be written. -/
def ofClamped (source : Source) (loc : Location) : Except Text.LimitError Diagnostic :=
  if loc.isWritable then .ok (clamped source loc) else .error .written

/-- The diagnostic for a failed conversion of a source with the tree of the given name. If the error
cannot be put into words, that is what is reported. -/
def ofConversionError (source : Source) (tree : String) (e : ConversionError) : Diagnostic :=
  if e.isWritable then
    match e with
    | .unrecognized e => unrecognized source e
    | .anchorNotFound side line column anchor => anchorNotFound source side line column anchor
    | .outside e => treeFormat tree e.message
  else treeFormat tree Text.LimitError.written.message

end Diagnostic

end CoffeeTree
