import CoffeeTree.Anchor
import CoffeeTree.Command.Console
import CoffeeTree.Command.Request
import CoffeeTree.Command.Run
import CoffeeTree.Command.Screen
import CoffeeTree.Conversion.Basic
import CoffeeTree.Conversion.Build
import CoffeeTree.Conversion.Error
import CoffeeTree.Conversion.Program
import CoffeeTree.Diagnostic.Basic
import CoffeeTree.Diagnostic.Conversion
import CoffeeTree.Diagnostic.Render
import CoffeeTree.Diagnostic.Report
import CoffeeTree.Disk.Basic
import CoffeeTree.Disk.Pathname
import CoffeeTree.Disk.Text
import CoffeeTree.Json.Basic
import CoffeeTree.Json.Path
import CoffeeTree.Json.Printer
import CoffeeTree.Json.Reader
import CoffeeTree.Literal.Constant
import CoffeeTree.Literal.Number
import CoffeeTree.Literal.Quoted
import CoffeeTree.Location
import CoffeeTree.Log
import CoffeeTree.Main
import CoffeeTree.Node.Basic
import CoffeeTree.Node.Json
import CoffeeTree.Node.Kind
import CoffeeTree.Node.Listing
import CoffeeTree.Normalization
import CoffeeTree.Normalization.Files
import CoffeeTree.Number.Binary64
import CoffeeTree.Number.Shortest
import CoffeeTree.Proofs.AccessChains
import CoffeeTree.Proofs.Ancestry
import CoffeeTree.Proofs.AnchoredRanges
import CoffeeTree.Proofs.Anchors
import CoffeeTree.Proofs.Built
import CoffeeTree.Proofs.ClassBodies
import CoffeeTree.Proofs.Collecting
import CoffeeTree.Proofs.Commands.Faults
import CoffeeTree.Proofs.Commands.Inputs
import CoffeeTree.Proofs.Commands.Sessions
import CoffeeTree.Proofs.Consistency
import CoffeeTree.Proofs.Containment
import CoffeeTree.Proofs.Descendants
import CoffeeTree.Proofs.Equations
import CoffeeTree.Proofs.Hull
import CoffeeTree.Proofs.Kept
import CoffeeTree.Proofs.Lines
import CoffeeTree.Proofs.Literals.Escapes
import CoffeeTree.Proofs.Literals.Integers
import CoffeeTree.Proofs.Literals.LeadingZeros
import CoffeeTree.Proofs.Literals.Strings
import CoffeeTree.Proofs.Loading.Basic
import CoffeeTree.Proofs.Loading.Demands
import CoffeeTree.Proofs.Loading.Fields
import CoffeeTree.Proofs.Loading.Format
import CoffeeTree.Proofs.Loading.Offences
import CoffeeTree.Proofs.Loading.Presentation
import CoffeeTree.Proofs.Loading.RoundTrip
import CoffeeTree.Proofs.Locality
import CoffeeTree.Proofs.Nearest
import CoffeeTree.Proofs.Origins
import CoffeeTree.Proofs.Outside
import CoffeeTree.Proofs.Overruns
import CoffeeTree.Proofs.Parallel
import CoffeeTree.Proofs.Pathnames
import CoffeeTree.Proofs.Paths
import CoffeeTree.Proofs.Positions
import CoffeeTree.Proofs.Recognition.Basic
import CoffeeTree.Proofs.Recognition.Converter
import CoffeeTree.Proofs.Recognition.Unknown
import CoffeeTree.Proofs.Relocation
import CoffeeTree.Proofs.Rendering.Basic
import CoffeeTree.Proofs.Rendering.Comparison
import CoffeeTree.Proofs.Rendering.Lossless
import CoffeeTree.Proofs.Rendering.Preorder
import CoffeeTree.Proofs.Reporting.Alignment
import CoffeeTree.Proofs.Reporting.LineTexts
import CoffeeTree.Proofs.Reporting.Order
import CoffeeTree.Proofs.Reporting.Snapshots
import CoffeeTree.Proofs.Reporting.Spans
import CoffeeTree.Proofs.Reuse
import CoffeeTree.Proofs.Rounding
import CoffeeTree.Proofs.Simulation
import CoffeeTree.Proofs.Sites
import CoffeeTree.Proofs.Translation
import CoffeeTree.Proofs.Virtual
import CoffeeTree.Proofs.Visited
import CoffeeTree.Proofs.Walk.Basic
import CoffeeTree.Proofs.Walk.Converter
import CoffeeTree.Proofs.Walk.Parts
import CoffeeTree.Proofs.Walk.Single
import CoffeeTree.Proofs.Widening
import CoffeeTree.Range
import CoffeeTree.Settings.Basic
import CoffeeTree.Settings.Load
import CoffeeTree.Source
import CoffeeTree.Source.Repository
import CoffeeTree.Terminal.Arguments
import CoffeeTree.Terminal.Box
import CoffeeTree.Terminal.Cells
import CoffeeTree.Terminal.Console
import CoffeeTree.Terminal.Emoji
import CoffeeTree.Terminal.Markup
import CoffeeTree.Terminal.Nested
import CoffeeTree.Terminal.Pretty
import CoffeeTree.Terminal.Style
import CoffeeTree.Terminal.Wrap
import CoffeeTree.Text.Blank
import CoffeeTree.Text.Case
import CoffeeTree.Text.Digit
import CoffeeTree.Text.Encoding
import CoffeeTree.Text.Letter
import CoffeeTree.Text.Limits
import CoffeeTree.Text.Printable
import CoffeeTree.Text.Quoted
import CoffeeTree.Text.Scan
import CoffeeTree.Text.Search
import CoffeeTree.Text.Split
import CoffeeTree.Text.Tabs
import CoffeeTree.Toml.Basic
import CoffeeTree.Toml.Document
import CoffeeTree.Toml.Reader
import CoffeeTree.Toml.Scalar
import CoffeeTree.Traced
import CoffeeTree.Tree.Basic
import CoffeeTree.Tree.Input
import CoffeeTree.Tree.Json
import CoffeeTree.Tree.Load
