import CircuitSheet.Binary64
import CircuitSheet.Text.LowerCase
import CircuitSheet.Text.Quoted
import CircuitSheet.Text.Pieces
import CircuitSheet.SExpr.Writer
import CircuitSheet.SExpr.Reader
import CircuitSheet.Circuit.PowerKeys
import CircuitSheet.Json.Reader
import CircuitSheet.Json.Writer
import CircuitSheet.Wiring.Inference
import CircuitSheet.Wiring.Audit
import CircuitSheet.Description.LineForm
import CircuitSheet.Description.BlockForm
import CircuitSheet.Floorplan.Arrangement
import CircuitSheet.Floorplan.Statistics
import CircuitSheet.Wire.Router
import CircuitSheet.Boundary.Review
import CircuitSheet.Sheet.Document
import CircuitSheet.Sheet.Content
import CircuitSheet.Yaml.Lexer
import CircuitSheet.Yaml.Node
import CircuitSheet.Description.Dialect
import CircuitSheet.Export.Drawing
import CircuitSheet.Main
import CircuitSheet.Proofs.SExpr.Number
import CircuitSheet.Proofs.SExpr.RoundTrip
import CircuitSheet.Proofs.SExpr.Grammar
import CircuitSheet.Proofs.Circuit.PowerKeys
import CircuitSheet.Proofs.Exact.Decimal
import CircuitSheet.Proofs.Sheet.RoundTrip
import CircuitSheet.Proofs.Sheet.Definitions
import CircuitSheet.Proofs.Sheet.Stability
import CircuitSheet.Proofs.Floorplan.Room
import CircuitSheet.Proofs.Wiring.Nets
import CircuitSheet.Proofs.Wiring.Direction
import CircuitSheet.Proofs.Wire.Clearance
import CircuitSheet.Proofs.Boundary.Correction
import CircuitSheet.Proofs.Wiring.Order
import CircuitSheet.Proofs.Description.Forms
import CircuitSheet.Proofs.Description.Entries
import CircuitSheet.Proofs.Wiring.Registration
import CircuitSheet.Proofs.Wiring.Guesses
import CircuitSheet.Proofs.Drawing.Connections
import CircuitSheet.Proofs.Wiring.GuessedNets
import CircuitSheet.Proofs.Drawing.NetNames
import CircuitSheet.Proofs.Sheet.References
import CircuitSheet.Proofs.Description.ForeignSections
import CircuitSheet.Proofs.Binary64.Parts
import CircuitSheet.Proofs.Binary64.Rounding
import CircuitSheet.Proofs.Binary64.Arithmetic
import CircuitSheet.Proofs.Binary64.Literal
import CircuitSheet.Proofs.Decimal.Shortest
import CircuitSheet.Proofs.Binary64.Range
import CircuitSheet.Proofs.Binary64.Turning
import CircuitSheet.Proofs.Sheet.Finite
import CircuitSheet.Proofs.Drawing.Routes
import CircuitSheet.Proofs.Description.Names
import CircuitSheet.Proofs.Floorplan.Stability
import CircuitSheet.Proofs.Wire.Star
import CircuitSheet.Proofs.Boundary.Suggestions
import CircuitSheet.Proofs.Wiring.Neighbours
import CircuitSheet.Proofs.Floorplan.Arranged
import CircuitSheet.Proofs.Drawing.Positions
import CircuitSheet.Proofs.Floorplan.Positions
import CircuitSheet.Proofs.Wire.Merging
import CircuitSheet.Proofs.Wire.Attempts
import CircuitSheet.Proofs.SExpr.Refusals
import CircuitSheet.Proofs.SExpr.Failures
import CircuitSheet.Proofs.Description.Surface
import CircuitSheet.Proofs.Description.Arrows
import CircuitSheet.Proofs.Description.VoidLines
import CircuitSheet.Proofs.Sheet.Pins
import CircuitSheet.Proofs.Binary64.Order
import CircuitSheet.Proofs.Binary64.Steps
import CircuitSheet.Proofs.Floorplan.Passes
import CircuitSheet.Proofs.Floorplan.Returns
import CircuitSheet.Proofs.Circuit.KeySearch
import CircuitSheet.Proofs.Sheet.IdentifierTexts
import CircuitSheet.Proofs.Sheet.Identifiers
