import EscapeTime.Binary
import EscapeTime.CommandLine
import EscapeTime.CommandLine.Arguments
import EscapeTime.CommandLine.Failure
import EscapeTime.CommandLine.Files
import EscapeTime.CommandLine.Script
import EscapeTime.Complex
import EscapeTime.Datum
import EscapeTime.Decimal
import EscapeTime.Decimal.Shortest
import EscapeTime.Decimal.Text
import EscapeTime.Dictionary
import EscapeTime.Error
import EscapeTime.Formula
import EscapeTime.Formula.Code
import EscapeTime.Formula.Mode
import EscapeTime.Formula.Parse
import EscapeTime.Formula.Value
import EscapeTime.Json
import EscapeTime.Main
import EscapeTime.Markup
import EscapeTime.Palette
import EscapeTime.Preset
import EscapeTime.Proofs.Binary.Nearest
import EscapeTime.Proofs.Binary.Packed
import EscapeTime.Proofs.Binary.Position
import EscapeTime.Proofs.Binary.Product
import EscapeTime.Proofs.CommandLine.Effect
import EscapeTime.Proofs.Decimal.Midpoint
import EscapeTime.Proofs.Decimal.Order
import EscapeTime.Proofs.Decimal.Pointed
import EscapeTime.Proofs.Decimal.Reading
import EscapeTime.Proofs.Decimal.Reread
import EscapeTime.Proofs.Decimal.Shortest
import EscapeTime.Proofs.Decimal.Sparse
import EscapeTime.Proofs.Formula.Acceptance
import EscapeTime.Proofs.Formula.Blame
import EscapeTime.Proofs.Formula.Code
import EscapeTime.Proofs.Formula.Cursor
import EscapeTime.Proofs.Formula.Descent
import EscapeTime.Proofs.Formula.Display
import EscapeTime.Proofs.Formula.FirstFault
import EscapeTime.Proofs.Formula.Grammar
import EscapeTime.Proofs.Formula.Leaves
import EscapeTime.Proofs.Formula.Modes
import EscapeTime.Proofs.Formula.Orbit
import EscapeTime.Proofs.Formula.Order
import EscapeTime.Proofs.Formula.Preservation
import EscapeTime.Proofs.Formula.Renaming
import EscapeTime.Proofs.Formula.Signals
import EscapeTime.Proofs.Formula.Spelling
import EscapeTime.Proofs.Formula.Unambiguous
import EscapeTime.Proofs.Formula.Written
import EscapeTime.Proofs.Layout
import EscapeTime.Proofs.Markup.Carried
import EscapeTime.Proofs.Markup.Reserved
import EscapeTime.Proofs.Markup.Seam
import EscapeTime.Proofs.Markup.Segment
import EscapeTime.Proofs.Markup.Segmentation
import EscapeTime.Proofs.Reconcile
import EscapeTime.Proofs.Renewal
import EscapeTime.Proofs.Session.Coherent
import EscapeTime.Proofs.Session.Compile
import EscapeTime.Proofs.Session.Dictionary
import EscapeTime.Proofs.Session.Evaluation
import EscapeTime.Proofs.Session.History
import EscapeTime.Proofs.Session.Independence
import EscapeTime.Proofs.Session.Numbers
import EscapeTime.Proofs.Session.Preset
import EscapeTime.Proofs.Session.Recolouring
import EscapeTime.Proofs.Session.Reset
import EscapeTime.Proofs.Session.Slots
import EscapeTime.Proofs.Settings.Entries
import EscapeTime.Proofs.Settings.RoundTrip
import EscapeTime.Proofs.Settings.Tables
import EscapeTime.Proofs.Toml.Document
import EscapeTime.Proofs.Toml.Quoted
import EscapeTime.Proofs.Toml.Statement
import EscapeTime.Proofs.Toml.Words
import EscapeTime.Proofs.Wgsl.Grammar
import EscapeTime.Proofs.Wgsl.Lexeme
import EscapeTime.Proofs.Wgsl.Meaning
import EscapeTime.Proofs.Wgsl.Range
import EscapeTime.Session
import EscapeTime.Settings
import EscapeTime.Settings.Decode
import EscapeTime.Settings.Text
import EscapeTime.Text.Blank
import EscapeTime.Text.Extending
import EscapeTime.Text.Ranges
import EscapeTime.Text.Visible
import EscapeTime.Token
import EscapeTime.Toml.Dates
import EscapeTime.Toml.Reader
import EscapeTime.Toml.Strings
import EscapeTime.Toml.Table
import EscapeTime.Toml.Words
import EscapeTime.Toml.Writer
import EscapeTime.Uniforms
import EscapeTime.Variables
import EscapeTime.Wgsl.Expr
import EscapeTime.Wgsl.Program
