import Fiction.Chance
import Fiction.CommandLine.Arguments
import Fiction.CommandLine.Game
import Fiction.CommandLine.Help
import Fiction.CommandLine.Run
import Fiction.CommandLine.Shelf
import Fiction.Decimal.Layout
import Fiction.Decimal.Natural
import Fiction.Decimal.Shortest
import Fiction.Expansion.Basic
import Fiction.Expansion.Calls
import Fiction.Expansion.Dispatch
import Fiction.Expansion.Evaluate
import Fiction.Expansion.Inventory
import Fiction.Expansion.Markup
import Fiction.Expr.Basic
import Fiction.Expr.Lexer
import Fiction.Expr.Parser
import Fiction.Expr.Token
import Fiction.Fault.Basic
import Fiction.Fault.Cause
import Fiction.Json.Basic
import Fiction.Json.Number
import Fiction.Json.Printer
import Fiction.Json.Quoted
import Fiction.Json.Reader
import Fiction.Library
import Fiction.Main
import Fiction.Mapping
import Fiction.Markup.Escape
import Fiction.Markup.Nesting
import Fiction.Markup.Scan
import Fiction.Markup.Segment
import Fiction.Operator.Apply
import Fiction.Operator.Basic
import Fiction.Operator.Integer
import Fiction.Operator.Real
import Fiction.Path
import Fiction.Pattern.Basic
import Fiction.Pattern.Class
import Fiction.Pattern.Flags
import Fiction.Pattern.Machine
import Fiction.Pattern.Match
import Fiction.Pattern.Reader
import Fiction.Pattern.Template
import Fiction.Proofs.Decimal
import Fiction.Proofs.Expansion.Branches
import Fiction.Proofs.Expansion.Callers
import Fiction.Proofs.Expansion.Commands
import Fiction.Proofs.Expansion.Congruence
import Fiction.Proofs.Expansion.Discipline
import Fiction.Proofs.Expansion.Frame
import Fiction.Proofs.Expansion.FrameRule
import Fiction.Proofs.Expansion.Injection
import Fiction.Proofs.Expansion.Inventory
import Fiction.Proofs.Expansion.Keeps
import Fiction.Proofs.Expansion.Links
import Fiction.Proofs.Expansion.Literal
import Fiction.Proofs.Expansion.Maps
import Fiction.Proofs.Expansion.Mirror
import Fiction.Proofs.Expansion.PlainText
import Fiction.Proofs.Expansion.Positions
import Fiction.Proofs.Expansion.Reduction
import Fiction.Proofs.Expansion.SameAnswer
import Fiction.Proofs.Expansion.Sequence
import Fiction.Proofs.Expansion.Simulation
import Fiction.Proofs.Expansion.Traversal
import Fiction.Proofs.Expansion.Unrolled
import Fiction.Proofs.Expansion.Variables
import Fiction.Proofs.Expr.Alone
import Fiction.Proofs.Expr.Behind
import Fiction.Proofs.Expr.Bounds
import Fiction.Proofs.Expr.Calls
import Fiction.Proofs.Expr.Enclosed
import Fiction.Proofs.Expr.Grammar
import Fiction.Proofs.Expr.Literal
import Fiction.Proofs.Expr.MapBody
import Fiction.Proofs.Expr.Pieces
import Fiction.Proofs.Expr.Plain
import Fiction.Proofs.Expr.Precedence
import Fiction.Proofs.Expr.Quoted
import Fiction.Proofs.Expr.QuotedBody
import Fiction.Proofs.Expr.Resume
import Fiction.Proofs.Expr.Shift
import Fiction.Proofs.Expr.Spans
import Fiction.Proofs.Expr.Tiling
import Fiction.Proofs.Expr.Written
import Fiction.Proofs.Integer
import Fiction.Proofs.Json.Quoted
import Fiction.Proofs.Json.RoundTrip
import Fiction.Proofs.Mapping
import Fiction.Proofs.Markup.Alike
import Fiction.Proofs.Markup.Append
import Fiction.Proofs.Markup.Extent
import Fiction.Proofs.Markup.Inert
import Fiction.Proofs.Markup.Lossless
import Fiction.Proofs.Markup.Pieces
import Fiction.Proofs.Markup.Shift
import Fiction.Proofs.Markup.TopLevel
import Fiction.Proofs.Operator.Arithmetic
import Fiction.Proofs.Operator.Integral
import Fiction.Proofs.Operator.Order
import Fiction.Proofs.Operator.SetAlgebra
import Fiction.Proofs.Operator.Split
import Fiction.Proofs.Path
import Fiction.Proofs.Pattern.Template
import Fiction.Proofs.Session.Bookkeeping
import Fiction.Proofs.Session.Checked
import Fiction.Proofs.Session.Limit
import Fiction.Proofs.Session.LinkCommands
import Fiction.Proofs.Session.Positions
import Fiction.Proofs.Session.Run
import Fiction.Proofs.Session.SelfInclusion
import Fiction.Proofs.Session.Snapshot
import Fiction.Proofs.Store.Bag
import Fiction.Proofs.Store.Tree
import Fiction.Proofs.Store.Updates
import Fiction.Proofs.Story.Command
import Fiction.Proofs.Story.Draft
import Fiction.Proofs.Story.Form
import Fiction.Proofs.Story.Manuscript
import Fiction.Proofs.Story.NormalForm
import Fiction.Proofs.Story.Record
import Fiction.Proofs.Text.Search
import Fiction.Proofs.Text.Trim
import Fiction.Proofs.Value.Closed
import Fiction.Proofs.Value.Equality
import Fiction.Proofs.Value.Exchange
import Fiction.Proofs.Value.Order
import Fiction.Proofs.Value.Parts
import Fiction.Proofs.Value.Readers
import Fiction.Scope
import Fiction.Session
import Fiction.Settings
import Fiction.Snapshot
import Fiction.Store
import Fiction.Story.Basic
import Fiction.Story.Command
import Fiction.Story.Load
import Fiction.Story.Manuscript
import Fiction.Story.Record
import Fiction.Story.Traversal
import Fiction.Text.Blank
import Fiction.Text.Fragment
import Fiction.Text.Letter
import Fiction.Text.Quoted
import Fiction.Text.Search
import Fiction.Unicode.Alphabetic
import Fiction.Unicode.CaseFold
import Fiction.Unicode.Category
import Fiction.Unicode.Concealed
import Fiction.Unicode.Property
import Fiction.Unicode.Range
import Fiction.Unicode.Script
import Fiction.Value.Basic
import Fiction.Value.Exchange
import Fiction.Value.Kind
import Fiction.Value.Order
import Fiction.Value.Printer
import Fiction.World
import Fiction.Yaml.Basic
import Fiction.Yaml.Reader
import Fiction.Yaml.Scalar
