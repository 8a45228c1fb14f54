import Stencil.Arena
import Stencil.Decimal.Shortest
import Stencil.Dict
import Stencil.Engine
import Stencil.Error
import Stencil.Expr.Basic
import Stencil.Expr.Eval
import Stencil.Expr.Lexeme
import Stencil.Expr.Lexer
import Stencil.Expr.Reader
import Stencil.Filter
import Stencil.Filter.Builtin
import Stencil.Filter.Extra
import Stencil.Json.Reader
import Stencil.Json.Writer
import Stencil.Layout.Blocks
import Stencil.Layout.Chain
import Stencil.Layout.Merge
import Stencil.Node
import Stencil.Node.Reader
import Stencil.Node.Stream
import Stencil.Number
import Stencil.Number.Reading
import Stencil.Options
import Stencil.Output
import Stencil.Render
import Stencil.Scope
import Stencil.Session
import Stencil.Store
import Stencil.Tag
import Stencil.Tag.Arguments
import Stencil.Template
import Stencil.Text.Blank
import Stencil.Text.Case
import Stencil.Text.Hidden
import Stencil.Text.Quoted
import Stencil.Text.Ranges
import Stencil.Text.Tail
import Stencil.Text.Word
import Stencil.Token
import Stencil.Token.Scan
import Stencil.Token.Trim
import Stencil.Value
import Stencil.Value.Access
import Stencil.Value.Compare
import Stencil.Value.Text
import Stencil.Proofs.Expr.Faults
import Stencil.Proofs.Node.Nesting
import Stencil.Proofs.Node.Shape
import Stencil.Proofs.Node.Settling
import Stencil.Proofs.Node.Streams
import Stencil.Proofs.Node.Passing
import Stencil.Proofs.Arena.Forest
import Stencil.Proofs.Layout.Settle
import Stencil.Proofs.Layout.Overlay
import Stencil.Proofs.Layout.Flat
import Stencil.Proofs.Layout.Levels
import Stencil.Proofs.Node.Rewriting
import Stencil.Proofs.Layout.Override
import Stencil.Proofs.Layout.Super
import Stencil.Proofs.Layout.Run
import Stencil.Proofs.Layout.Agreement
import Stencil.Proofs.Layout.Repetition
import Stencil.Proofs.Arena.Depth
import Stencil.Proofs.Layout.Ending
import Stencil.Proofs.Layout.Coverage
import Stencil.Proofs.Layout.Provenance
import Stencil.Proofs.Layout.Termination
import Stencil.Proofs.Node.Grammar
import Stencil.Proofs.Node.Parsing
import Stencil.Proofs.Render.Actions
import Stencil.Proofs.Render.Builtin
import Stencil.Proofs.Render.Calls
import Stencil.Proofs.Render.Restoring
import Stencil.Proofs.Layout.Extending
import Stencil.Proofs.Layout.Ascent
import Stencil.Proofs.Render.Coupling
import Stencil.Proofs.Layout.Registry
import Stencil.Proofs.Render.Strictness
import Stencil.Proofs.Engine.Loading
import Stencil.Proofs.Engine.Caching
import Stencil.Proofs.Expr.Names
import Stencil.Proofs.Render.Frames
import Stencil.Proofs.Render.Assigning
import Stencil.Proofs.Node.Unread
import Stencil.Proofs.Layout.Front
import Stencil.Proofs.Token.Cutting
import Stencil.Proofs.Token.Trimming
import Stencil.Proofs.Layout.RawRegions
import Stencil.Proofs.Expr.Grammar
import Stencil.Proofs.Expr.Descent
import Stencil.Proofs.Token.Joining
import Stencil.Proofs.Engine.RawText
import Stencil.Proofs.Render.Errors
import Stencil.Proofs.Render.Rounds
import Stencil.Proofs.Render.Signals
import Stencil.Proofs.Render.Origins
import Stencil.Proofs.Render.Inlining
import Stencil.Proofs.Render.Capturing
import Stencil.Proofs.Number.Whole
import Stencil.Proofs.Render.Looping
import Stencil.Proofs.Render.Log
import Stencil.Proofs.Render.Once
import Stencil.Proofs.Text.Runs
import Stencil.Proofs.Expr.Spelling
import Stencil.Proofs.Number.Digits
import Stencil.Proofs.Expr.Printing
import Stencil.Proofs.Expr.Dotted
import Stencil.Proofs.Expr.Connectives
import Stencil.Proofs.Expr.Margins
import Stencil.Proofs.Engine.Outputs
import Stencil.Proofs.Token.Marking
import Stencil.Proofs.Token.Failing
import Stencil.Proofs.Node.OpenTags
import Stencil.Proofs.Layout.Duplicates
import Stencil.Proofs.Number.Order
import Stencil.Proofs.Number.Nearest
import Stencil.Proofs.Value.Maps
import Stencil.Proofs.Value.Places
import Stencil.Proofs.Value.Equality
import Stencil.Proofs.Value.Ordering
import Stencil.Proofs.Number.Texts
import Stencil.Proofs.Filter.Arithmetic
import Stencil.Proofs.Expr.Spacing
import Stencil.Proofs.Engine.Naming
import Stencil.Proofs.Engine.Registering
import Stencil.Proofs.Arena.WellFormed
import Stencil.Proofs.Arena.Drafting
import Stencil.Proofs.Arena.Access
import Stencil.Proofs.Layout.Handles
