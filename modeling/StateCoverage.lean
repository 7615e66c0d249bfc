import StateCoverage.Bindings
import StateCoverage.Command.Arguments
import StateCoverage.Command.Clock
import StateCoverage.Command.Help
import StateCoverage.Command.Listing
import StateCoverage.Command.Log
import StateCoverage.Command.Run
import StateCoverage.Config.Basic
import StateCoverage.Config.Dump
import StateCoverage.Config.Layers
import StateCoverage.Config.Validation
import StateCoverage.Coverage
import StateCoverage.Data.Basic
import StateCoverage.Data.Entries
import StateCoverage.Error
import StateCoverage.Event
import StateCoverage.Expr.Basic
import StateCoverage.Expr.Render
import StateCoverage.Expr.Resolve
import StateCoverage.Grammar.Bracket
import StateCoverage.Grammar.Cursor
import StateCoverage.Grammar.Dialect
import StateCoverage.Grammar.Lexeme
import StateCoverage.Grammar.Markup
import StateCoverage.Grammar.Operand
import StateCoverage.Grammar.Operation
import StateCoverage.Grammar.Parse
import StateCoverage.Grammar.Rule
import StateCoverage.Grammar.Statement
import StateCoverage.Grammar.Types
import StateCoverage.Import.Location
import StateCoverage.Import.Session
import StateCoverage.Json.Reader
import StateCoverage.Json.Writer
import StateCoverage.Lowering.Escape
import StateCoverage.Lowering.Expression
import StateCoverage.Lowering.Shape
import StateCoverage.Lowering.Statement
import StateCoverage.Main
import StateCoverage.Markup.Element
import StateCoverage.Markup.State
import StateCoverage.ParsedFile
import StateCoverage.Path
import StateCoverage.Proofs.Bindings
import StateCoverage.Proofs.Command.Arguments
import StateCoverage.Proofs.Command.Output
import StateCoverage.Proofs.Command.Report
import StateCoverage.Proofs.Config.Environment
import StateCoverage.Proofs.Config.Layers
import StateCoverage.Proofs.Config.Leaf
import StateCoverage.Proofs.Config.Load
import StateCoverage.Proofs.Config.Precedence
import StateCoverage.Proofs.Config.Sources
import StateCoverage.Proofs.Config.Stability
import StateCoverage.Proofs.Config.Validation
import StateCoverage.Proofs.Coverage
import StateCoverage.Proofs.Data.Entries
import StateCoverage.Proofs.Erasure
import StateCoverage.Proofs.Expr.AccessPath
import StateCoverage.Proofs.Expr.Chain
import StateCoverage.Proofs.Expr.ClassUnion
import StateCoverage.Proofs.Expr.ComputedAccess
import StateCoverage.Proofs.Expr.Extraction
import StateCoverage.Proofs.Expr.Knowledge
import StateCoverage.Proofs.Expr.Literal
import StateCoverage.Proofs.Expr.Opaque
import StateCoverage.Proofs.Expr.Outcome
import StateCoverage.Proofs.Expr.Parts
import StateCoverage.Proofs.Expr.Reads
import StateCoverage.Proofs.Expr.StateUnion
import StateCoverage.Proofs.Expr.Substitution
import StateCoverage.Proofs.Grammar.AttributeName.Basic
import StateCoverage.Proofs.Grammar.AttributeName.Markup
import StateCoverage.Proofs.Grammar.AttributeName.Operand
import StateCoverage.Proofs.Grammar.AttributeName.Operation
import StateCoverage.Proofs.Grammar.AttributeName.Parse
import StateCoverage.Proofs.Grammar.AttributeName.Statement
import StateCoverage.Proofs.Grammar.Parenthesis
import StateCoverage.Proofs.Grammar.Yields
import StateCoverage.Proofs.Import.Attempt
import StateCoverage.Proofs.Import.Contents
import StateCoverage.Proofs.Import.Course
import StateCoverage.Proofs.Import.Failure
import StateCoverage.Proofs.Import.Independence
import StateCoverage.Proofs.Import.Keys
import StateCoverage.Proofs.Import.Knowledge
import StateCoverage.Proofs.Import.Location
import StateCoverage.Proofs.Import.Namespace
import StateCoverage.Proofs.Import.Needed
import StateCoverage.Proofs.Import.Reach
import StateCoverage.Proofs.Import.Run
import StateCoverage.Proofs.Import.Search
import StateCoverage.Proofs.Import.Value
import StateCoverage.Proofs.Json
import StateCoverage.Proofs.List
import StateCoverage.Proofs.Literal.Evaluation
import StateCoverage.Proofs.Literal.Known
import StateCoverage.Proofs.Lowering.Escape
import StateCoverage.Proofs.Lowering.Expression
import StateCoverage.Proofs.Lowering.Padding
import StateCoverage.Proofs.Lowering.Parentheses
import StateCoverage.Proofs.Lowering.Template
import StateCoverage.Proofs.Lowering.Traversal
import StateCoverage.Proofs.Markup.Attribute
import StateCoverage.Proofs.Markup.ClassText
import StateCoverage.Proofs.Markup.Classify
import StateCoverage.Proofs.Markup.Hidden
import StateCoverage.Proofs.Markup.SourceOrder
import StateCoverage.Proofs.ParsedFile
import StateCoverage.Proofs.Path
import StateCoverage.Proofs.Path.Place
import StateCoverage.Proofs.State.Mark
import StateCoverage.Proofs.State.Scan
import StateCoverage.Proofs.State.Seam
import StateCoverage.Proofs.Syntax.Place
import StateCoverage.Proofs.Syntax.Walk
import StateCoverage.Proofs.Table
import StateCoverage.Proofs.Text.Join
import StateCoverage.Proofs.Text.Utf8
import StateCoverage.Proofs.Text.Words
import StateCoverage.Proofs.Value.Leaf
import StateCoverage.Proofs.Value.Path
import StateCoverage.Syntax.Basic
import StateCoverage.Syntax.Walk
import StateCoverage.Table
import StateCoverage.Text.Binary64
import StateCoverage.Text.Blank
import StateCoverage.Text.CodePoint
import StateCoverage.Text.DecimalDigit
import StateCoverage.Text.Emoji
import StateCoverage.Text.EmojiTable
import StateCoverage.Text.Entity
import StateCoverage.Text.EntityTable
import StateCoverage.Text.Number
import StateCoverage.Text.Printable
import StateCoverage.Text.Quoted
import StateCoverage.Text.Utf8
import StateCoverage.Text.Width
import StateCoverage.Text.WordClass
import StateCoverage.Value
import StateCoverage.Yaml.Document
import StateCoverage.Yaml.Node
import StateCoverage.Yaml.Place
import StateCoverage.Yaml.Scalar
import StateCoverage.Yaml.Token
