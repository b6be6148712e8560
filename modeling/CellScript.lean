import CellScript.Block.Basic
import CellScript.Block.Content
import CellScript.Block.Find
import CellScript.Block.Guard
import CellScript.Cell.Basic
import CellScript.Cell.Check
import CellScript.Cell.Error
import CellScript.Cell.Escape
import CellScript.Cell.Kind
import CellScript.Command.Arguments
import CellScript.Command.Convert
import CellScript.Command.Failure
import CellScript.Command.Help
import CellScript.Command.Run
import CellScript.Config.Basic
import CellScript.Config.Read
import CellScript.Config.Schema
import CellScript.Config.Write
import CellScript.Convert.Assemble
import CellScript.Convert.Format
import CellScript.Event
import CellScript.Files.Basic
import CellScript.Files.Host
import CellScript.Found
import CellScript.Json.Fault
import CellScript.Json.Numeral
import CellScript.Json.Quoted
import CellScript.Json.Read
import CellScript.Json.Value
import CellScript.Json.Write
import CellScript.Main
import CellScript.Notebook.Basic
import CellScript.Notebook.Error
import CellScript.Notebook.Read
import CellScript.Notebook.Shape
import CellScript.Notebook.Template
import CellScript.Number.Double
import CellScript.Number.Shortest
import CellScript.Number.Width
import CellScript.Path
import CellScript.Proofs.Block.Content
import CellScript.Proofs.Block.Guarded
import CellScript.Proofs.Block.Reports
import CellScript.Proofs.Block.Walk
import CellScript.Proofs.Cell.Escape
import CellScript.Proofs.Cell.Normal
import CellScript.Proofs.Cell.Settled
import CellScript.Proofs.Except
import CellScript.Proofs.Script.Place
import CellScript.Proofs.Script.ReadBack
import CellScript.Proofs.Script.Reading
import CellScript.Proofs.Script.Shown
import CellScript.Proofs.Script.Stable
import CellScript.Proofs.Text.Blank
import CellScript.Proofs.Text.Rows
import CellScript.Python.Grammar.Automaton
import CellScript.Python.Grammar.Lexing
import CellScript.Python.Grammar.Names
import CellScript.Python.Grammar.Reductions
import CellScript.Python.Grammar.Rows
import CellScript.Python.Grammar.Rows1
import CellScript.Python.Grammar.Rows2
import CellScript.Python.Grammar.Rows3
import CellScript.Python.Grammar.Rows4
import CellScript.Python.Grammar.Rows5
import CellScript.Python.Grammar.Rows6
import CellScript.Python.Grammar.Sets
import CellScript.Python.Kind
import CellScript.Python.Letters
import CellScript.Python.Parse.Fragment
import CellScript.Python.Parse.Lex
import CellScript.Python.Parse.Rank
import CellScript.Python.Parse.Recover
import CellScript.Python.Parse.Run
import CellScript.Python.Parse.Stack
import CellScript.Python.Parse.Step
import CellScript.Python.Position
import CellScript.Python.Token.Layout
import CellScript.Python.Token.Scan
import CellScript.Python.Tree
import CellScript.Sandbox.Namespace
import CellScript.Sandbox.Session
import CellScript.Script.Read
import CellScript.Script.Write
import CellScript.Text.Alphabet
import CellScript.Text.Blank
import CellScript.Text.Line
import CellScript.Text.Ranges
import CellScript.Text.Shown
import CellScript.Text.Table
import CellScript.Toml.Document
import CellScript.Toml.Expression
import CellScript.Toml.Fault
import CellScript.Toml.Scalar
import CellScript.Toml.Token
import CellScript.Proofs.Block.ErrorLine
import CellScript.Proofs.Script.Assembly
import CellScript.Proofs.Script.Confined
import CellScript.Proofs.Block.CodeRows
import CellScript.Proofs.Cell.Check
import CellScript.Proofs.Sandbox.Scopes
import CellScript.Proofs.Sandbox.Numbers
import CellScript.Proofs.Sandbox.Removal
import CellScript.Proofs.Text.Table
import CellScript.Proofs.Json.Value
import CellScript.Proofs.Json.Quoted
import CellScript.Proofs.Json.Numeral
import CellScript.Proofs.Json.Reads
import CellScript.Proofs.Json.Written
import CellScript.Proofs.Notebook.Read
import CellScript.Proofs.Notebook.Shape
import CellScript.Proofs.Notebook.Degraded
import CellScript.Proofs.Notebook.RoundTrip
import CellScript.Proofs.Python.Placed
import CellScript.Proofs.Block.GuardRow
import CellScript.Proofs.Script.ErrorPlace
import CellScript.Proofs.Files.Entries
import CellScript.Proofs.Files.Names
import CellScript.Proofs.Files.Tree
import CellScript.Proofs.Command.World
import CellScript.Proofs.Command.Single
import CellScript.Proofs.Command.Each
import CellScript.Proofs.Command.Collect
import CellScript.Proofs.Command.Directory
import CellScript.Proofs.Command.Outputs
import CellScript.Proofs.Python.Word
import CellScript.Proofs.Python.Margin
import CellScript.Proofs.Python.Literal
import CellScript.Proofs.Python.SingleWay
import CellScript.Proofs.Python.Pieces
import CellScript.Proofs.Python.Shows
import CellScript.Proofs.Python.Opener
import CellScript.Proofs.Python.ProseBlock
import CellScript.Proofs.Python.Statements
import CellScript.Proofs.Python.BlockText
import CellScript.Proofs.Block.BlockText
import CellScript.Proofs.Script.OpenName
import CellScript.Proofs.Script.ProseText
import CellScript.Proofs.Script.Prose
import CellScript.Proofs.Script.LiteralEnd
import CellScript.Proofs.Script.ReadForm
import CellScript.Proofs.Script.Literals
import CellScript.Proofs.Script.Ending
import CellScript.Proofs.Cell.Misplaced
import CellScript.Proofs.Python.Words
import CellScript.Proofs.Python.Growth
import CellScript.Proofs.Python.Fragments
import CellScript.Proofs.Python.Tokens
import CellScript.Proofs.Python.Stacks
import CellScript.Proofs.Python.Steps
import CellScript.Proofs.Python.OfText
import CellScript.Proofs.Block.Spans
import CellScript.Proofs.Text.Crlf
import CellScript.Proofs.Python.Twins
import CellScript.Proofs.Block.Twins
import CellScript.Proofs.Script.Crlf
import CellScript.Proofs.Cell.Damage
import CellScript.Proofs.Script.Chunks
import CellScript.Proofs.Script.Outside
