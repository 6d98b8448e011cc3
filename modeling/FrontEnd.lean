import FrontEnd.Bytes.Basic
import FrontEnd.Bytes.Consume
import FrontEnd.Bytes.Integer
import FrontEnd.Bytes.Piece
import FrontEnd.Bytes.Search
import FrontEnd.Bytes.Utf8
import FrontEnd.Command.Config
import FrontEnd.Command.Flag
import FrontEnd.Command.Run
import FrontEnd.Command.Sampling
import FrontEnd.Command.Session
import FrontEnd.Command.Settings
import FrontEnd.Command.Shell
import FrontEnd.Command.Tokenizing
import FrontEnd.Command.Verb
import FrontEnd.Diagnostic.Bag
import FrontEnd.Diagnostic.Basic
import FrontEnd.Diagnostic.Builder
import FrontEnd.Diagnostic.Code
import FrontEnd.Diagnostic.Template
import FrontEnd.Digest.Sha256
import FrontEnd.Disk
import FrontEnd.Disk.Change
import FrontEnd.Encoding.Json
import FrontEnd.Encoding.MessagePack
import FrontEnd.Encoding.Toml.Document
import FrontEnd.Encoding.Toml.Reader
import FrontEnd.Encoding.Toml.Scalar
import FrontEnd.Ir.Build
import FrontEnd.Ir.Class
import FrontEnd.Ir.Context
import FrontEnd.Ir.Kind
import FrontEnd.Ir.Listing
import FrontEnd.Ir.Misuse
import FrontEnd.Ir.Sample
import FrontEnd.Ir.Snapshot
import FrontEnd.Ir.Snapshot.Draft
import FrontEnd.Ir.Workbench
import FrontEnd.Main
import FrontEnd.Number.Binary64
import FrontEnd.Number.FloatText
import FrontEnd.Number.Integer64
import FrontEnd.Path
import FrontEnd.Progress.Basic
import FrontEnd.Progress.Board
import FrontEnd.Progress.LiveView
import FrontEnd.Proofs.Boundary
import FrontEnd.Proofs.Disk
import FrontEnd.Proofs.Lexeme
import FrontEnd.Proofs.LineBreak
import FrontEnd.Proofs.MessagePack
import FrontEnd.Proofs.Path
import FrontEnd.Proofs.Reporting
import FrontEnd.Proofs.Scan
import FrontEnd.Proofs.Stages
import FrontEnd.Proofs.SharedCache
import FrontEnd.Proofs.TokenCache
import FrontEnd.Proofs.TokenStream
import FrontEnd.Proofs.Tokenize
import FrontEnd.Proofs.Utf8
import FrontEnd.Proofs.Walk
import FrontEnd.Report.Document
import FrontEnd.Report.Pretty
import FrontEnd.Report.Short
import FrontEnd.Report.Tokens
import FrontEnd.Report.View
import FrontEnd.Scan.Cursor
import FrontEnd.Scan.Lexeme
import FrontEnd.Scan.Lexer
import FrontEnd.Scan.Walk
import FrontEnd.Source.File
import FrontEnd.Source.FileSet
import FrontEnd.Source.Normal
import FrontEnd.Source.Span
import FrontEnd.Table
import FrontEnd.Terminal.Block
import FrontEnd.Terminal.Control
import FrontEnd.Text.Ink
import FrontEnd.Text.Quoted
import FrontEnd.Text.Transcript
import FrontEnd.Text.Trim
import FrontEnd.Token.Basic
import FrontEnd.Token.Kind
import FrontEnd.Trace.Event
import FrontEnd.Trace.Hub
import FrontEnd.Trace.Ring
import FrontEnd.Trace.Span
import FrontEnd.Trace.Stamp
import FrontEnd.Trace.Timer
import FrontEnd.Unicode.Cells
import FrontEnd.Unicode.Cluster
import FrontEnd.Unicode.CombiningClass
import FrontEnd.Unicode.Compose
import FrontEnd.Unicode.Decomposition
import FrontEnd.Unicode.Letter
import FrontEnd.Unicode.Lower
import FrontEnd.Unicode.Parts
import FrontEnd.Unicode.Printable
import FrontEnd.Unicode.Ranges
import FrontEnd.Unicode.Width
import FrontEnd.Version
import FrontEnd.Workspace.Batch
import FrontEnd.Workspace.Cache
import FrontEnd.Workspace.Discovery
import FrontEnd.Workspace.Tokenize
import FrontEnd.Proofs.Outcomes
import FrontEnd.Proofs.Records
import FrontEnd.Proofs.Coverage
import FrontEnd.Proofs.Lookahead
import FrontEnd.Proofs.Grammar
import FrontEnd.Proofs.Ir.Step
import FrontEnd.Proofs.Ir.Run
import FrontEnd.Proofs.Ir.TypeText
import FrontEnd.Proofs.Ir.Loops
import FrontEnd.Proofs.Ir.Naming
import FrontEnd.Proofs.Ir.Symbols
import FrontEnd.Proofs.Ir.Succession
import FrontEnd.Proofs.Ir.Making
import FrontEnd.Proofs.Ir.Structure
import FrontEnd.Proofs.Ir.Refusal
import FrontEnd.Proofs.Ir.Rendering
import FrontEnd.Proofs.Ir.Archive
import FrontEnd.Proofs.Ir.Spelling
import FrontEnd.Proofs.Tracing
import FrontEnd.Proofs.Loading
import FrontEnd.Proofs.Limits
import FrontEnd.Proofs.Drawing
import FrontEnd.Proofs.Showing
import FrontEnd.Proofs.Batch
import FrontEnd.Proofs.ExitStatus
import FrontEnd.Proofs.Search
import FrontEnd.Proofs.Numeral
import FrontEnd.Proofs.Versions
import FrontEnd.Proofs.Pliant
import FrontEnd.Proofs.Composition
import FrontEnd.Proofs.NormalForm
import FrontEnd.Proofs.Repetition
import FrontEnd.Proofs.Expansion
import FrontEnd.Proofs.Listing
import FrontEnd.Proofs.Attribution
import FrontEnd.Proofs.InFlight
import FrontEnd.Proofs.Accounts
import FrontEnd.Proofs.Narrowing
import FrontEnd.Proofs.IntLiteral
import FrontEnd.Proofs.ValidText
import FrontEnd.Proofs.Characters
import FrontEnd.Proofs.Position
import FrontEnd.Proofs.Lines
import FrontEnd.Proofs.LowerCase
import FrontEnd.Proofs.Splitting
import FrontEnd.Proofs.Ring
import FrontEnd.Proofs.Nesting
import FrontEnd.Proofs.CleanPath
import FrontEnd.Proofs.Discovery
import FrontEnd.Proofs.Finishing
import FrontEnd.Proofs.Telling
import FrontEnd.Proofs.Bounds
