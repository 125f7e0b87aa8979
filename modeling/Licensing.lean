import Licensing.CommandLine
import Licensing.Config
import Licensing.Config.Load
import Licensing.Disk
import Licensing.Document
import Licensing.Document.Checked
import Licensing.Document.Compound
import Licensing.Document.Encoding
import Licensing.Document.Listing
import Licensing.Document.Scalar
import Licensing.Emoji
import Licensing.Emoji.Names
import Licensing.Expr
import Licensing.Grammar
import Licensing.Handle
import Licensing.Header
import Licensing.Identifier
import Licensing.Json.Encoding
import Licensing.Json.Reader
import Licensing.Json.Writer
import Licensing.Log
import Licensing.Main
import Licensing.Moment
import Licensing.Number.Binary64
import Licensing.ParseError
import Licensing.Parser
import Licensing.Parser.Recipe
import Licensing.Path
import Licensing.Proofs.Config.Loading
import Licensing.Proofs.Config.Sections
import Licensing.Proofs.Config.Tables
import Licensing.Proofs.Disk.Writing
import Licensing.Proofs.Document.Canonical
import Licensing.Proofs.Document.Decoding
import Licensing.Proofs.Document.Evidence
import Licensing.Proofs.Document.Fields
import Licensing.Proofs.Document.Records
import Licensing.Proofs.Document.Rereading
import Licensing.Proofs.Document.Respelling
import Licensing.Proofs.Document.RoundTrip
import Licensing.Proofs.Document.Spelling
import Licensing.Proofs.Except
import Licensing.Proofs.Expr.Normal
import Licensing.Proofs.Expr.Rendering
import Licensing.Proofs.Expr.WellFormed
import Licensing.Proofs.Grammar.Acceptance
import Licensing.Proofs.Grammar.Cap
import Licensing.Proofs.Grammar.Exhaustion
import Licensing.Proofs.Grammar.Factoring
import Licensing.Proofs.Grammar.Faults
import Licensing.Proofs.Grammar.Language
import Licensing.Proofs.Grammar.Nesting
import Licensing.Proofs.Grammar.Parallel
import Licensing.Proofs.Grammar.Refusal
import Licensing.Proofs.Grammar.Run
import Licensing.Proofs.Grammar.Yield
import Licensing.Proofs.Handle.Lifetime
import Licensing.Proofs.Handle.Undecodable
import Licensing.Proofs.Header.Cleaning
import Licensing.Proofs.Header.Statements
import Licensing.Proofs.Header.Tags
import Licensing.Proofs.Header.Years
import Licensing.Proofs.Identifier.Forms
import Licensing.Proofs.Identifier.Places
import Licensing.Proofs.Identifier.References
import Licensing.Proofs.Json.Lenient
import Licensing.Proofs.Json.Line
import Licensing.Proofs.Json.Numerals
import Licensing.Proofs.Json.Plain
import Licensing.Proofs.Json.RoundTrip
import Licensing.Proofs.Json.Scalars
import Licensing.Proofs.Json.Steps
import Licensing.Proofs.Json.Strings
import Licensing.Proofs.Json.Values
import Licensing.Proofs.Number.Rounding
import Licensing.Proofs.Number.Shortest
import Licensing.Proofs.Parser.Algebra
import Licensing.Proofs.Parser.Faults
import Licensing.Proofs.Parser.Forward
import Licensing.Proofs.Parser.Outcomes
import Licensing.Proofs.Parser.Parallel
import Licensing.Proofs.Path.Containment
import Licensing.Proofs.Registry.Atomicity
import Licensing.Proofs.Registry.Entries
import Licensing.Proofs.Registry.Indexing
import Licensing.Proofs.Registry.Rereading
import Licensing.Proofs.Scan.Decision
import Licensing.Proofs.Scan.Evidence
import Licensing.Proofs.Scan.Isolation
import Licensing.Proofs.Scan.LicenseFiles
import Licensing.Proofs.Text.Cuts
import Licensing.Proofs.Text.Decoding
import Licensing.Proofs.Text.Leftmost
import Licensing.Proofs.Text.LetterCase
import Licensing.Proofs.Text.LineEnds
import Licensing.Proofs.Text.Lines
import Licensing.Proofs.Text.Literals
import Licensing.Proofs.Text.Order
import Licensing.Proofs.Text.Pieces
import Licensing.Proofs.Text.Utf8
import Licensing.Proofs.Text.Wide
import Licensing.Proofs.Token.Partition
import Licensing.Proofs.Token.Words
import Licensing.Proofs.Tool.Endings
import Licensing.Proofs.Tool.Output
import Licensing.Registry.Identifiers
import Licensing.Registry.Payload
import Licensing.Registry.Source
import Licensing.Registry.Update
import Licensing.Run
import Licensing.Scan
import Licensing.Terminal
import Licensing.Text
import Licensing.Text.Columns
import Licensing.Text.Integer
import Licensing.Text.LetterCase
import Licensing.Text.Printable
import Licensing.Text.Utf8
import Licensing.Text.Wide
import Licensing.Text.Word
import Licensing.Token
import Licensing.Toml.Moment
import Licensing.Toml.Reader
import Licensing.Toml.Tables
import Licensing.Tool
import Licensing.Tool.Request
import Licensing.Value
