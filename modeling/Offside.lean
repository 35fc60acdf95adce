import Offside.CommandLine.Arguments
import Offside.CommandLine.Outcome
import Offside.Diagnostic
import Offside.Diagnostic.Report
import Offside.Event
import Offside.Findings
import Offside.Indentation.Direction
import Offside.Indentation.Gauge
import Offside.IntegerType
import Offside.Keyword
import Offside.Literal.Integer
import Offside.Literal.Quoted
import Offside.Literal.Word
import Offside.Main
import Offside.Options
import Offside.Scan.Finish
import Offside.Scan.Progress
import Offside.Scan.State
import Offside.Scan.Step
import Offside.Span
import Offside.Staging
import Offside.Staging.Counting
import Offside.Symbol
import Offside.Text.Blank
import Offside.Text.Escape
import Offside.Text.Hex
import Offside.Text.Identifier
import Offside.Text.Line
import Offside.Text.Printable
import Offside.Text.Quote
import Offside.Text.Quoted
import Offside.Token
import Offside.Token.Kind
import Offside.Tokenize
import Offside.Unicode.Letter
import Offside.Unicode.Mark
import Offside.Unicode.Number
import Offside.Unicode.Other
import Offside.Unicode.Punctuation
import Offside.Unicode.Ranges
import Offside.Unicode.Separator
import Offside.Proofs.Piece
import Offside.Proofs.Pass
import Offside.Proofs.Layout
import Offside.Proofs.Layout.Findings
import Offside.Proofs.Layout.Valid
import Offside.Proofs.Layout.Gap
import Offside.Proofs.Layout.Pass
import Offside.Proofs.Reading
import Offside.Proofs.Literals
import Offside.Proofs.Spans
import Offside.Proofs.Attribution
import Offside.Proofs.Levels
import Offside.Proofs.Layout.Trace
import Offside.Proofs.Changes
import Offside.Proofs.Context
import Offside.Proofs.Outline
import Offside.Proofs.Repair
import Offside.Proofs.Slice
import Offside.Proofs.Join
import Offside.Proofs.Quoting
import Offside.Proofs.Written
import Offside.Proofs.Warnings
import Offside.Proofs.Units
import Offside.Proofs.Diagnostics
import Offside.Proofs.Seams
import Offside.Proofs.Checked
import Offside.Proofs.Safety
import Offside.Proofs.Respelling
import Offside.Proofs.Comments
import Offside.Proofs.Whitespace
import Offside.Proofs.Dump
import Offside.Proofs.Log
import Offside.Proofs.Pace
import Offside.Proofs.Readings
import Offside.Proofs.Numerals
import Offside.Proofs.Words
import Offside.Proofs.Escapes
import Offside.Proofs.BadEscapes
import Offside.Proofs.Pairing
import Offside.Proofs.Conservation
import Offside.Proofs.Places
import Offside.Proofs.Reports
import Offside.Proofs.Rows
