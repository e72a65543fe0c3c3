import TableLexer.Diagnostic.Setup
import TableLexer.Diagnostic.Thread
import TableLexer.Main
import TableLexer.Text.ByteRanges
import TableLexer.Pattern.Automaton
import TableLexer.Pattern.Footprint
import TableLexer.Pattern.Matcher
import TableLexer.Proofs.Pattern.Reach
import TableLexer.Proofs.Segmentation
import TableLexer.Proofs.Scan.Account
import TableLexer.Proofs.Scan.Tokens
import TableLexer.Proofs.Builtin.Patterns
import TableLexer.Proofs.Scan.Lines
import TableLexer.Proofs.Pattern.Accept
import TableLexer.Proofs.Pattern.Cut
import TableLexer.Proofs.Builtin.Lexicon
import TableLexer.Proofs.Builtin.Alone
import TableLexer.Proofs.Builtin.Separated
import TableLexer.Proofs.Builtin.Normal
import TableLexer.Proofs.Scan.Restart
import TableLexer.Proofs.Batch.Pieces
import TableLexer.Proofs.Batch.Workers
import TableLexer.Proofs.Batch.Agreement
import TableLexer.Proofs.Batch.Stopping
import TableLexer.Proofs.Pattern.Closing
import TableLexer.Proofs.Pattern.Held
import TableLexer.Proofs.Pattern.Grouping
import TableLexer.Proofs.Table.ScanPosition
import TableLexer.Proofs.History.Calls
import TableLexer.Proofs.Report.Identity
import TableLexer.Proofs.Builtin.Keywords
import TableLexer.Proofs.Builtin.Numbers
import TableLexer.Proofs.Builtin.Comments
import TableLexer.Proofs.Builtin.Words
import TableLexer.Proofs.Builtin.Numerals
import TableLexer.Proofs.Builtin.Signs
import TableLexer.Proofs.Builtin.Markup
import TableLexer.Proofs.Builtin.StyleSheets
import TableLexer.Proofs.Builtin.Attributes
import TableLexer.Proofs.Files.Checks
import TableLexer.Proofs.Files.Places
import TableLexer.Proofs.Report.Exports
import TableLexer.Proofs.Text.Decimals
import TableLexer.Proofs.Time.Calendar
import TableLexer.Proofs.Time.Exact
import TableLexer.Proofs.Json.Spelling
import TableLexer.Proofs.Json.Layouts
import TableLexer.Proofs.History.Saving
import TableLexer.Proofs.Statistics.Counts
import TableLexer.Proofs.Report.Faithful
import TableLexer.Proofs.CommandLine.Composition
import TableLexer.Proofs.CommandLine.Failures
import TableLexer.Proofs.Batch.PathOrder
import TableLexer.Proofs.Batch.Limit
import TableLexer.Proofs.Statistics.Exact
import TableLexer.Proofs.Table.Compiling
import TableLexer.Proofs.Text.LowerCase
import TableLexer.Proofs.Batch.Extensions
import TableLexer.Proofs.Diagnostic.Events
import TableLexer.Proofs.Builtin.Building
import TableLexer.Proofs.Files.Reports
import TableLexer.Proofs.Batch.Logs
import TableLexer.Proofs.Batch.Reports
import TableLexer.Proofs.Latest
import TableLexer.Proofs.History.Recovery
import TableLexer.Proofs.Json.Tokens
import TableLexer.Proofs.Diagnostic.Buffering
import TableLexer.Proofs.Text.Bytes
import TableLexer.Proofs.Diagnostic.Delivery
import TableLexer.Proofs.Diagnostic.Nesting
import TableLexer.Proofs.Settings.Layers
import TableLexer.Proofs.Numeric.Sizes
import TableLexer.Proofs.Diagnostic.Truncation
