import RecordFilter.Command.Arguments
import RecordFilter.Command.System
import RecordFilter.Command.Run
import RecordFilter.FileFault
import RecordFilter.Filter.Basic
import RecordFilter.Filter.Inspect
import RecordFilter.Filter.Json
import RecordFilter.Filter.Pattern
import RecordFilter.Filter.Resolution
import RecordFilter.Filter.Standard
import RecordFilter.Json.Basic
import RecordFilter.Json.Dialect
import RecordFilter.Json.Json5
import RecordFilter.Json.Lexeme
import RecordFilter.Json.Printer
import RecordFilter.Json.Same
import RecordFilter.Json.Strict
import RecordFilter.Keyed
import RecordFilter.Main
import RecordFilter.Number.Basic
import RecordFilter.Number.Binary64
import RecordFilter.Number.Shortest
import RecordFilter.Proofs.Filter.Extraction
import RecordFilter.Proofs.Filter.Grammar
import RecordFilter.Proofs.Filter.Matching
import RecordFilter.Proofs.Filter.Rendering
import RecordFilter.Proofs.Keyed
import RecordFilter.Proofs.Store.Atomicity
import RecordFilter.Proofs.Store.Calls
import RecordFilter.Proofs.Store.Focus
import RecordFilter.Proofs.Store.Ids
import RecordFilter.Proofs.Store.Merging
import RecordFilter.Proofs.Store.Origins
import RecordFilter.Proofs.Store.Replay
import RecordFilter.Query.Constraint
import RecordFilter.Query.Like
import RecordFilter.Query.Lookup
import RecordFilter.Query.Operand
import RecordFilter.Query.Plan
import RecordFilter.Query.Sql
import RecordFilter.QueryString
import RecordFilter.Report.Listing
import RecordFilter.Report.Style
import RecordFilter.Report.Table
import RecordFilter.Settings
import RecordFilter.Store.Basic
import RecordFilter.Store.Document
import RecordFilter.Store.Event
import RecordFilter.Store.Record
import RecordFilter.Text.CaseFold
import RecordFilter.Text.CodeRanges
import RecordFilter.Text.Hex
import RecordFilter.Text.Identifier
import RecordFilter.Text.Invisible
import RecordFilter.Text.Pieces
import RecordFilter.Text.Quoted
import RecordFilter.Text.Width
import RecordFilter.Text.WidthRanges
import RecordFilter.Toml.Document
import RecordFilter.Toml.Scalar
import RecordFilter.Toml.Table
import RecordFilter.Toml.Text
import RecordFilter.Proofs.Number.Digits
import RecordFilter.Proofs.Number.Rounding
import RecordFilter.Proofs.Number.Reading
import RecordFilter.Proofs.Json.Leaves
import RecordFilter.Proofs.Json.Order
import RecordFilter.Proofs.Json.RoundTrip
import RecordFilter.Proofs.Store.Saving
import RecordFilter.Proofs.Command.Files
import RecordFilter.Proofs.Command.Performing
import RecordFilter.Proofs.Command.Running
import RecordFilter.Proofs.Command.Refinement
import RecordFilter.Proofs.Command.Failing
import RecordFilter.Proofs.Filter.Compiling
import RecordFilter.Proofs.Filter.Equality
import RecordFilter.Proofs.Filter.Conjunction
import RecordFilter.Proofs.Query.Clause
import RecordFilter.Proofs.QueryString
import RecordFilter.Proofs.Query.Like
import RecordFilter.Proofs.Query.Operand
import RecordFilter.Proofs.Query.Constraint
import RecordFilter.Proofs.Command.Deleting
import RecordFilter.Proofs.Number.Nearest
import RecordFilter.Proofs.Number.Shortest
import RecordFilter.Proofs.Number.Integers
import RecordFilter.Proofs.Json.Short
import RecordFilter.Proofs.Filter.Rendered
import RecordFilter.Proofs.Query.Integers
import RecordFilter.Proofs.Query.Placeholders
import RecordFilter.Proofs.Query.Nulls
import RecordFilter.Proofs.Store.Updates
import RecordFilter.Proofs.Store.Addressing
import RecordFilter.Proofs.Store.BulkDeletion
import RecordFilter.Proofs.Query.IdRequests
import RecordFilter.Proofs.Store.Located
import RecordFilter.Proofs.Store.Independence
import RecordFilter.Proofs.Store.Unread
import RecordFilter.Proofs.Query.Widening
import RecordFilter.Proofs.Filter.Levels
import RecordFilter.Proofs.Report.Explanation
import RecordFilter.Proofs.Command.Explaining
import RecordFilter.Proofs.Filter.Reserved
import RecordFilter.Proofs.Store.Records
import RecordFilter.Proofs.Store.Objects
import RecordFilter.Proofs.Report.Columns
import RecordFilter.Proofs.Filter.Unanchored
