import Polystore.Access.Basic
import Polystore.Access.IndexCall
import Polystore.Access.TableCall
import Polystore.Assoc
import Polystore.Backend.Basic
import Polystore.Backend.Memory
import Polystore.Backend.Scripted
import Polystore.Column.Compile
import Polystore.Column.Operation
import Polystore.Column.Statement
import Polystore.Column.Text
import Polystore.Decimal.Binary64
import Polystore.Decimal.Shortest
import Polystore.Expiry
import Polystore.Failure
import Polystore.Filter.Basic
import Polystore.Filter.Reader
import Polystore.Identifier
import Polystore.Json.Basic
import Polystore.Json.Path
import Polystore.Json.Printer
import Polystore.Json.Reader
import Polystore.Key.Composite
import Polystore.Key.Id
import Polystore.Key.Layout
import Polystore.Pattern.Basic
import Polystore.Pattern.CharSet
import Polystore.Pattern.Reader
import Polystore.Pattern.Room
import Polystore.Pattern.SetReader
import Polystore.Pattern.Sign
import Polystore.Pool
import Polystore.Pool.Gate
import Polystore.Proofs.Access.MissingIndex
import Polystore.Proofs.Access.ProjectedReads
import Polystore.Proofs.Access.Refusals
import Polystore.Proofs.Access.RenamedReads
import Polystore.Proofs.Access.Running
import Polystore.Proofs.Access.SameRow
import Polystore.Proofs.Access.TableCalls
import Polystore.Proofs.Access.Tasks
import Polystore.Proofs.Access.Unapplied
import Polystore.Proofs.Access.UnknownColumns
import Polystore.Proofs.Access.Upserts
import Polystore.Proofs.Agreement
import Polystore.Proofs.Announcements
import Polystore.Proofs.Classification
import Polystore.Proofs.Column.Alike
import Polystore.Proofs.Column.Columns
import Polystore.Proofs.Column.Conditions
import Polystore.Proofs.Column.Legible
import Polystore.Proofs.Column.Names
import Polystore.Proofs.Column.Outline
import Polystore.Proofs.Column.Pieces
import Polystore.Proofs.Column.Readback
import Polystore.Proofs.Column.Rendering
import Polystore.Proofs.Column.Restriction
import Polystore.Proofs.Column.Statements
import Polystore.Proofs.Decimal.Values
import Polystore.Proofs.Filter.Building
import Polystore.Proofs.Filter.Grammar
import Polystore.Proofs.Filter.Reading
import Polystore.Proofs.Index.Documents
import Polystore.Proofs.Index.History
import Polystore.Proofs.Index.Unapplied
import Polystore.Proofs.Json.Comparison
import Polystore.Proofs.Json.Merging
import Polystore.Proofs.Json.Order
import Polystore.Proofs.Json.Sameness
import Polystore.Proofs.Key.Reads
import Polystore.Proofs.Key.Splitting
import Polystore.Proofs.Outcome
import Polystore.Proofs.Pattern.Ending
import Polystore.Proofs.Pattern.Matching
import Polystore.Proofs.Pattern.Suffix
import Polystore.Proofs.Phrases
import Polystore.Proofs.Pool.History
import Polystore.Proofs.Response.Rows
import Polystore.Proofs.Search.Acceptance
import Polystore.Proofs.Search.Answer
import Polystore.Proofs.Search.Checking
import Polystore.Proofs.Search.Clauses
import Polystore.Proofs.Search.Comparators
import Polystore.Proofs.Search.Compilation
import Polystore.Proofs.Search.Contract
import Polystore.Proofs.Search.Counting
import Polystore.Proofs.Search.Days
import Polystore.Proofs.Search.Decisions
import Polystore.Proofs.Search.DrillDown
import Polystore.Proofs.Search.Endings
import Polystore.Proofs.Search.Envelope
import Polystore.Proofs.Search.Finding
import Polystore.Proofs.Search.Matching
import Polystore.Proofs.Search.Meaning
import Polystore.Proofs.Search.Narrowing
import Polystore.Proofs.Search.Nulls
import Polystore.Proofs.Search.Ordered
import Polystore.Proofs.Search.Orderly
import Polystore.Proofs.Search.Paging
import Polystore.Proofs.Search.Paths
import Polystore.Proofs.Search.Ranges
import Polystore.Proofs.Search.Response
import Polystore.Proofs.Search.Scopes
import Polystore.Proofs.Search.TopValues
import Polystore.Proofs.Search.Unweighted
import Polystore.Proofs.Search.Weights
import Polystore.Proofs.Search.Writing
import Polystore.Proofs.Search.WrittenFilters
import Polystore.Proofs.Search.WrittenWeights
import Polystore.Proofs.Sorting.Arranged
import Polystore.Proofs.Sorting.Mapped
import Polystore.Proofs.Sorting.Runs
import Polystore.Proofs.Sorting.Stable
import Polystore.Proofs.Store.Batch
import Polystore.Proofs.Store.Call
import Polystore.Proofs.Store.Consistency
import Polystore.Proofs.Store.Faults
import Polystore.Proofs.Store.History
import Polystore.Proofs.Store.Independence
import Polystore.Proofs.Store.MapEntries
import Polystore.Proofs.Store.Passing
import Polystore.Proofs.Store.SameRecord
import Polystore.Proofs.Store.Selection
import Polystore.Proofs.Table.Cells
import Polystore.Proofs.Table.Columns
import Polystore.Proofs.Table.Consistency
import Polystore.Proofs.Table.Dated
import Polystore.Proofs.Table.Effects
import Polystore.Proofs.Table.Faults
import Polystore.Proofs.Table.History
import Polystore.Proofs.Table.Independence
import Polystore.Proofs.Table.MapEntries
import Polystore.Proofs.Table.Marks
import Polystore.Proofs.Table.Passing
import Polystore.Proofs.Table.Rows
import Polystore.Proofs.Table.Work
import Polystore.Proofs.Text.Alignments
import Polystore.Proofs.Text.Lowering
import Polystore.Proofs.WholeNumbers
import Polystore.Rejection
import Polystore.Response.Basic
import Polystore.Response.Hits
import Polystore.Response.Rows
import Polystore.Search.Body
import Polystore.Search.Clause
import Polystore.Search.Envelope
import Polystore.Search.Facet
import Polystore.Search.Index
import Polystore.Search.Query
import Polystore.Search.Request
import Polystore.Search.Score
import Polystore.Settings.Basic
import Polystore.Settings.Reader
import Polystore.Sorting
import Polystore.Table.Basic
import Polystore.Table.Row
import Polystore.Table.Store
import Polystore.Text.Basic
import Polystore.Text.Edits
import Polystore.Text.Letters
import Polystore.Text.Message
import Polystore.Text.Table.Alphanumeric
import Polystore.Text.Table.Case
import Polystore.Text.Table.Printable
import Polystore.Time.Day
import Polystore.Time.Stamp
import Polystore.Work
