import IncidentTracker.CommandLine.Command
import IncidentTracker.CommandLine.Explanation
import IncidentTracker.CommandLine.Parameter
import IncidentTracker.CommandLine.Run
import IncidentTracker.CommandLine.VariableFile
import IncidentTracker.CommandLine.Words
import IncidentTracker.Dictionary
import IncidentTracker.Directory
import IncidentTracker.Entity.Basic
import IncidentTracker.Entity.Property
import IncidentTracker.Entity.Wire
import IncidentTracker.Filtering.Basic
import IncidentTracker.Filtering.Param
import IncidentTracker.Filtering.Tree
import IncidentTracker.Filtering.Wire
import IncidentTracker.Json.Decode
import IncidentTracker.Json.Document
import IncidentTracker.Json.Fault
import IncidentTracker.Json.Layout
import IncidentTracker.Json.Numeral
import IncidentTracker.Json.Render
import IncidentTracker.Json.Scan
import IncidentTracker.Log
import IncidentTracker.Main
import IncidentTracker.Relational.Binary
import IncidentTracker.Relational.Column
import IncidentTracker.Relational.Condition
import IncidentTracker.Relational.Database
import IncidentTracker.Relational.Error
import IncidentTracker.Relational.Evaluation
import IncidentTracker.Relational.Location
import IncidentTracker.Relational.Numeric
import IncidentTracker.Relational.Snapshot
import IncidentTracker.Relational.Store
import IncidentTracker.Settings.File
import IncidentTracker.Settings.Layer
import IncidentTracker.Settings.Load
import IncidentTracker.Store.Backend
import IncidentTracker.Store.Error
import IncidentTracker.Store.Memory
import IncidentTracker.Store.Repository
import IncidentTracker.Text.Alphanumeric
import IncidentTracker.Text.Ascii
import IncidentTracker.Text.Blank
import IncidentTracker.Text.Bytes
import IncidentTracker.Text.CaseInsensitive
import IncidentTracker.Text.CaseTable
import IncidentTracker.Text.Decimal
import IncidentTracker.Text.Hexadecimal
import IncidentTracker.Text.Interval
import IncidentTracker.Text.Like
import IncidentTracker.Text.Lowercase
import IncidentTracker.Text.Occurrence
import IncidentTracker.Text.Percent
import IncidentTracker.Text.Pieces
import IncidentTracker.Text.Quoted
import IncidentTracker.Text.Shortest
import IncidentTracker.Text.Unprintable
import IncidentTracker.WideColumn.Call
import IncidentTracker.WideColumn.Expression
import IncidentTracker.WideColumn.Folded
import IncidentTracker.WideColumn.Item
import IncidentTracker.WideColumn.Store
import IncidentTracker.Proofs.Text.Folding
import IncidentTracker.Proofs.Text.LiteralSearch
import IncidentTracker.Proofs.Text.Pieces
import IncidentTracker.Proofs.Filtering.Leaves
import IncidentTracker.Proofs.Relational.Truth
import IncidentTracker.Proofs.Dictionary
import IncidentTracker.Proofs.Relational.Stored
import IncidentTracker.Proofs.Relational.Agreement
import IncidentTracker.Proofs.Relational.Limits
import IncidentTracker.Proofs.Relational.Listing
import IncidentTracker.Proofs.Formula.Basic
import IncidentTracker.Proofs.Formula.Reading
import IncidentTracker.Proofs.WideColumn.Folding
import IncidentTracker.Proofs.WideColumn.Scanning
import IncidentTracker.Proofs.Relational.ClauseText
import IncidentTracker.Proofs.Json.Layout
import IncidentTracker.Proofs.Filtering.Settled
import IncidentTracker.Proofs.Filtering.Wire
import IncidentTracker.Proofs.WideColumn.Traffic
import IncidentTracker.Proofs.Relational.LegacyListing
import IncidentTracker.Proofs.Text.Numerals
import IncidentTracker.Proofs.Filtering.Accepted
import IncidentTracker.Proofs.Relational.Reachable
import IncidentTracker.Proofs.Relational.Answerable
import IncidentTracker.Proofs.Directory
import IncidentTracker.Proofs.Store.Session
import IncidentTracker.Proofs.Filtering.Dual
import IncidentTracker.Proofs.Store.Partition
import IncidentTracker.Proofs.Text.Lowering
import IncidentTracker.Proofs.Entity.Members
import IncidentTracker.Proofs.WideColumn.Placeholders
import IncidentTracker.Proofs.Filtering.Likeness
import IncidentTracker.Proofs.Store.QueryText
import IncidentTracker.Proofs.Json.Grammar
import IncidentTracker.Proofs.Json.Spacing
import IncidentTracker.Proofs.Json.Record
import IncidentTracker.Proofs.Filtering.Spelling
import IncidentTracker.Proofs.Entity.Identifiers
import IncidentTracker.Proofs.Relational.WholeIncidents
import IncidentTracker.Proofs.Relational.AttributeLookup
import IncidentTracker.Proofs.WideColumn.Service
import IncidentTracker.Proofs.WideColumn.ExactSelection
import IncidentTracker.Proofs.Store.IdentifierEquality
import IncidentTracker.Proofs.Json.Written
import IncidentTracker.Proofs.Entity.RoundTrip
import IncidentTracker.Proofs.WideColumn.Paging
import IncidentTracker.Proofs.Directory.Texts
import IncidentTracker.Proofs.CommandLine.Keeping
import IncidentTracker.Proofs.CommandLine.Words
import IncidentTracker.Proofs.CommandLine.Additions
import IncidentTracker.Proofs.CommandLine.Invisible
import IncidentTracker.Proofs.WideColumn.Encodings
import IncidentTracker.Proofs.Store.Addressing
import IncidentTracker.Proofs.Relational.Schema
import IncidentTracker.Proofs.Store.Memory
import IncidentTracker.Proofs.Filtering.Interpretation
import IncidentTracker.Proofs.Filtering.Shuffling
import IncidentTracker.Proofs.Filtering.Weakening
import IncidentTracker.Proofs.WideColumn.Verdict
import IncidentTracker.Proofs.Relational.Answers
import IncidentTracker.Proofs.Store.Indifference
import IncidentTracker.Proofs.Store.OrderOfParts
import IncidentTracker.Proofs.Store.QuerySize
import IncidentTracker.Proofs.Text.Verbatim
import IncidentTracker.Proofs.Json.Recognition
import IncidentTracker.Proofs.Json.Outcome
import IncidentTracker.Proofs.Filtering.Remarks
import IncidentTracker.Proofs.Json.OpenRecord
import IncidentTracker.Proofs.Settings.Layering
import IncidentTracker.Proofs.Text.CaseEquality
import IncidentTracker.Proofs.Text.Wildcards
import IncidentTracker.Proofs.Relational.PatternSearch
import IncidentTracker.Proofs.Relational.RowOrder
