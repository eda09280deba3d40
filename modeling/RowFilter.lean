import RowFilter.Cast
import RowFilter.Civil.Date
import RowFilter.Civil.DateTime
import RowFilter.Civil.MailDate
import RowFilter.Civil.Pattern
import RowFilter.Civil.Recognise
import RowFilter.Civil.Time
import RowFilter.Civil.Zone
import RowFilter.Civil.ZoneTable
import RowFilter.Config
import RowFilter.Filter.Basic
import RowFilter.Filter.Compile
import RowFilter.Filter.Condition
import RowFilter.Filter.Consulted
import RowFilter.Filter.Draft
import RowFilter.Filter.Error
import RowFilter.Filter.Flag
import RowFilter.Filter.Node
import RowFilter.Json.Basic
import RowFilter.Json.Printer
import RowFilter.Json.Reader
import RowFilter.Keyed
import RowFilter.Literal.Basic
import RowFilter.Literal.Collation
import RowFilter.Literal.Reader
import RowFilter.Naming
import RowFilter.Number.BinaryFloat.Basic
import RowFilter.Number.BinaryFloat.Reader
import RowFilter.Number.BinaryFloat.Shortest
import RowFilter.Number.Decimal.Basic
import RowFilter.Number.Decimal.Reader
import RowFilter.Number.Digits
import RowFilter.Number.Power
import RowFilter.Page.Request
import RowFilter.Page.Result
import RowFilter.Page.SortToken
import RowFilter.Proofs.Cast
import RowFilter.Proofs.Civil.Calendar
import RowFilter.Proofs.Civil.DayByDay
import RowFilter.Proofs.Civil.Epoch
import RowFilter.Proofs.Civil.MailDate
import RowFilter.Proofs.Civil.Notation
import RowFilter.Proofs.Civil.Pattern
import RowFilter.Proofs.Civil.Placement
import RowFilter.Proofs.Civil.Recognise
import RowFilter.Proofs.Civil.Zone
import RowFilter.Proofs.Cast.Temporal
import RowFilter.Proofs.Filter.Column
import RowFilter.Proofs.Filter.Correctness
import RowFilter.Proofs.Filter.EntryOrder
import RowFilter.Proofs.Filter.Meaning
import RowFilter.Proofs.Filter.Negation
import RowFilter.Proofs.Filter.Outcome
import RowFilter.Proofs.Filter.OwnText
import RowFilter.Proofs.Filter.OwnValue
import RowFilter.Proofs.Filter.Range
import RowFilter.Proofs.Filter.Related
import RowFilter.Proofs.Filter.RelationKey
import RowFilter.Proofs.Filter.Relocation
import RowFilter.Proofs.Filter.Reordering
import RowFilter.Proofs.Filter.Scope
import RowFilter.Proofs.Filter.Typing
import RowFilter.Proofs.Filter.Union
import RowFilter.Proofs.Filter.Value
import RowFilter.Proofs.Json.Reordering
import RowFilter.Proofs.Literal.ExactNumbers
import RowFilter.Proofs.Literal.Interchange
import RowFilter.Proofs.Literal.Kind
import RowFilter.Proofs.Literal.Order
import RowFilter.Proofs.Literal.OwnText
import RowFilter.Proofs.Literal.Ranking
import RowFilter.Proofs.Literal.SortOrder
import RowFilter.Proofs.Number.Decimal
import RowFilter.Proofs.Number.DecimalLimit
import RowFilter.Proofs.Number.Digits
import RowFilter.Proofs.Number.Rounding
import RowFilter.Proofs.Number.Value
import RowFilter.Proofs.Page.SortKey
import RowFilter.Proofs.Query.Choices
import RowFilter.Proofs.Query.Comparable
import RowFilter.Proofs.Query.Definite
import RowFilter.Proofs.Query.EmptyList
import RowFilter.Proofs.Query.Evaluation
import RowFilter.Proofs.Query.Expansion
import RowFilter.Proofs.Query.Like
import RowFilter.Proofs.Query.Membership
import RowFilter.Proofs.Query.OwnFields
import RowFilter.Proofs.Query.Scope
import RowFilter.Proofs.Query.Truth
import RowFilter.Proofs.Schema.Identity
import RowFilter.Proofs.Schema.RecordedIdentity
import RowFilter.Proofs.Service.ExtraCriteria
import RowFilter.Proofs.Service.Outcome
import RowFilter.Proofs.Service.Pages
import RowFilter.Proofs.SortedTable
import RowFilter.Proofs.Sql.Grammar
import RowFilter.Proofs.Sql.Placeholders
import RowFilter.Proofs.Sql.Shape
import RowFilter.Proofs.Sql.Structure
import RowFilter.Proofs.Sql.Tokens
import RowFilter.Proofs.StableSort
import RowFilter.Proofs.Store.Conformance
import RowFilter.Proofs.Store.Fetch
import RowFilter.Proofs.Store.RowOrder
import RowFilter.Proofs.Success
import RowFilter.Proofs.Text.Plain
import RowFilter.Proofs.Text.UpperCase
import RowFilter.Proofs.Uuid
import RowFilter.Query.Document
import RowFilter.Query.Evaluate
import RowFilter.Query.Like
import RowFilter.Query.Path
import RowFilter.Query.Predicate
import RowFilter.Query.Sql
import RowFilter.ScalarType
import RowFilter.Schema.Entity
import RowFilter.Schema.Resolve
import RowFilter.Service
import RowFilter.Session
import RowFilter.StableSort
import RowFilter.Store.Memory
import RowFilter.Store.Record
import RowFilter.Text.Basic
import RowFilter.Text.Case
import RowFilter.Text.CaseTable
import RowFilter.Text.Property
import RowFilter.Text.PropertyTable
import RowFilter.Text.Quoted
import RowFilter.Uuid
import RowFilter.Proofs.Filter.Refusal
import RowFilter.Proofs.Filter.StoredColumns
import RowFilter.Proofs.Filter.Aliases
import RowFilter.Proofs.Filter.CaseInsensitive
import RowFilter.Proofs.Schema.Flattening
import RowFilter.Proofs.Filter.Accounting
import RowFilter.Proofs.Civil.Timestamp
import RowFilter.Proofs.Civil.Coherence
import RowFilter.Proofs.Store.LinkedRecords
import RowFilter.Proofs.Filter.Undeclared
import RowFilter.Proofs.Cast.Integers
import RowFilter.Proofs.Number.Word
import RowFilter.Proofs.Page.Position
import RowFilter.Proofs.Page.Bounds
import RowFilter.Proofs.Page.Draft
import RowFilter.Proofs.Text.Split
import RowFilter.Proofs.Naming
import RowFilter.Proofs.Filter.FieldNames
import RowFilter.Proofs.Filter.DraftedConditions
import RowFilter.Proofs.Filter.FloatingPoint
import RowFilter.Proofs.Filter.FetchModes
import RowFilter.Proofs.Page.SortNotation
import RowFilter.Proofs.Exchange
