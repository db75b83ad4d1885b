import Recommender.Aggregate.Cached
import Recommender.Aggregate.Lookup
import Recommender.Aggregate.Provider
import Recommender.Aggregate.Subject
import Recommender.Arguments
import Recommender.Assoc
import Recommender.Catalog.Predicate
import Recommender.Catalog.RuleSet
import Recommender.Catalog.Written
import Recommender.Database.Cell
import Recommender.Database.Connection
import Recommender.Database.RuleTables
import Recommender.Database.Script
import Recommender.Database.Statement
import Recommender.Database.Transactions
import Recommender.ErrorKind
import Recommender.Failure
import Recommender.Http.Address
import Recommender.Http.App
import Recommender.Http.Body
import Recommender.Http.Description
import Recommender.Http.Message
import Recommender.Http.Name
import Recommender.Http.Name.Composed
import Recommender.Http.Name.Context
import Recommender.Http.Name.Direction
import Recommender.Http.Name.Fault
import Recommender.Http.Name.Label
import Recommender.Http.Name.Letter
import Recommender.Http.Name.Mark
import Recommender.Http.Name.Punycode
import Recommender.Http.Operation
import Recommender.Http.Path
import Recommender.Http.Reference
import Recommender.Http.Route
import Recommender.Http.Schema
import Recommender.Http.Site
import Recommender.Issue
import Recommender.Journal
import Recommender.Json.Basic
import Recommender.Json.Order
import Recommender.Json.Reader
import Recommender.Json.Template
import Recommender.Json.Writer
import Recommender.Main
import Recommender.Memo.Basic
import Recommender.Memo.Gate
import Recommender.Memo.Session
import Recommender.Metric.Collector
import Recommender.Metric.Exposition
import Recommender.Metric.Sample
import Recommender.Metric.Tally
import Recommender.Number.Binary64
import Recommender.Number.Decimal
import Recommender.Number.Decimal.Written
import Recommender.Number.LooseInteger
import Recommender.Number.Numeral
import Recommender.Number.Places
import Recommender.Number.Power
import Recommender.Number.Quantity
import Recommender.Number.Shortest
import Recommender.Payload.Checked
import Recommender.Payload.Field
import Recommender.Payload.RuleDraft
import Recommender.Program
import Recommender.Rule.Basic
import Recommender.Rule.Clause
import Recommender.Rule.Evaluation
import Recommender.Rule.Id
import Recommender.Rule.Store
import Recommender.Rule.Token
import Recommender.Rule.Written
import Recommender.Service.Authoring
import Recommender.Service.Backend
import Recommender.Service.Recommending
import Recommender.Service.State
import Recommender.Service.Stores
import Recommender.Settings
import Recommender.Term
import Recommender.Text.Blank
import Recommender.Text.Case
import Recommender.Text.Digit
import Recommender.Text.Encoding
import Recommender.Text.Half
import Recommender.Text.Letter
import Recommender.Text.Printable
import Recommender.Text.Quoted
import Recommender.Text.Title
import Recommender.Text.Utf8
import Recommender.Uuid
import Recommender.Proofs.Memo.Coherence
import Recommender.Proofs.Memo.Provenance
import Recommender.Proofs.Memo.SingleFlight
import Recommender.Proofs.Aggregate.Key
import Recommender.Proofs.Aggregate.Snapshot
import Recommender.Proofs.Number.Numeral
import Recommender.Proofs.Rule.Validation
import Recommender.Proofs.Program
import Recommender.Proofs.Program.History
import Recommender.Proofs.Program.Interference
import Recommender.Proofs.Rule.Evaluation
import Recommender.Proofs.Rule.Judgement
import Recommender.Proofs.Catalog.RuleSet
import Recommender.Proofs.Service.Authoring
import Recommender.Proofs.Service.Conduct
import Recommender.Proofs.Service.Deletion
import Recommender.Proofs.Service.Effect
import Recommender.Proofs.Service.Faults
import Recommender.Proofs.Service.Ledger
import Recommender.Proofs.Service.Recommending
import Recommender.Proofs.Service.Traffic
import Recommender.Proofs.Rule.Numbering
import Recommender.Proofs.Rule.Language
import Recommender.Proofs.Program.Simulation
import Recommender.Proofs.Service.Confinement
import Recommender.Proofs.Aggregate.Parallel
import Recommender.Proofs.Service.Answer
import Recommender.Proofs.Program.Turn
import Recommender.Proofs.Service.Matches
import Recommender.Proofs.Service.Backlog
import Recommender.Proofs.Service.Noninterference
import Recommender.Proofs.Service.Shift
import Recommender.Proofs.Aggregate.Drift
import Recommender.Proofs.Aggregate.Beside
import Recommender.Proofs.Service.Sequence
import Recommender.Proofs.Service.Transparency
import Recommender.Proofs.Service.Lifecycle
import Recommender.Proofs.Json.Texts
import Recommender.Proofs.Json.Written
import Recommender.Proofs.Json.Sent
import Recommender.Proofs.Database.Grouping
import Recommender.Proofs.Database.Tables
import Recommender.Proofs.Database.Archive
import Recommender.Proofs.Sorting
import Recommender.Proofs.Service.Removal
import Recommender.Proofs.Program.Rely
import Recommender.Proofs.Database.Reading
import Recommender.Proofs.Database.Sharing
import Recommender.Proofs.Database.Listing
import Recommender.Proofs.Number.Counting
import Recommender.Proofs.Metric.Series
import Recommender.Proofs.Http.Delivery
import Recommender.Proofs.Http.Conversation
import Recommender.Proofs.Http.Tracing
import Recommender.Proofs.Http.Reporting
import Recommender.Proofs.Memo.Waiting
import Recommender.Proofs.Memo.Cancellation
import Recommender.Proofs.Rule.Conjunction
import Recommender.Proofs.Service.Addition
import Recommender.Proofs.Program.Search
import Recommender.Proofs.Rule.WholeNumber
import Recommender.Proofs.Rule.Rewriting
import Recommender.Proofs.Catalog.Consultation
import Recommender.Proofs.Catalog.Agreement
import Recommender.Proofs.Number.Positional
import Recommender.Proofs.Rule.NumeralValue
import Recommender.Proofs.Payload.Identifier
import Recommender.Proofs.Payload.Submission
import Recommender.Proofs.Database.Pools
import Recommender.Proofs.Database.Startup
import Recommender.Proofs.Memo.Accounting
import Recommender.Proofs.Memo.InFlight
import Recommender.Proofs.Service.Records
import Recommender.Proofs.Service.Metering
