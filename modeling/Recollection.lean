import Recollection.Number.Numeral
import Recollection.Number.Reading
import Recollection.Text.Blank
import Recollection.Text.Quoted
import Recollection.Text.Words
import Recollection.Json.Lenient
import Recollection.Json.Reader
import Recollection.Json.SyntaxFault
import Recollection.Json.Token
import Recollection.Json.Writer
import Recollection.Digest.Canonical
import Recollection.Collection.Repeat
import Recollection.Collection.SortedMap
import Recollection.Collection.SortedSet
import Recollection.Contract.Mismatch
import Recollection.Contract.Shape
import Recollection.Contract.Basic
import Recollection.Identity.Identifier
import Recollection.Identity.Scope
import Recollection.Boundary.Evaluation
import Recollection.Boundary.Ingestion
import Recollection.Boundary.Policy
import Recollection.Boundary.Retrieval
import Recollection.Boundary.Storage
import Recollection.Boundary.Contracts
import Recollection.Boundary.Fault
import Recollection.Memory.Store
import Recollection.Service.Basic
import Recollection.Service.Clock
import Recollection.Service.InMemory.Evaluation
import Recollection.Service.InMemory.Ingestion
import Recollection.Service.InMemory.Policy
import Recollection.Service.InMemory.Retrieval
import Recollection.Service.InMemory.Storage
import Recollection.Service.Permissive
import Recollection.Toml.Date
import Recollection.Toml.Reader
import Recollection.Settings.Basic
import Recollection.Settings.Document
import Recollection.Settings.Overlay
import Recollection.Assembly.Basic
import Recollection.Assembly.Facets
import Recollection.Benchmark.Plan
import Recollection.Benchmark.Variables
import Recollection.Random.Draw
import Recollection.Benchmark.Sanitized
import Recollection.Benchmark.Workload
import Recollection.Benchmark.ContractEngine
import Recollection.Benchmark.Samples
import Recollection.Benchmark.Summary
import Recollection.Identity.RunId
import Recollection.Time.Calendar
import Recollection.Time.Timestamp
import Recollection.Benchmark.Fixture
import Recollection.Benchmark.Gates
import Recollection.Benchmark.Report
import Recollection.Benchmark.Tables
import Recollection.Benchmark.FaultyEngines
import Recollection.Boundary.Exchange
import Recollection.Main
import Recollection.Proofs.Collection.Repeat
import Recollection.Proofs.Collection.SortedMap
import Recollection.Proofs.Collection.SortedSet
import Recollection.Proofs.Contract.Check
import Recollection.Proofs.Memory.History
import Recollection.Proofs.Memory.Space
import Recollection.Proofs.Memory.Store
import Recollection.Proofs.Memory.Terms
import Recollection.Proofs.Number.Reading
import Recollection.Proofs.Number.Rounding
import Recollection.Proofs.Service.Calls
import Recollection.Proofs.Service.Failure
import Recollection.Proofs.Service.Hits
import Recollection.Proofs.Service.Idempotence
import Recollection.Proofs.Service.Optimistic
import Recollection.Proofs.Service.Refinement
import Recollection.Proofs.Service.Run
import Recollection.Proofs.Service.Schedule
import Recollection.Proofs.Service.StoreHistory
import Recollection.Proofs.Service.Transcript
import Recollection.Proofs.Text.Words
import Recollection.Proofs.Service.Paging
import Recollection.Proofs.Boundary.Invariants
import Recollection.Proofs.Boundary.RoundTrip
import Recollection.Proofs.Service.Ranking
import Recollection.Proofs.Service.Isolation
import Recollection.Proofs.Contract.RoundTrip
import Recollection.Proofs.Boundary.Carried
import Recollection.Proofs.Service.Contracts
import Recollection.Proofs.Number.Shortest
import Recollection.Proofs.Json.Token
import Recollection.Proofs.Json.Number
import Recollection.Proofs.Json.Order
import Recollection.Proofs.Json.Unambiguous
import Recollection.Proofs.Digest.Canonical
import Recollection.Proofs.Digest.Identity
import Recollection.Proofs.Service.Replay
import Recollection.Proofs.Benchmark.Workload
import Recollection.Proofs.Benchmark.ContractEngine
import Recollection.Proofs.Benchmark.Capture
import Recollection.Proofs.Benchmark.Aggregate
import Recollection.Proofs.Service.Batches
import Recollection.Proofs.Contract.Language
import Recollection.Proofs.Boundary.Language
import Recollection.Proofs.Text.ByteOrder
import Recollection.Proofs.Contract.FirstFault
import Recollection.Proofs.Boundary.Partition
import Recollection.Proofs.Boundary.Selection
import Recollection.Proofs.Identity.Scope
import Recollection.Proofs.Service.Permissive
import Recollection.Proofs.Benchmark.Sanitized
import Recollection.Proofs.Benchmark.SecretFree
import Recollection.Proofs.Benchmark.ReplayGate
import Recollection.Proofs.Benchmark.RecallBounds
import Recollection.Proofs.Number.Order
import Recollection.Proofs.Boundary.HitOrder
import Recollection.Proofs.Boundary.HitRanking
import Recollection.Proofs.Benchmark.Sums
import Recollection.Proofs.Benchmark.RecallBudget
import Recollection.Proofs.Text.CodeSet
import Recollection.Proofs.Text.Lowercase
import Recollection.Proofs.Text.StableWords
import Recollection.Proofs.Service.OwnWords
import Recollection.Proofs.Service.Scoring
import Recollection.Proofs.Benchmark.Summaries
import Recollection.Proofs.Benchmark.Accounting
import Recollection.Proofs.Benchmark.Markers
import Recollection.Proofs.Identity.Anchoring
import Recollection.Proofs.Text.AsciiCase
import Recollection.Proofs.Service.Decisions
import Recollection.Proofs.Settings.Variable
import Recollection.Proofs.Settings.Overlay
import Recollection.Proofs.Number.Decimal
import Recollection.Proofs.Number.Range
import Recollection.Proofs.Number.Integral
import Recollection.Proofs.Assembly.Facets
import Recollection.Proofs.Benchmark.Variables
import Recollection.Proofs.Benchmark.FailedGates
import Recollection.Proofs.Digest.Numbers
import Recollection.Proofs.Boundary.Listing
import Recollection.Proofs.Boundary.Repeats
