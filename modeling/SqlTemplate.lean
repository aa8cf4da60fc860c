import SqlTemplate.Text.Blank
import SqlTemplate.Text.Caseless
import SqlTemplate.Text.Delimited
import SqlTemplate.Text.Literal
import SqlTemplate.Text.Numeral
import SqlTemplate.Binary.Ieee
import SqlTemplate.Binary.BigEndian
import SqlTemplate.Decimal.Shortest
import SqlTemplate.Decimal.Layout
import SqlTemplate.Calendar
import SqlTemplate.Value.Basic
import SqlTemplate.Value.Written
import SqlTemplate.Value.Column
import SqlTemplate.Value.Sending
import SqlTemplate.Parameters
import SqlTemplate.Keyed
import SqlTemplate.Dialect
import SqlTemplate.Hints
import SqlTemplate.Token.Basic
import SqlTemplate.Token.Comparison
import SqlTemplate.Token.Clause
import SqlTemplate.Fault
import SqlTemplate.Locator
import SqlTemplate.Topology.Basic
import SqlTemplate.Topology.Route
import SqlTemplate.Topology.Document
import SqlTemplate.Context
import SqlTemplate.Nesting.Level
import SqlTemplate.Nesting.Balance
import SqlTemplate.Melt.Role
import SqlTemplate.Melt.Scan
import SqlTemplate.Melt.Survival
import SqlTemplate.Statement.Basic
import SqlTemplate.Composer.Program
import SqlTemplate.Proofs.Melt.ScanExact
import SqlTemplate.Proofs.Melt.Phrase
import SqlTemplate.Proofs.Melt.Item
import SqlTemplate.Proofs.Melt.Survivors
import SqlTemplate.Proofs.Melt.WellFormed
import SqlTemplate.Proofs.Melt.Predicate
import SqlTemplate.Proofs.Statement.Collected
import SqlTemplate.Proofs.Statement.Fragments
import SqlTemplate.Proofs.Statement.Shares
import SqlTemplate.Proofs.Composer.Parameters
import SqlTemplate.Proofs.Composer.Secrecy
import SqlTemplate.Proofs.Topology.Shard
import SqlTemplate.Proofs.Context.PhysicalName
import SqlTemplate.Proofs.Statement.Slot
import SqlTemplate.Proofs.Statement.Outline
import SqlTemplate.Proofs.Statement.Pairing
import SqlTemplate.Proofs.Statement.Numbering
import SqlTemplate.Proofs.Composer.Routing
import SqlTemplate.Proofs.Context.Changes
import SqlTemplate.Proofs.Topology.RouteFault
import SqlTemplate.Proofs.Topology.Validation
import SqlTemplate.Proofs.Composer.Verdict
import SqlTemplate.Proofs.Composer.Division
import SqlTemplate.Proofs.Composer.Invisible
import SqlTemplate.Proofs.Text.DecimalLiteral
import SqlTemplate.Proofs.Text.Quoting
import SqlTemplate.Proofs.Topology.SpelledId
import SqlTemplate.Proofs.Melt.Revival
import SqlTemplate.Proofs.Melt.Clauses
import SqlTemplate.Proofs.Melt.Groups
import SqlTemplate.Proofs.Melt.Brackets
import SqlTemplate.Proofs.Melt.WatchedScan
import SqlTemplate.Proofs.Topology.Declaration
import SqlTemplate.Proofs.Topology.Precedence
import SqlTemplate.Proofs.Statement.Spacing
import SqlTemplate.Proofs.Context.Reached
import SqlTemplate.Proofs.Context.IntegerView
import SqlTemplate.Proofs.Composer.Frame
import SqlTemplate.Proofs.Composer.InsertedRow
import SqlTemplate.Proofs.Composer.OptionalPredicate
import SqlTemplate.Proofs.Composer.Interchange
import SqlTemplate.Proofs.Value.ReadBack
