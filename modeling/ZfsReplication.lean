import ZfsReplication.Calendar.Date
import ZfsReplication.Chain
import ZfsReplication.Cli.Grammar
import ZfsReplication.Cli.Parse
import ZfsReplication.Cli.Similarity
import ZfsReplication.Config.Basic
import ZfsReplication.Config.Json
import ZfsReplication.Config.Toml
import ZfsReplication.Decimal.Layout
import ZfsReplication.Decimal.Nearest
import ZfsReplication.Decimal.Read
import ZfsReplication.Decimal.Shortest
import ZfsReplication.Fixture
import ZfsReplication.Json.Decode
import ZfsReplication.Json.Reader
import ZfsReplication.Json.Value
import ZfsReplication.Json.Writer
import ZfsReplication.Main
import ZfsReplication.Plan.Planner
import ZfsReplication.Plan.Transactions
import ZfsReplication.Pool.Basic
import ZfsReplication.Pool.Compare
import ZfsReplication.Pool.Dataset
import ZfsReplication.Pool.Row
import ZfsReplication.Pool.Snapshot
import ZfsReplication.Property
import ZfsReplication.Report
import ZfsReplication.Shell.Command
import ZfsReplication.Shell.Quote
import ZfsReplication.Shell.Session
import ZfsReplication.Text.Unicode
import ZfsReplication.Toml.Reader
import ZfsReplication.Toml.Writer
import ZfsReplication.Transaction.Basic
import ZfsReplication.Transaction.List
import ZfsReplication.Proofs.Chain.Runs
import ZfsReplication.Proofs.Chain.Align
import ZfsReplication.Proofs.Chain.History
import ZfsReplication.Proofs.Chain.Views
import ZfsReplication.Proofs.Chain.Head
import ZfsReplication.Proofs.Plan.Items
import ZfsReplication.Proofs.Pool.Listing
import ZfsReplication.Proofs.Plan.Retention
import ZfsReplication.Proofs.Plan.Transfer
import ZfsReplication.Proofs.Plan.Pruning
import ZfsReplication.Proofs.Plan.Convergence
import ZfsReplication.Proofs.Shell.Reading
import ZfsReplication.Proofs.Transaction.Run
import ZfsReplication.Proofs.Pool.Pairing
import ZfsReplication.Proofs.Pool.Contents
import ZfsReplication.Proofs.Plan.Snapshots
import ZfsReplication.Proofs.Chain.Positions
import ZfsReplication.Proofs.Chain.Refusal
import ZfsReplication.Proofs.Chain.Folding
import ZfsReplication.Proofs.Plan.Comparison
import ZfsReplication.Proofs.Pool.Naming
import ZfsReplication.Proofs.Plan.Destination
import ZfsReplication.Proofs.Transaction.Table
import ZfsReplication.Proofs.Transaction.Events
import ZfsReplication.Proofs.Text.Digits
import ZfsReplication.Proofs.Toml.Strings
import ZfsReplication.Proofs.Toml.Document
import ZfsReplication.Proofs.Json.Records
import ZfsReplication.Proofs.Config.File
