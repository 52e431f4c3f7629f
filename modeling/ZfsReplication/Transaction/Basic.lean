import ZfsReplication.Property
import ZfsReplication.Shell.Session

/-!
# Transactions

A transaction is one planned command with a description of what it does. It moves once from
pending through running to complete, and remembers the error if its command failed.
-/

set_option autoImplicit false

namespace ZfsReplication

open Shell

/-- What a transaction does. -/
inductive TransactionKind where
  | snapshot
  | transferSnapshot
  | transferSnapshotIncremental
  | tagSnapshot
  | cleanupSnapshot
  | setProperty
deriving DecidableEq, Repr

/-- The name of a kind. -/
def TransactionKind.name : TransactionKind → String
  | .snapshot => "snapshot"
  | .transferSnapshot => "transfer_snapshot"
  | .transferSnapshotIncremental => "transfer_snapshot_incremental"
  | .tagSnapshot => "tag_snapshot"
  | .cleanupSnapshot => "cleanup_snapshot"
  | .setProperty => "set_property"

/-- The fields describing a transaction, in column order. -/
inductive Field where
  | kind
  | datasetSubname
  | snapshotSubparent
  | ancestorName
  | snapshotName
  | intermediates
  | written
  | property
  | value
deriving DecidableEq, Repr

namespace Field

/-- The name of a field. -/
def name : Field → String
  | .kind => "type"
  | .datasetSubname => "dataset_subname"
  | .snapshotSubparent => "snapshot_subparent"
  | .ancestorName => "ancestor_name"
  | .snapshotName => "snapshot_name"
  | .intermediates => "intermediates"
  | .written => "written"
  | .property => "property"
  | .value => "value"

/-- The position of a field in column order. -/
def rank : Field → Nat
  | .kind => 0
  | .datasetSubname => 1
  | .snapshotSubparent => 2
  | .ancestorName => 3
  | .snapshotName => 4
  | .intermediates => 5
  | .written => 6
  | .property => 7
  | .value => 8

/-- All fields in column order. -/
def all : List Field :=
  [.kind, .datasetSubname, .snapshotSubparent, .ancestorName, .snapshotName, .intermediates,
    .written, .property, .value]

/-- The field of a name. -/
def ofName? (n : String) : Option Field := all.find? (·.name == n)

end Field

/-- The description of a transaction: its kind and further fields, each at most once, in column
order. The kind is always present. -/
structure Details where
  kind : TransactionKind
  fields : List (Field × PropertyValue)

namespace Details

/-- A description with the kind alone. -/
def ofKind (k : TransactionKind) : Details := ⟨k, []⟩

/-- Inserts a field in column order, replacing an earlier value of it; the kind is not changed. -/
def insertField (f : Field) (v : PropertyValue) : List (Field × PropertyValue) →
    List (Field × PropertyValue)
  | [] => [(f, v)]
  | (g, w) :: rest =>
    if f.rank < g.rank then (f, v) :: (g, w) :: rest
    else if f.rank == g.rank then (f, v) :: rest
    else (g, w) :: insertField f v rest

/-- The description with field `f` set to `v`; setting the kind field does nothing. -/
def set (d : Details) (f : Field) (v : PropertyValue) : Details :=
  if f == .kind then d else { d with fields := insertField f v d.fields }

/-- The value of a field; the kind reads as its name. -/
def get? (d : Details) (f : Field) : Option PropertyValue :=
  if f == .kind then some (.text d.kind.name) else d.fields.lookup f

/-- The fields present, the kind first. -/
def keys (d : Details) : List Field := .kind :: d.fields.map (·.1)

/-- The number of fields present, the kind included. -/
def size (d : Details) : Nat := d.fields.length + 1

end Details

/-- Where a transaction is in its life. -/
inductive TransactionState where
  | pending
  | running
  | complete
deriving DecidableEq, Repr

/-- The name of a state. -/
def TransactionState.name : TransactionState → String
  | .pending => "pending"
  | .running => "running"
  | .complete => "complete"

/-- A planned command with its description. -/
structure Transaction where
  details : Details
  command : Command
  state : TransactionState := .pending
  error : Option ExecutionError := none

namespace Transaction

/-- A pending transaction. -/
def new (details : Details) (command : Command) : Transaction := { details, command }

/-- Runs a pending transaction's command and completes it, keeping the error if it failed. A
transaction that is not pending is left as it is. -/
def run (t : Transaction) : Exec Transaction :=
  if t.state != .pending then pure t
  else do
    let result ← Shell.run t.command
    pure { t with state := .complete, error := match result with
      | .ok _ => none
      | .error e => some e }

end Transaction

end ZfsReplication
