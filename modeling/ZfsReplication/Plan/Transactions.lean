import ZfsReplication.Pool.Compare
import ZfsReplication.Transaction.List

/-!
# The transactions of snapshots and datasets

Taking a snapshot of a dataset, sending a source snapshot into the matching target dataset and
marking the received copy, and destroying a snapshot on its own side. Sending and marking are
operations of source snapshots only.
-/

set_option autoImplicit false

namespace ZfsReplication

open Shell

/-- Anything that can go wrong while turning two pools into transactions. -/
inductive PlanError where
  /-- The snapshots of a dataset cannot be aligned. -/
  | alignment (dataset : String) (cause : AlignmentError)
  | capacity (e : CapacityError)
  | execution (e : ExecutionError)
  /-- An operation was asked of a pool or snapshot of the wrong side. -/
  | wrongSide (expected found : Side)
deriving DecidableEq, Repr

/-- The text of a planning error. -/
def PlanError.message : PlanError → String
  | .alignment dataset cause => "cannot align snapshots of `" ++ dataset ++ "`: " ++ cause.message
  | .capacity e => e.message
  | .execution e => e.message
  | .wrongSide expected found =>
    "operation requires the " ++ expected.name ++ " side, got " ++ found.name

/-- Fails unless `found` is `expected`. -/
def requireSide (expected found : Side) : Except PlanError Unit :=
  if found == expected then .ok () else .error (.wrongSide expected found)

namespace Snapshot

/-- Destroys the snapshot on its own side. -/
def cleanupTransaction (s : Snapshot) (config : Config) : Transaction :=
  Transaction.new
    (((Details.ofKind .cleanupSnapshot).set .snapshotSubparent (.text s.subparent)).set
      .snapshotName (.text s.name))
    ((zfsDestroy s.fullName).forSide s.side config)

/-- Sends this source snapshot into the target dataset of the same relative name, incrementally
from `ancestor` if given, through the configured processing on either side. `intermediates`, the
number of foreign snapshots folded into this one, is reported under tagging only. -/
def backupTransaction (s : Snapshot) (ancestor : Option Snapshot) (intermediates : Nat)
    (config : Config) : Except PlanError Transaction := do
  requireSide .source s.side
  let targetDataset := Name.join (config.root .target) s.subparent
  let send := zfsSend s.fullName (ancestor.map Snapshot.fullName)
  let send := if config.source.processing.isEmpty then send
    else send.pipe (processing config.source.processing)
  let receive := zfsReceive targetDataset
  let receive := if config.target.processing.isEmpty then receive
    else (processing config.target.processing).pipe receive
  let command := (send.forSide .source config).pipe (receive.forSide .target config)
  let kind := if ancestor.isSome then TransactionKind.transferSnapshotIncremental
    else .transferSnapshot
  let d := (((Details.ofKind kind).set .snapshotSubparent (.text s.subparent)).set .ancestorName
    (.text ((ancestor.map Snapshot.name).getD ""))).set .snapshotName (.text s.name)
  let d := if config.compatibility.tagging then
      d.set .intermediates (.integer (min intermediates (Int.pow 2 63 - 1)))
    else d
  let d := match (s.property "written").integer? with
    | some w => d.set .written (.integer w)
    | none => d
  pure (Transaction.new d command)

/-- Marks the received copy of this source snapshot on the target. -/
def tagTransaction (s : Snapshot) (config : Config) : Except PlanError Transaction := do
  requireSide .source s.side
  let target := Name.join (config.root .target) s.subparent ++ "@" ++ s.name
  pure (Transaction.new
    (((Details.ofKind .tagSnapshot).set .snapshotSubparent (.text s.subparent)).set .snapshotName
      (.text s.name))
    ((zfsSet markerProperty markerValue target).forSide .target config))

end Snapshot

/-- Snapshots the dataset under today's next free name, marked under tagging. -/
def Dataset.snapshotTransaction (d : Dataset) (today : Calendar.Date) (config : Config) :
    Except PlanError Transaction :=
  match d.newSnapshotName today config with
  | .error e => .error (.capacity e)
  | .ok name =>
    let details := ((Details.ofKind .snapshot).set .datasetSubname (.text d.subname)).set
      .snapshotName (.text name)
    let details := match (d.property "written").integer? with
      | some w => details.set .written (.integer w)
      | none => details
    .ok (Transaction.new details
      ((zfsSnapshot (d.name ++ "@" ++ name) config.compatibility.tagging).forSide d.side config))

end ZfsReplication
