import ZfsReplication.Pool.Snapshot
import ZfsReplication.Shell.Session
import ZfsReplication.Calendar.Date

/-!
# Datasets

A filesystem or volume on one side with its properties and its snapshots in creation order. A
dataset knows whether something was written since its latest snapshot, cheap checks first and a
`zfs diff` last, and which name today's next snapshot takes.
-/

set_option autoImplicit false

namespace ZfsReplication

open Shell

/-- Too many snapshots for one day with the configured number of digits. -/
structure CapacityError where
  dataset : String
  /-- The day as `YYYYMMDD`. -/
  date : String
  /-- The largest sequence number that the digits can hold. -/
  max : Nat
deriving DecidableEq, Repr

/-- The text of a capacity error. -/
def CapacityError.message (e : CapacityError) : String :=
  "more than " ++ toString e.max ++ " snapshots per day on `" ++ e.dataset ++ "` for " ++ e.date

/-- A discovered dataset. -/
structure Dataset where
  name : String
  /-- The name relative to the side's root, empty for the root itself. -/
  subname : String
  /-- Properties in row order. -/
  properties : List Property
  /-- Snapshots in creation order. -/
  snapshots : List Snapshot
  side : Side

namespace Dataset

/-- The dataset `name` with its rows and snapshots, if it lies below `root`. -/
def ofRows (name : String) (rows : List Row) (snapshots : List Snapshot) (side : Side)
    (root : String) : Option Dataset :=
  (Name.relative root name).map fun subname =>
    { name, subname, snapshots, side,
      properties := rows.map fun r => Property.ofTexts r.property r.value r.source }

/-- The property of a name, if discovered. -/
def get? (d : Dataset) (n : String) : Option Property := lookupProperty d.properties n

/-- The property of a name, absent if not discovered. -/
def property (d : Dataset) (n : String) : Property := (d.get? n).getD (Property.absent n)

/-- Whether the dataset is a volume. -/
def isVolume (d : Dataset) : Bool := (d.property "type").text? == some "volume"

/-- Whether the dataset is a filesystem without a mountpoint, which holds no data of its own. -/
def isUnmountedFilesystem (d : Dataset) : Bool :=
  (d.property "type").text? == some "filesystem" && (d.property "mountpoint").value.isNone

/-- The snapshot `s` is sent incrementally from: the one before it, or under tagging the marked
one before it among the marked ones (none if `s` is unmarked). -/
def ancestorOf (d : Dataset) (s : Snapshot) (tagging : Bool) : Option Snapshot :=
  if tagging then s.ancestorIn (d.snapshots.filter Snapshot.isMarked)
  else s.ancestorIn d.snapshots

/-- Whether anything was written since the latest snapshot. True without snapshots, with
`always_changed`, or under tagging when the latest snapshot is unmarked; false when `written` is 0;
true for a volume, for `written` above the threshold, or without `check_diff`; otherwise decided
by whether `zfs diff` of the latest snapshot, run on the dataset's side, prints anything. -/
def changed (d : Dataset) (config : Config) : Exec (Except ExecutionError Bool) :=
  match d.snapshots.getLast? with
  | none => pure (.ok true)
  | some latest =>
    let written := (d.property "written").integer?
    if config.alwaysChanged then pure (.ok true)
    else if config.compatibility.tagging && !latest.isMarked then pure (.ok true)
    else if written == some 0 then pure (.ok false)
    else if d.isVolume then pure (.ok true)
    else if written.any (fun w => 0 ≤ w && w.toNat > config.writtenThreshold) then pure (.ok true)
    else if !config.checkDiff then pure (.ok true)
    else do
      let out ← run ((zfsDiff latest.fullName).forSide d.side config)
      pure (out.map fun o => !Text.isBlankText o.stdout)

/-- The sequence number in a snapshot name of `day` with `digits` digits and `suffix`. -/
def sequenceNumber (day suffix : String) (digits : Nat) (name : String) : Option Nat :=
  if day.toList.isPrefixOf name.toList then
    let rest := name.toList.drop day.length
    if suffix.toList.isSuffixOf rest then
      let number := rest.take (rest.length - suffix.length)
      if number.length == digits && number.all Char.isDigit && !number.isEmpty then
        some (number.foldl (fun acc c => acc * 10 + (c.toNat - '0'.toNat)) 0)
      else none
    else none
  else none

/-- Today's next snapshot name: the day as `YYYYMMDD`, the day's next sequence number zero-padded
to `digits`, and the suffix. The sequence starts at 1 and fails beyond `10 ^ digits - 1`. -/
def newSnapshotName (d : Dataset) (today : Calendar.Date) (config : Config) :
    Except CapacityError String :=
  let day := today.compact
  -- `10 ^ 20` already exceeds the 64-bit bound, so larger digit counts need no power
  let max := (if config.digits < 20 then min (Nat.pow 10 config.digits) (Nat.pow 2 64 - 1) else Nat.pow 2 64 - 1) - 1
  let numbers := d.snapshots.filterMap fun s =>
    (sequenceNumber day config.suffix config.digits s.name).filter (· < Nat.pow 2 64)
  let next := match numbers.max? with
    | none => some 1
    | some n => if n < max then some (n + 1) else none
  match next with
  | some n => .ok (day ++ Calendar.padded config.digits n ++ config.suffix)
  | none => .error ⟨d.name, day, max⟩

end Dataset

end ZfsReplication
