import ZfsReplication.Pool.Dataset
import ZfsReplication.Decimal.Read

/-!
# Pools

One side's tree of datasets below its configured root, each with its snapshots. A pool is built from
discovery rows: rows are grouped by entity, datasets come in name order, and the snapshots of each
dataset in creation order, by creation transaction group, then creation time, then order of
discovery. Entities outside the root are left out, as is the root itself when the configuration
excludes it, and snapshots whose dataset was not discovered.
-/

set_option autoImplicit false

namespace ZfsReplication

open Shell

/-- One side's tree. -/
structure Pool where
  datasets : List Dataset
  side : Side
  root : String
  config : Config

/-- Where a snapshot stands in its dataset's creation order: creation transaction group, then
creation time (an absent value before any), then order of discovery. -/
structure SnapshotOrder where
  createtxg : Option Int
  creation : Option Int
  position : Nat

/-- `a ≤ b` for optional integers, an absent value first. -/
def optionLe : Option Int → Option Int → Bool
  | none, _ => true
  | some _, none => false
  | some a, some b => a ≤ b

/-- The lexicographic order of creation keys. -/
def SnapshotOrder.le (a b : SnapshotOrder) : Bool :=
  if a.createtxg != b.createtxg then optionLe a.createtxg b.createtxg
  else if a.creation != b.creation then optionLe a.creation b.creation
  else a.position ≤ b.position

/-- Rows grouped by entity, each entity with the position of its first row among entities. -/
def groupRows (rows : List Row) : List (String × Nat × List Row) :=
  rows.foldl (fun groups r =>
    if groups.any (·.1 == r.entity) then
      groups.map fun g => if g.1 == r.entity then (g.1, g.2.1, g.2.2 ++ [r]) else g
    else groups ++ [(r.entity, groups.length, [r])]) []

namespace Pool

/-- A pool without datasets. -/
def empty (side : Side) (config : Config) : Pool := ⟨[], side, config.root side, config⟩

/-- The snapshots among discovered entities, each with its place in creation order. -/
def snapshotEntries (entities : List (String × Nat × List Row)) (side : Side) (root : String) :
    List (Snapshot × SnapshotOrder) :=
  entities.filterMap fun (name, position, rs) =>
    if name.toList.contains '@' then
      (Snapshot.ofRows name rs side root).map fun s =>
        (s, SnapshotOrder.mk (s.property "createtxg").integer? (s.property "creation").integer?
          position)
    else none

/-- The snapshots of the dataset `name` among `entries`, in creation order. -/
def ownSnapshots (entries : List (Snapshot × SnapshotOrder)) (name : String) : List Snapshot :=
  ((entries.filter (·.1.parent == name)).mergeSort (fun a b => a.2.le b.2)).map (·.1)

/-- The pool of `side` built from discovered entities in name order, each with its position of
discovery and its rows. -/
def ofEntities (entities : List (String × Nat × List Row)) (side : Side) (config : Config) : Pool :=
  let root := config.root side
  let entries := snapshotEntries entities side root
  let datasets := entities.filterMap fun (name, _, rs) =>
    if name.toList.contains '@' || (!config.includeRoot && name == root) then none
    else Dataset.ofRows name rs (ownSnapshots entries name) side root
  ⟨datasets, side, root, config⟩

/-- The pool of `side` built from discovery rows. -/
def ofRows (rows : List Row) (side : Side) (config : Config) : Pool :=
  ofEntities ((groupRows rows).mergeSort fun a b => decide (a.1 ≤ b.1)) side config

/-- The discovery command of a side. -/
def discoveryCommand (side : Side) (config : Config) : Command :=
  (zfsGetAll (config.root side)).forSide side config

/-- Discovers the pool of `side`. A root that does not exist yet is an empty pool. An output that
is not the JSON of `zfs get` fails with the reason `jsonError` gives for it: the JSON parser's
description of what it could not read, whose wording this library leaves to the parser. -/
def load (jsonError : String → String) (side : Side) (config : Config) :
    Exec (Except ExecutionError Pool) := do
  let command := discoveryCommand side config
  match ← execute command with
  | .spawnFailure reason => pure (.error (.spawn command.render reason))
  | .finished out =>
    if !out.succeeded then
      let stderr := out.stderrText
      if Text.containsText stderr "dataset does not exist" then pure (.ok (empty side config))
      else pure (.error (.failed command.render out.status stderr))
    else
      match Row.ofDiscovery out.stdout with
      | some rows => pure (.ok (ofRows rows side config))
      | none => pure (.error (.parse command.render (jsonError out.stdout)))

/-- The free bytes below the root of `side`, read from trimmed output as an unsigned 64-bit
integer. -/
def available (side : Side) (config : Config) : Exec (Except ExecutionError Nat) := do
  let command := (zfsGetAvailable (config.root side)).forSide side config
  match ← run command with
  | .error e => pure (.error e)
  | .ok out =>
    match Decimal.readUnsigned Decimal.maxUnsigned64 (Text.trimBy Text.isBlank out.stdout.toList) with
    | .ok n => pure (.ok n)
    | .error e => pure (.error (.parse command.render e.message))

end Pool

end ZfsReplication
