import ZfsReplication.Plan.Transactions

/-!
# Planners

Planners turn one pool, and for transfers and retention the pool of the other side, into
transactions. Each goes through its items (datasets, or matched dataset pairs) in order and plans
for each item some transactions or nothing; the first failing item stops it. `Progress` records
this step by step; collecting it gives the transaction list.

* snapshots: every source dataset that is not ignored, not an unmounted filesystem and changed;
* transfers: for every matched pair present on the source and not ignored, the source snapshots
  newer than everything on the target, each followed by its mark under tagging;
* retention on the source: the oldest snapshots also on the target, less the newest
  `keep_snapshots` of them; on the target: the snapshots older than everything on the source, less
  the newest `keep_backlog` of them, for datasets sharing a snapshot with the source.
-/

set_option autoImplicit false

namespace ZfsReplication

open Shell

/-- What a planner did item by item: the number of items, the transactions planned for each item
that succeeded (or nothing), and the failure that stopped it, if any. -/
structure Progress where
  total : Nat
  steps : List (Option (List Transaction))
  failure : Option PlanError

/-- Plans the items in order, stopping at the first failure. -/
def planItems {β : Type} (plan : β → Except PlanError (Option (List Transaction))) :
    List β → List (Option (List Transaction)) × Option PlanError
  | [] => ([], none)
  | x :: rest =>
    match plan x with
    | .error e => ([], some e)
    | .ok step =>
      let (steps, failure) := planItems plan rest
      (step :: steps, failure)

/-- The progress of planning `items`. -/
def progress {β : Type} (items : List β)
    (plan : β → Except PlanError (Option (List Transaction))) : Progress :=
  let (steps, failure) := planItems plan items
  ⟨items.length, steps, failure⟩

/-- Plans the items in order with commands run along the way, stopping at the first failure. -/
def planItemsRunning {β : Type} (plan : β → Exec (Except PlanError (Option (List Transaction)))) :
    List β → Exec (List (Option (List Transaction)) × Option PlanError)
  | [] => pure ([], none)
  | x :: rest => do
    match ← plan x with
    | .error e => pure ([], some e)
    | .ok step =>
      let (steps, failure) ← planItemsRunning plan rest
      pure (step :: steps, failure)

/-- The progress of planning `items` with commands run along the way. -/
def progressRunning {β : Type} (items : List β)
    (plan : β → Exec (Except PlanError (Option (List Transaction)))) : Exec Progress := do
  let (steps, failure) ← planItemsRunning plan items
  pure ⟨items.length, steps, failure⟩

/-- All planned transactions, or the failure. -/
def Progress.collect (p : Progress) : Except PlanError (List Transaction) :=
  match p.failure with
  | some e => .error e
  | none => .ok (p.steps.filterMap id).flatten

namespace Pool

/-- Plans today's snapshot of a source dataset, if it changed. -/
def snapshotStep (p : Pool) (today : Calendar.Date) (d : Dataset) :
    Exec (Except PlanError (Option (List Transaction))) :=
  if p.config.ignores d.subname || d.isUnmountedFilesystem then pure (.ok none)
  else do
    match ← d.changed p.config with
    | .error e => pure (.error (.execution e))
    | .ok false => pure (.ok none)
    | .ok true => pure ((d.snapshotTransaction today p.config).map fun t => some [t])

/-- Snapshots of every changed dataset of a source pool. -/
def snapshotPlan (p : Pool) (today : Calendar.Date) : Exec (Except PlanError Progress) :=
  match requireSide .source p.side with
  | .error e => pure (.error e)
  | .ok () => do pure (.ok (← progressRunning p.datasets (snapshotStep p today)))

/-- The snapshot transactions of every changed dataset of a source pool, or the first failure. -/
def snapshotTransactions (p : Pool) (today : Calendar.Date) :
    Exec (Except PlanError (List Transaction)) := do
  match ← p.snapshotPlan today with
  | .error e => pure (.error e)
  | .ok progress => pure progress.collect

/-- Plans the transfers of one matched dataset pair. -/
def backupStep (p : Pool) (item : Paired Dataset) : Except PlanError (Option (List Transaction)) :=
  if p.config.ignores item.item.subname then .ok none
  else
    match item.a? with
    | none => .ok none
    | some d => do
      let tagging := p.config.compatibility.tagging
      let inDataset (e : AlignmentError) : PlanError := .alignment d.name e
      let comparison ← (DatasetComparison.ofPair item tagging).mapError inDataset
      let head ← comparison.aDisjointHead.mapError inDataset
      if head.isEmpty then pure none
      else
        let planned ← head.mapM fun s => do
          let backup ← s.backupTransaction (d.ancestorOf s tagging)
            (comparison.aIntermediates s.name).length p.config
          if tagging then pure [backup, ← s.tagTransaction p.config] else pure [backup]
        pure (some planned.flatten)

/-- Transfers of every source snapshot missing on the target pool `other`. -/
def backupPlan (p other : Pool) : Except PlanError Progress := do
  requireSide .source p.side
  requireSide .target other.side
  let items := matchDatasets (some p) (some other)
  pure (progress items p.backupStep)

/-- The settings on the target root that the compatibility options ask for: no SMB share, no
automatic snapshots by other tools. -/
def targetPropertyTransactions (p : Pool) : List Transaction :=
  let root := p.config.root .target
  let wanted := [(p.config.compatibility.targetSambaNoshare, "sharesmb", "off"),
    (p.config.compatibility.targetAutosnapshotIgnore, "com.sun:auto-snapshot", "false")]
  wanted.filterMap fun (enabled, property, value) =>
    if enabled then
      some (Transaction.new
        ((((Details.ofKind .setProperty).set .datasetSubname (.text "")).set .property
          (.text property)).set .value (.text value))
        ((zfsSet property value root).forSide .target p.config))
    else none

/-- The transfers to the target pool `other`, followed by the target property transactions. -/
def backupTransactions (p other : Pool) : Except PlanError (List Transaction) := do
  let transfers ← (← p.backupPlan other).collect
  pure (transfers ++ p.targetPropertyTransactions)

/-- Plans the removals of one matched dataset pair. -/
def cleanupStep (p : Pool) (item : Paired Dataset) : Except PlanError (Option (List Transaction)) :=
  if p.config.ignores item.item.subname || !item.isBoth then .ok none
  else
    match item.a? with
    | none => .ok none
    | some d => do
      let inDataset (e : AlignmentError) : PlanError := .alignment d.name e
      let comparison ← (DatasetComparison.ofPair item p.config.compatibility.tagging).mapError
        inDataset
      let chosen : Option (Except AlignmentError (List Snapshot) × Nat) :=
        match p.side, p.config.keepBacklog with
        | .source, _ => some (comparison.aOverlapTail, p.config.keepSnapshots)
        | .target, .count keep =>
          if comparison.overlaps then some (comparison.aDisjointTail, keep) else none
        | .target, .all => none
      match chosen with
      | none => pure none
      | some (candidates, keep) =>
        let candidates ← candidates.mapError inDataset
        let doomed := candidates.take (candidates.length - keep)
        if doomed.isEmpty then pure none
        else pure (some (doomed.map fun s => s.cleanupTransaction p.config))

/-- Removals on this pool's side that retention allows, with `other` as the pool of the other
side. Keeping the whole backlog on the target plans nothing and compares nothing. -/
def cleanupPlan (p other : Pool) : Except PlanError Progress := do
  requireSide p.side.other other.side
  let items := if p.side == .target && p.config.keepBacklog == .all then []
    else matchDatasets (some p) (some other)
  pure (progress items p.cleanupStep)

/-- The removals that retention allows on this pool's side, or the first failure. -/
def cleanupTransactions (p other : Pool) : Except PlanError (List Transaction) := do
  (← p.cleanupPlan other).collect

end Pool

/-- Presence of one dataset or snapshot on either side. -/
structure ComparisonRow where
  /-- The relative name of a dataset, the name of a snapshot. -/
  name : String
  isSnapshot : Bool
  a : Bool
  b : Bool
deriving DecidableEq, Repr

/-- Every dataset of this pool (side `a`) and `other` (side `b`), each followed by its aligned
snapshots. -/
def Pool.comparisonRows (p : Pool) (other : Option Pool) :
    Except PlanError (List ComparisonRow) := do
  let items := matchDatasets (some p) other
  let groups ← items.mapM fun item => do
    let comparison ← (DatasetComparison.ofPair item p.config.compatibility.tagging).mapError
      (PlanError.alignment item.item.name)
    pure (⟨item.item.subname, false, item.a?.isSome, item.b?.isSome⟩ ::
      comparison.merged.map fun s => ⟨s.item.name, true, s.a?.isSome, s.b?.isSome⟩)
  pure groups.flatten

end ZfsReplication
