import ZfsReplication.Pool.Basic

/-!
# Comparing two pools

The datasets of two pools are matched by their names relative to each pool's root, in sorted order.
The snapshots of a matched pair are aligned by name; under tagging, snapshots without the marker are
first folded into the next marked one and take no part in the alignment.
-/

set_option autoImplicit false

namespace ZfsReplication

instance : Named Dataset := ⟨Dataset.name⟩

/-- The datasets of two pools (either may be missing) matched by relative name, in sorted order of
relative names. Of two datasets of one pool with the same relative name (`tank` and `tank/`) the
later in the pool's order is taken. -/
def matchDatasets (a b : Option Pool) : List (Paired Dataset) :=
  let da := (a.map (·.datasets)).getD []
  let db := (b.map (·.datasets)).getD []
  let subnames := ((da ++ db).map (·.subname)).eraseDups.mergeSort fun x y => decide (x ≤ y)
  let lastNamed (ds : List Dataset) (n : String) := (ds.filter (·.subname == n)).getLast?
  subnames.filterMap fun n => Paired.ofPair? (lastNamed da n) (lastNamed db n)

/-- The snapshots of a dataset pair, aligned. -/
structure DatasetComparison where
  a : Option Dataset
  b : Option Dataset
  merged : List (Paired Snapshot)
  /-- Per kept snapshot name on side `a`, the unmarked snapshots folded into it. -/
  intermediatesA : List (String × List Snapshot)
  intermediatesB : List (String × List Snapshot)

namespace DatasetComparison

/-- The snapshots of a dataset that take part in alignment, with those folded away. -/
def prepare (d : Option Dataset) (tagging : Bool) : List Snapshot × List (String × List Snapshot) :=
  let snapshots := (d.map (·.snapshots)).getD []
  if tagging then
    let s := Chain.squash Snapshot.isMarked snapshots
    (s.kept, s.intermediates)
  else (snapshots, [])

/-- Aligns the snapshots of a matched pair. -/
def ofPair (item : Paired Dataset) (tagging : Bool) : Except AlignmentError DatasetComparison := do
  let (sa, ia) := prepare item.a? tagging
  let (sb, ib) := prepare item.b? tagging
  let merged ← Chain.align sa sb
  pure ⟨item.a?, item.b?, merged, ia, ib⟩

/-- Whether some snapshot is on both sides. -/
def overlaps (c : DatasetComparison) : Bool := c.merged.any Paired.isBoth

/-- Side `a` of every position. -/
def projectionA (c : DatasetComparison) : List (Option Snapshot) := c.merged.map Paired.a?

/-- Side `b` of every position. -/
def projectionB (c : DatasetComparison) : List (Option Snapshot) := c.merged.map Paired.b?

/-- Snapshots only on side `a`, newer than everything on side `b`. -/
def aDisjointHead (c : DatasetComparison) : Except AlignmentError (List Snapshot) :=
  Chain.disjointHead c.projectionA c.projectionB

/-- Snapshots only on side `b`, newer than everything on side `a`. -/
def bDisjointHead (c : DatasetComparison) : Except AlignmentError (List Snapshot) :=
  Chain.disjointHead c.projectionB c.projectionA

/-- Snapshots only on side `a`, older than everything on side `b`. -/
def aDisjointTail (c : DatasetComparison) : Except AlignmentError (List Snapshot) :=
  Chain.disjointTail c.projectionA c.projectionB

/-- Snapshots only on side `b`, older than everything on side `a`. -/
def bDisjointTail (c : DatasetComparison) : Except AlignmentError (List Snapshot) :=
  Chain.disjointTail c.projectionB c.projectionA

/-- The oldest snapshots of side `a` that side `b` also has. -/
def aOverlapTail (c : DatasetComparison) : Except AlignmentError (List Snapshot) :=
  Chain.overlapTail c.projectionA c.projectionB

/-- The oldest snapshots of side `b` that side `a` also has. -/
def bOverlapTail (c : DatasetComparison) : Except AlignmentError (List Snapshot) :=
  Chain.overlapTail c.projectionB c.projectionA

/-- The unmarked snapshots folded into `name` on side `a`. -/
def aIntermediates (c : DatasetComparison) (name : String) : List Snapshot :=
  (c.intermediatesA.lookup name).getD []

/-- The unmarked snapshots folded into `name` on side `b`. -/
def bIntermediates (c : DatasetComparison) (name : String) : List Snapshot :=
  (c.intermediatesB.lookup name).getD []

end DatasetComparison

end ZfsReplication
