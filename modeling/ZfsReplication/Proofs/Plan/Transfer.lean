import Mathlib
import ZfsReplication.Proofs.Plan.Items
import ZfsReplication.Proofs.Chain.Head

/-!
# Transfers

Transfer planning sends, for each matched pair present on the source, the snapshots of the source
chain that the target does not have yet: those after the one named like the target chain's
newest, or the whole chain when the target's is empty. They go one after another, the first
incrementally from the source snapshot named like the target's newest (in full when there is
none), each later one from the one before; under tagging each is followed by its mark, and
reports the foreign snapshots folded into it (`Sends`, `Transfers`).

A sent snapshot is never named like one of the target's snapshots that the alignment sets against
the source chain; a target chain running past its part in common with the source may still hold
one (`backupPlan_sends`). A transfer run ends with the target property transactions
(`backupTransactions_sends`).
-/

set_option autoImplicit false

namespace ZfsReplication

open Chain

namespace Snapshot

theorem tagTransaction_ok_of_backup {s : Snapshot} {ancestor : Option Snapshot} {n : Nat}
    {config : Config} {backup : Transaction}
    (sent : s.backupTransaction ancestor n config = .ok backup) :
    ∃ tag, s.tagTransaction config = .ok tag := by
  -- both only require a source snapshot
  unfold backupTransaction at sent
  obtain ⟨⟨⟩, onSource, -⟩ := except_bind_eq_ok.1 sent
  simp [tagTransaction, onSource]

/-- The count of folded snapshots is reported under tagging only. -/
theorem backupTransaction_untagged {s : Snapshot} {ancestor : Option Snapshot} {config : Config}
    (untagged : config.compatibility.tagging = false) (n m : Nat) :
    s.backupTransaction ancestor n config = s.backupTransaction ancestor m config := by
  simp [backupTransaction, untagged]

/-- The snapshot before `s` in a context without repeated names. -/
theorem ancestorIn_of_parts {s : Snapshot} {context older newer : List Snapshot}
    (unique : (names context).Nodup) (parts : context = older ++ s :: newer) :
    s.ancestorIn context = older.getLast? := by
  have others : ∀ y ∈ older, sameAs y s = false := by
    intro y member
    rw [parts, names_append] at unique
    have differ : y.name ≠ s.name := fun same =>
      (List.nodup_append.1 unique).2.2 _ (List.mem_map_of_mem member) _ List.mem_cons_self same
    simp [sameAs, differ]
  have found : context.findIdx? (sameAs · s) = some older.length := by
    rw [parts, List.findIdx?_append, List.findIdx?_eq_none_iff.2 others]
    simp [sameAs, List.findIdx?_cons]
  rw [ancestorIn, found]
  cases older using List.reverseRecOn with
  | nil => rfl
  | append_singleton older y => simp [parts]

end Snapshot

theorem Dataset.ancestorOf_eq (d : Dataset) (s : Snapshot) (tagging : Bool) :
    d.ancestorOf s tagging = s.ancestorIn (d.chain tagging) := by
  cases tagging <;> rfl

/-- A transfer reports the count the comparison records for its snapshot: under tagging the run of
unmarked snapshots folded into it. -/
theorem backupTransaction_folded {d : Dataset} {s : Snapshot} {base : Option Snapshot}
    {config : Config} (unique : (names (d.chain config.compatibility.tagging)).Nodup)
    (member : s ∈ d.chain config.compatibility.tagging) :
    s.backupTransaction base
        (((DatasetComparison.prepare (some d) config.compatibility.tagging).2.lookup s.name).getD
          []).length config =
      s.backupTransaction base (foldedInto Snapshot.isMarked d.snapshots s.name).length config := by
  cases tagging : config.compatibility.tagging with
  | false => exact Snapshot.backupTransaction_untagged tagging _ _
  | true =>
    rw [tagging] at unique member
    have marked : s.name ∈ names (d.snapshots.filter Snapshot.isMarked) := by
      have named := List.mem_map_of_mem (f := Named.name) member
      simp only [Dataset.chain, ↓reduceIte] at named
      exact named
    have uniqueMarked : (names (d.snapshots.filter Snapshot.isMarked)).Nodup := by
      simpa [Dataset.chain] using unique
    simp [DatasetComparison.prepare, squash_lookup Snapshot.isMarked d.snapshots uniqueMarked marked]

/-- `block` sends `xs` one after another, the first incrementally from `base` (in full when there
is none) and each later one from the one before, each followed under tagging by its mark; `folded s`
foreign snapshots are reported for `s`. -/
inductive Sends (config : Config) (folded : Snapshot → Nat) :
    Option Snapshot → List Snapshot → List Transaction → Prop
  | nil (base : Option Snapshot) : Sends config folded base [] []
  | cons {base : Option Snapshot} {s : Snapshot} {rest : List Snapshot} {backup tag : Transaction}
      {more : List Transaction}
      (sent : s.backupTransaction base (folded s) config = .ok backup)
      (tagged : s.tagTransaction config = .ok tag)
      (later : Sends config folded (some s) rest more) :
      Sends config folded base (s :: rest)
        (backup :: (if config.compatibility.tagging then [tag] else []) ++ more)

/-- Planning each snapshot of a tail of `context` from its ancestor in `context` sends the tail
one after another, from the last snapshot before it. -/
theorem sends_of_mapM {config : Config} {folded : Snapshot → Nat} {context : List Snapshot}
    {plan : Snapshot → Except PlanError (List Transaction)} (unique : (names context).Nodup)
    (step : ∀ s ∈ context, ∀ ts, plan s = .ok ts → ∃ backup tag,
      s.backupTransaction (s.ancestorIn context) (folded s) config = .ok backup ∧
      s.tagTransaction config = .ok tag ∧
      ts = backup :: (if config.compatibility.tagging then [tag] else [])) :
    ∀ {older newer : List Snapshot} {planned : List (List Transaction)},
      context = older ++ newer → newer.mapM plan = .ok planned →
      Sends config folded older.getLast? newer planned.flatten := by
  intro older newer
  -- the tail is sent snapshot by snapshot, the snapshot just sent joining the older part
  induction newer generalizing older with
  | nil =>
    intro planned _ all
    cases all
    exact .nil _
  | cons s rest ih =>
    intro planned parts all
    rw [List.mapM_cons] at all
    obtain ⟨ts, first, all⟩ := except_bind_eq_ok.1 all
    obtain ⟨later, others, planned⟩ := except_bind_eq_ok.1 all
    cases planned
    have member : s ∈ context := by simp [parts]
    obtain ⟨backup, tag, sent, tagged, rfl⟩ := step s member ts first
    rw [Snapshot.ancestorIn_of_parts unique parts] at sent
    have next : Sends config folded (older ++ [s]).getLast? rest later.flatten :=
      ih (by simp [parts]) others
    rw [List.getLast?_concat] at next
    simpa using Sends.cons sent tagged next

/-- What transfer planning plans for one snapshot of a source dataset's head: its transfer from
its ancestor, reporting the unmarked snapshots folded into it, then under tagging its mark. -/
def Dataset.sendPlan (d : Dataset) (config : Config) (s : Snapshot) :
    Except PlanError (List Transaction) := do
  let backup ← s.backupTransaction (d.ancestorOf s config.compatibility.tagging)
    (foldedInto Snapshot.isMarked d.snapshots s.name).length config
  if config.compatibility.tagging then pure [backup, ← s.tagTransaction config] else pure [backup]

namespace Pool

/-- What transfer planning sends for one matched pair: nothing for a pair missing on the source or
ignored; otherwise, with `target` the chain of the pair's target side, the source chain's
snapshots after the one named like the newest of `target`, sent from it, or the whole source chain
sent from scratch when `target` is empty. The source chain has no repeated names, and no sent
snapshot is named like one of the newest snapshots of `target` set against the source chain up to
the base. -/
def Transfers (p : Pool) (item : Paired Dataset) (block : List Transaction) : Prop :=
  match item.a? with
  | none => block = []
  | some d =>
    if p.config.ignores d.subname then block = []
    else
      let tagging := p.config.compatibility.tagging
      let target := (item.b?.map (·.chain tagging)).getD []
      let folded := fun s : Snapshot => (foldedInto Snapshot.isMarked d.snapshots s.name).length
      (names (d.chain tagging)).Nodup ∧
      match target.getLast? with
      | none => Sends p.config folded none (d.chain tagging) block
      | some newest =>
        d.chain tagging = [] ∧ block = [] ∨
        ∃ older base newer, d.chain tagging = older ++ base :: newer ∧ base.name = newest.name ∧
          Sends p.config folded (some base) newer block ∧
          ∀ s ∈ newer, s.name ∉ names (target.drop (target.length - (older.length + 1)))

theorem backupStep_transfers {p : Pool} {item : Paired Dataset} {step : Option (List Transaction)}
    (planned : p.backupStep item = .ok step) : p.Transfers item (step.getD []) := by
  unfold backupStep at planned
  unfold Transfers
  cases found : item.a? with
  | none =>
    simp only [found] at planned
    split at planned <;> (cases planned; rfl)
  | some d =>
    rw [Chain.item_of_a? found] at planned
    simp only [found] at planned
    dsimp only
    cases ignored : p.config.ignores d.subname with
    | true =>
      simp only [ignored, ↓reduceIte] at planned ⊢
      cases planned
      rfl
    | false =>
      simp only [ignored, Bool.false_eq_true, ↓reduceIte] at planned ⊢
      obtain ⟨c, compared, planned⟩ := except_bind_eq_ok.1 planned
      obtain ⟨head, newer, planned⟩ := except_bind_eq_ok.1 planned
      rw [except_mapError_eq_ok] at compared newer
      obtain ⟨merged, aligned, rfl⟩ := DatasetComparison.ofPair_eq_ok.1 compared
      simp only [found, Option.map_some, Option.getD_some] at aligned
      obtain ⟨sideA, sideB⟩ := align_sides aligned
      obtain ⟨uniqueA, -, shape⟩ := disjointHead_eq_ok (consecutive_of_sides sideA).1
        (consecutive_of_sides sideB).1 newer
      rw [found] at planned
      -- whatever the shape, the head is sent from the snapshot before it
      have sends : ∀ older, d.chain p.config.compatibility.tagging = older ++ head →
          Sends p.config (fun s => (foldedInto Snapshot.isMarked d.snapshots s.name).length)
            older.getLast? head (step.getD []) := by
        intro older parts
        split at planned
        · next empty =>
          cases planned
          rw [List.isEmpty_iff.1 empty]
          exact .nil _
        · obtain ⟨blocks, all, done⟩ := except_bind_eq_ok.1 planned
          cases done
          refine sends_of_mapM uniqueA (fun s member ts sent => ?_) parts all
          obtain ⟨backup, backedUp, tagging⟩ := except_bind_eq_ok.1 sent
          obtain ⟨tag, tagged⟩ := Snapshot.tagTransaction_ok_of_backup backedUp
          refine ⟨backup, tag, ?_, tagged, ?_⟩
          · rw [← Dataset.ancestorOf_eq, ← backedUp]
            exact (backupTransaction_folded uniqueA member).symm
          · split at tagging
            · obtain ⟨tag', tagged', done⟩ := except_bind_eq_ok.1 tagging
              rw [tagged] at tagged'
              cases tagged'
              cases done
              simp [*]
            · cases tagging
              simp [*]
      rcases shape with ⟨emptyB, rfl⟩ | ⟨emptyA, rfl⟩ | ⟨anchor, pre, x, last, parts, named, ends⟩
      · -- nothing on the target: the whole chain from scratch
        rw [emptyB]
        exact ⟨uniqueA, sends [] (by simp)⟩
      · have block : step.getD [] = [] := by
          have sent := sends [] (by simp [emptyA])
          generalize step.getD [] = block at sent
          cases sent
          rfl
        refine ⟨uniqueA, ?_⟩
        split
        · rw [emptyA, block]
          exact .nil _
        · exact .inl ⟨emptyA, block⟩
      · refine ⟨uniqueA, ?_⟩
        rw [last]
        exact .inr ⟨pre, x, head, parts, named,
          by simpa using sends (pre ++ [x]) (by simp [parts]), name_not_mem_of_ends uniqueA parts ends⟩

theorem backupStep_congr {p q : Pool} (same : q.config = p.config) : q.backupStep = p.backupStep := by
  funext item
  unfold backupStep
  rw [same]

/-- Once the chains of a pair present on the source are aligned, its transfers are its head's
snapshots, each planned by `Dataset.sendPlan`, or nothing for an empty head. -/
theorem backupStep_of_aligned {p : Pool} {item : Paired Dataset} {d : Dataset}
    {merged : List (Paired Snapshot)} (found : item.a? = some d)
    (ignored : p.config.ignores d.subname = false)
    (aligned : align (d.chain p.config.compatibility.tagging)
      ((item.b?.map (·.chain p.config.compatibility.tagging)).getD []) = .ok merged) :
    p.backupStep item =
      (disjointHead ((d.chain p.config.compatibility.tagging).map some)
        (((item.b?.map (·.chain p.config.compatibility.tagging)).getD []).map some)).mapError
          (PlanError.alignment d.name) >>= fun head =>
        if head.isEmpty then pure none
        else head.mapM (d.sendPlan p.config) >>= fun planned => pure (some planned.flatten) := by
  obtain ⟨uniqueA, -⟩ := align_nodup aligned
  have compared := DatasetComparison.ofPair_eq_ok.2 ⟨merged, by rw [found]; exact aligned, rfl⟩
  unfold backupStep
  rw [Chain.item_of_a? found]
  simp only [ignored, found, Bool.false_eq_true, ↓reduceIte, compared, except_mapError_ok,
    except_ok_bind]
  unfold DatasetComparison.aDisjointHead DatasetComparison.projectionA
    DatasetComparison.projectionB
  rw [disjointHead_sides aligned]
  cases headOf : disjointHead ((d.chain p.config.compatibility.tagging).map some)
      (((item.b?.map (·.chain p.config.compatibility.tagging)).getD []).map some) with
  | error e => rfl
  | ok head =>
    simp only [except_mapError_ok, except_ok_bind]
    split
    · rfl
    · -- every snapshot of the head is planned alike, its folded snapshots read off the chain
      have inChain := (disjointHead_suffix headOf).subset
      rw [mapM_congr fun s member => ?_]
      unfold Dataset.sendPlan DatasetComparison.aIntermediates
      rw [backupTransaction_folded uniqueA (inChain member)]

theorem backupPlan_eq_ok {p other : Pool} {prog : Progress} :
    p.backupPlan other = .ok prog ↔ p.side = .source ∧ other.side = .target ∧
      progress (matchDatasets (some p) (some other)) p.backupStep = prog := by
  unfold backupPlan requireSide
  cases p.side <;> cases other.side <;> simp

/-- Transfer planning, when it succeeds, goes through the matched pairs in strictly increasing
order of relative name and sends for each what `Transfers` describes, one block after another. -/
theorem backupPlan_sends (S T : Pool) (prog : Progress) (txs : List Transaction)
    (planned : S.backupPlan T = .ok prog) (collected : prog.collect = .ok txs) :
    ((matchDatasets (some S) (some T)).map (·.item.subname)).Pairwise (· < ·) ∧
      ∃ blocks, List.Forall₂ S.Transfers (matchDatasets (some S) (some T)) blocks ∧
        txs = blocks.flatten := by
  obtain ⟨-, -, rfl⟩ := backupPlan_eq_ok.1 planned
  exact ⟨matchDatasets_sorted _ _,
    collect_forall₂ _ (fun _ _ _ stepped => backupStep_transfers stepped) collected⟩

/-- A transfer run, when it succeeds, goes through the matched pairs in strictly increasing order of
relative name, sends for each what `Transfers` describes, one block after another, and ends with
the target property transactions. -/
theorem backupTransactions_sends (S T : Pool) (txs : List Transaction)
    (planned : S.backupTransactions T = .ok txs) :
    ((matchDatasets (some S) (some T)).map (·.item.subname)).Pairwise (· < ·) ∧
      ∃ blocks, List.Forall₂ S.Transfers (matchDatasets (some S) (some T)) blocks ∧
        txs = blocks.flatten ++ S.targetPropertyTransactions := by
  obtain ⟨prog, transfers, stepped, collected, rfl⟩ := backupTransactions_eq_ok.1 planned
  obtain ⟨sorted, blocks, each, rfl⟩ := backupPlan_sends S T prog transfers stepped collected
  exact ⟨sorted, blocks, each, rfl⟩

theorem backupTransactions_sends_missing :
    ∃ txs, sourceAhead.backupTransactions targetBehind = .ok txs ∧
      txs.filterMap Transaction.received? = [("", "d")] ∧
      ((matchDatasets (some sourceAhead) (some targetBehind)).map (·.item.subname)).Pairwise
          (· < ·) ∧
        ∃ blocks, List.Forall₂ sourceAhead.Transfers
          (matchDatasets (some sourceAhead) (some targetBehind)) blocks ∧
          txs = blocks.flatten ++ sourceAhead.targetPropertyTransactions := by
  have sent : (sourceAhead.backupTransactions targetBehind).toOption.map
      (·.filterMap Transaction.received?) = some [("", "d")] := by
    simp only [sourceAhead, targetBehind, Fixture.pool, ofRows_eq_insertionSort, ofEntities,
      ownSnapshots_eq_insertionSort, backupTransactions, backupPlan, matchDatasets,
      mergeSort_string_eq_insertionSort]
    decide
  obtain ⟨txs, planned, received⟩ := ok_of_toOption sent
  exact ⟨txs, planned, received, backupTransactions_sends _ _ _ planned⟩

/-- The source `tank` listed with the snapshots `y`, `x` and `w`, created in this order. -/
def crossedSource : Pool := Fixture.pool .source Fixture.config [("", ["y", "x", "w"])]

/-- The target `backup` listed with the snapshots `q`, `x` and `y`, created in this order. -/
def crossedTarget : Pool := Fixture.pool .target Fixture.config [("", ["q", "x", "y"])]

/-- From source `[y, x, w]` and target `[q, x, y]` the alignment sets the target's newest `y`
against the source's oldest, so the run sends `x` and then `w`, though the target holds `x`. -/
theorem backupTransactions_resends_crossed :
    ∃ txs, crossedSource.backupTransactions crossedTarget = .ok txs ∧
      txs.filterMap Transaction.received? = [("", "x"), ("", "w")] ∧
      ∃ u, crossedTarget.datasetAt "" = some u ∧ "x" ∈ names (u.chain false) := by
  have sent : (crossedSource.backupTransactions crossedTarget).toOption.map
      (·.filterMap Transaction.received?) = some [("", "x"), ("", "w")] := by
    simp only [crossedSource, crossedTarget, Fixture.pool, ofRows_eq_insertionSort, ofEntities,
      ownSnapshots_eq_insertionSort, backupTransactions, backupPlan, matchDatasets,
      mergeSort_string_eq_insertionSort]
    decide
  have held : ∃ u, crossedTarget.datasetAt "" = some u ∧ "x" ∈ names (u.chain false) := by
    simp only [crossedTarget, Fixture.pool, ofRows_eq_insertionSort, ofEntities,
      ownSnapshots_eq_insertionSort, datasetAt]
    decide
  obtain ⟨txs, planned, received⟩ := ok_of_toOption sent
  exact ⟨txs, planned, received, held⟩

end Pool

end ZfsReplication
