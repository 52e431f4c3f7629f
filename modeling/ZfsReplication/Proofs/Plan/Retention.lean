import Mathlib
import ZfsReplication.Proofs.Plan.Items

/-!
# Retention

Retention removes old snapshots of the matched dataset pairs on one side of a replication.

On the source it removes, of the oldest snapshots whose names the target chain already holds, all
but the newest `keep_snapshots` (`Pool.sourceExpired`). These stand in the target chain as one
block, so when at least one is kept none of the removed ones is named like the target's newest
snapshot, the base of the next incremental transfer (`cleanupPlan_source_removes`).

On the target, keeping the whole backlog plans nothing and compares nothing. Keeping `k`, it
removes, of the snapshots older than the source chain's oldest, all but the newest `k`, for pairs
that share a snapshot (`Pool.backlogExpired`); none of them is named like a snapshot of the source
chain that the alignment sets against the target chain (`cleanupPlan_target_removes`).
-/

set_option autoImplicit false

namespace ZfsReplication

open Chain

namespace Pool

/-- The source snapshots that retention removes from a matched pair that is not ignored: of the
oldest snapshots of the source chain whose names the target chain holds, all but the newest
`keep_snapshots`. -/
def sourceExpired (p : Pool) : Paired Dataset → List Snapshot
  | .both d u =>
    if p.config.ignores d.subname then []
    else
      let shared := oldestShared (d.chain p.config.compatibility.tagging)
        (u.chain p.config.compatibility.tagging)
      shared.take (shared.length - p.config.keepSnapshots)
  | _ => []

/-- A step plans the removal of `doomed`, or nothing when there is nothing to remove. -/
theorem getD_of_removals {p : Pool} {doomed : List Snapshot} {step : Option (List Transaction)}
    (planned : (if doomed.isEmpty = true then pure none
      else pure (some (doomed.map fun s => s.cleanupTransaction p.config)) :
        Except PlanError (Option (List Transaction))) = .ok step) :
    step.getD [] = doomed.map fun s => s.cleanupTransaction p.config := by
  split at planned
  · next empty =>
    cases planned
    simp [List.isEmpty_iff.1 empty]
  · cases planned
    rfl

/-- Unless the target keeps its whole backlog, retention goes through the matched pairs. -/
theorem cleanupPlan_eq_progress {p other : Pool} {prog : Progress}
    (compares : ¬ (p.side = .target ∧ p.config.keepBacklog = .all))
    (planned : p.cleanupPlan other = .ok prog) :
    prog = progress (matchDatasets (some p) (some other)) p.cleanupStep := by
  unfold cleanupPlan at planned
  obtain ⟨⟨⟩, -, planned⟩ := except_bind_eq_ok.1 planned
  have skipped : (p.side == .target && p.config.keepBacklog == .all) = false := by
    simpa using compares
  rw [skipped] at planned
  cases planned
  rfl

/-- One source step removes `sourceExpired`; on a pair that is compared, the chains have no
repeated names and the shared oldest snapshots stand in the target chain as one block. -/
theorem cleanupStep_source_eq_ok {p : Pool} {item : Paired Dataset} {step : Option (List Transaction)}
    (onSource : p.side = .source) (planned : p.cleanupStep item = .ok step) :
    step.getD [] = (p.sourceExpired item).map (·.cleanupTransaction p.config) ∧
      ∀ d u, item = .both d u → p.config.ignores d.subname = false →
        (names (d.chain p.config.compatibility.tagging)).Nodup ∧
        (names (u.chain p.config.compatibility.tagging)).Nodup ∧
        names (oldestShared (d.chain p.config.compatibility.tagging)
          (u.chain p.config.compatibility.tagging)) <:+:
          names (u.chain p.config.compatibility.tagging) := by
  cases item with
  | onlyA d =>
    simp only [cleanupStep, Paired.isBoth_onlyA, Bool.not_false, Bool.or_true, ↓reduceIte] at planned
    cases planned
    simp [sourceExpired]
  | onlyB u =>
    simp only [cleanupStep, Paired.isBoth_onlyB, Bool.not_false, Bool.or_true, ↓reduceIte] at planned
    cases planned
    simp [sourceExpired]
  | both d u =>
    cases ignored : p.config.ignores d.subname with
    | true =>
      simp only [cleanupStep, Paired.item_both, ignored, Bool.true_or, ↓reduceIte] at planned
      cases planned
      simp [sourceExpired, ignored]
    | false =>
      simp only [cleanupStep, ignored, onSource, Paired.isBoth_both, Paired.a?_both,
        Paired.item_both, Bool.false_or, Bool.not_true, Bool.false_eq_true, ↓reduceIte] at planned
      obtain ⟨c, compared, planned⟩ := except_bind_eq_ok.1 planned
      obtain ⟨candidates, found, planned⟩ := except_bind_eq_ok.1 planned
      rw [except_mapError_eq_ok] at compared found
      obtain ⟨merged, aligned, rfl⟩ := DatasetComparison.ofPair_eq_ok.1 compared
      simp only [Paired.a?_both, Paired.b?_both, Option.map_some, Option.getD_some] at aligned
      obtain ⟨sideA, sideB⟩ := align_sides aligned
      obtain ⟨rfl, block⟩ := overlapTail_eq_ok (consecutive_of_sides sideA).1
        (consecutive_of_sides sideB).1 found
      obtain ⟨uniqueD, uniqueU⟩ := align_nodup aligned
      refine ⟨by simpa [sourceExpired, ignored] using getD_of_removals planned, ?_⟩
      rintro d' u' same -
      cases same
      exact ⟨uniqueD, uniqueU, block⟩

theorem cleanupStep_both_aligned {p : Pool} {d u : Dataset} {step : Option (List Transaction)}
    (planned : p.cleanupStep (.both d u) = .ok step) (ignored : p.config.ignores d.subname = false) :
    ∃ merged, align (d.chain p.config.compatibility.tagging)
      (u.chain p.config.compatibility.tagging) = .ok merged := by
  simp only [cleanupStep, ignored, Paired.isBoth_both, Paired.a?_both, Paired.item_both,
    Bool.false_or, Bool.not_true, Bool.false_eq_true, ↓reduceIte] at planned
  obtain ⟨c, compared, -⟩ := except_bind_eq_ok.1 planned
  rw [except_mapError_eq_ok] at compared
  obtain ⟨merged, aligned, -⟩ := DatasetComparison.ofPair_eq_ok.1 compared
  exact ⟨merged, by simpa using aligned⟩

/-- Of a pair that is not ignored, retention removes the oldest snapshots of the source chain, as
many as it shares with the target chain less `keep_snapshots`. -/
theorem sourceExpired_both {p : Pool} {d u : Dataset} (ignored : p.config.ignores d.subname = false) :
    p.sourceExpired (.both d u) = (d.chain p.config.compatibility.tagging).take
      ((oldestShared (d.chain p.config.compatibility.tagging)
        (u.chain p.config.compatibility.tagging)).length - p.config.keepSnapshots) := by
  simp only [sourceExpired, ignored, Bool.false_eq_true, ↓reduceIte]
  generalize d.chain p.config.compatibility.tagging = C
  have starts : oldestShared C (u.chain p.config.compatibility.tagging) =
      C.take (oldestShared C (u.chain p.config.compatibility.tagging)).length :=
    List.prefix_iff_eq_take.1 (List.takeWhile_prefix _)
  generalize oldestShared C (u.chain p.config.compatibility.tagging) = O at starts ⊢
  calc O.take (O.length - p.config.keepSnapshots)
      = (C.take O.length).take (O.length - p.config.keepSnapshots) := by rw [← starts]
    _ = C.take (O.length - p.config.keepSnapshots) := by
      rw [List.take_take]
      congr 1
      omega

theorem mem_sourceExpired (p : Pool) {item : Paired Dataset} {e : Snapshot}
    (expired : e ∈ p.sourceExpired item) : ∃ d, item.a? = some d ∧ e ∈ d.snapshots := by
  cases item with
  | onlyA d => simp [sourceExpired] at expired
  | onlyB u => simp [sourceExpired] at expired
  | both d u =>
    cases ignored : p.config.ignores d.subname with
    | true => simp [sourceExpired, ignored] at expired
    | false =>
      rw [sourceExpired_both ignored] at expired
      exact ⟨d, rfl, Dataset.chain_subset _ _ (List.mem_of_mem_take expired)⟩

/-! ## Retention on the source -/

/-- Retention on the source removes, for each matched pair in order, the oldest shared snapshots
less the newest `keep_snapshots`. Each removed snapshot has a namesake in the target chain, is not
one of the kept newest shared ones, is not named like the target's newest snapshot, and under
tagging is marked. -/
theorem cleanupPlan_source_removes (S T : Pool) (prog : Progress) (txs : List Transaction)
    (onSource : S.side = .source) (keeping : 1 ≤ S.config.keepSnapshots)
    (planned : S.cleanupPlan T = .ok prog) (collected : prog.collect = .ok txs) :
    ((matchDatasets (some S) (some T)).map (·.item.subname)).Pairwise (· < ·) ∧
      txs = (matchDatasets (some S) (some T)).flatMap
        (fun item => (S.sourceExpired item).map (·.cleanupTransaction S.config)) ∧
      ∀ d u, Paired.both d u ∈ matchDatasets (some S) (some T) →
        ∀ s ∈ S.sourceExpired (.both d u),
          s.name ∈ names (u.chain S.config.compatibility.tagging) ∧
          s ∉ (oldestShared (d.chain S.config.compatibility.tagging)
            (u.chain S.config.compatibility.tagging)).drop
            ((oldestShared (d.chain S.config.compatibility.tagging)
              (u.chain S.config.compatibility.tagging)).length - S.config.keepSnapshots) ∧
          (∀ newest ∈ (u.chain S.config.compatibility.tagging).getLast?, s.name ≠ newest.name) ∧
          (S.config.compatibility.tagging = true → s.isMarked = true) := by
  rw [cleanupPlan_eq_progress (by simp [onSource]) planned] at collected
  obtain ⟨steps, all, rfl⟩ := collect_eq_ok _ collected
  refine ⟨matchDatasets_sorted _ _, flatten_of_mapM _ _ all fun item _ step stepped =>
    (cleanupStep_source_eq_ok onSource stepped).1, ?_⟩
  intro d u member s expired
  obtain ⟨step, stepped⟩ := mapM_ok_of_mem _ all member
  cases ignored : S.config.ignores d.subname with
  | true => simp [sourceExpired, ignored] at expired
  | false =>
    obtain ⟨uniqueD, uniqueU, block⟩ := (cleanupStep_source_eq_ok onSource stepped).2 d u rfl ignored
    simp only [sourceExpired, ignored, Bool.false_eq_true, ↓reduceIte] at expired
    -- `s` is among the shared snapshots, which have no repeated names
    have shared := List.mem_of_mem_take expired
    have uniqueShared : (names (oldestShared (d.chain S.config.compatibility.tagging)
        (u.chain S.config.compatibility.tagging))).Nodup :=
      uniqueD.sublist ((List.takeWhile_sublist _).map _)
    have short := List.length_pos_of_mem shared
    refine ⟨mem_names_of_mem_oldestShared shared, not_mem_drop_of_mem_take uniqueShared expired,
      name_ne_newest_of_block uniqueU block (by omega) expired, fun tagging => ?_⟩
    have inChain := List.takeWhile_subset _ shared
    simp only [Dataset.chain, tagging, ↓reduceIte, List.mem_filter] at inChain
    exact inChain.2

theorem cleanupPlan_source_removes_behind :
    ∃ prog txs, sourceAhead.side = .source ∧ 1 ≤ sourceAhead.config.keepSnapshots ∧
      sourceAhead.cleanupPlan targetBehind = .ok prog ∧ prog.collect = .ok txs ∧
      txs.filterMap Transaction.removed? = [("", "a"), ("", "b")] ∧
      ((matchDatasets (some sourceAhead) (some targetBehind)).map (·.item.subname)).Pairwise
          (· < ·) ∧
        txs = (matchDatasets (some sourceAhead) (some targetBehind)).flatMap
          (fun item => (sourceAhead.sourceExpired item).map (·.cleanupTransaction sourceAhead.config)) ∧
        ∀ d u, Paired.both d u ∈ matchDatasets (some sourceAhead) (some targetBehind) →
          ∀ s ∈ sourceAhead.sourceExpired (.both d u),
            s.name ∈ names (u.chain sourceAhead.config.compatibility.tagging) ∧
            s ∉ (oldestShared (d.chain sourceAhead.config.compatibility.tagging)
              (u.chain sourceAhead.config.compatibility.tagging)).drop
              ((oldestShared (d.chain sourceAhead.config.compatibility.tagging)
                (u.chain sourceAhead.config.compatibility.tagging)).length -
                  sourceAhead.config.keepSnapshots) ∧
            (∀ newest ∈ (u.chain sourceAhead.config.compatibility.tagging).getLast?,
              s.name ≠ newest.name) ∧
            (sourceAhead.config.compatibility.tagging = true → s.isMarked = true) := by
  have removed : ((sourceAhead.cleanupPlan targetBehind).toOption.bind
      (·.collect.toOption)).map (·.filterMap Transaction.removed?) =
        some [("", "a"), ("", "b")] := by
    simp only [sourceAhead, targetBehind, Fixture.pool, ofRows_eq_insertionSort, ofEntities,
      ownSnapshots_eq_insertionSort, cleanupPlan, matchDatasets, mergeSort_string_eq_insertionSort]
    decide
  obtain ⟨prog, txs, planned, collected, removed⟩ := collected_of_toOption removed
  exact ⟨prog, txs, rfl, by decide, planned, collected, removed,
    cleanupPlan_source_removes sourceAhead targetBehind prog txs rfl (by decide) planned collected⟩

/-- The source `tank` with the marked snapshots `a` to `c`, listed beside a dataset `tank/`, which
has the same relative name and no snapshot. -/
def shadowedSource : Pool :=
  ofRows (Fixture.datasetRows "tank" [""] ++ Fixture.snapshotRows "tank" ["a", "b", "c"] ++
    [⟨"tank/", "type", "filesystem", "-"⟩]) .source Fixture.config

/-- Of two source datasets with one relative name (`tank` and `tank/`) only the later is matched,
so the snapshots of `tank` are never removed though `backup` holds them all. -/
theorem cleanupPlan_source_skips_shadowed :
    shadowedSource.cleanupTransactions targetBehind = .ok [] ∧
      shadowedSource.config.keepSnapshots = 1 ∧
      ∃ d ∈ shadowedSource.datasets, d.name = "tank" ∧ d.subname = "" ∧
        ∃ u, targetBehind.datasetAt "" = some u ∧
          names (oldestShared (d.chain false) (u.chain false)) = ["a", "b", "c"] := by
  have nothing : (shadowedSource.cleanupTransactions targetBehind).toOption.map List.isEmpty =
      some true := by
    simp only [shadowedSource, targetBehind, Fixture.pool, ofRows_eq_insertionSort, ofEntities,
      ownSnapshots_eq_insertionSort, cleanupTransactions, cleanupPlan, matchDatasets,
      mergeSort_string_eq_insertionSort]
    decide
  have shared : ∃ d ∈ shadowedSource.datasets, d.name = "tank" ∧ d.subname = "" ∧
      ∃ u, targetBehind.datasetAt "" = some u ∧
        names (oldestShared (d.chain false) (u.chain false)) = ["a", "b", "c"] := by
    simp only [shadowedSource, targetBehind, Fixture.pool, ofRows_eq_insertionSort, ofEntities,
      ownSnapshots_eq_insertionSort, datasetAt]
    decide
  obtain ⟨txs, planned, empty⟩ := ok_of_toOption nothing
  rw [List.isEmpty_iff.1 empty] at planned
  exact ⟨planned, rfl, shared⟩

/-! ## Retention on the target -/

/-- The snapshots of the target chain of `u` before the one named like the oldest snapshot of the
source chain of `d`. -/
def backlog (u d : Dataset) (tagging : Bool) : List Snapshot :=
  match (d.chain tagging).head? with
  | some oldest => before (u.chain tagging) oldest.name
  | none => []

/-- The target snapshots that retention keeping `keep` removes from a matched pair that is not
ignored and shares a snapshot: of the backlog, all but the newest `keep`. -/
def backlogExpired (p : Pool) (keep : Nat) : Paired Dataset → List Snapshot
  | .both u d =>
    if p.config.ignores u.subname = false ∧ ∃ x ∈ u.chain p.config.compatibility.tagging,
        x.name ∈ names (d.chain p.config.compatibility.tagging) then
      (backlog u d p.config.compatibility.tagging).take
        ((backlog u d p.config.compatibility.tagging).length - keep)
    else []
  | _ => []

/-- One target step keeping `keep` removes `backlogExpired`; on a pair that is compared, the
target chain is the backlog followed by a part that starts like the source chain, or that the
source chain starts like. -/
theorem cleanupStep_target_eq_ok {p : Pool} {keep : Nat} {item : Paired Dataset}
    {step : Option (List Transaction)} (onTarget : p.side = .target)
    (kept : p.config.keepBacklog = .count keep) (planned : p.cleanupStep item = .ok step) :
    step.getD [] = (p.backlogExpired keep item).map (·.cleanupTransaction p.config) ∧
      ∀ u d, item = .both u d → p.config.ignores u.subname = false →
        (∃ x ∈ u.chain p.config.compatibility.tagging,
          x.name ∈ names (d.chain p.config.compatibility.tagging)) →
        (names (u.chain p.config.compatibility.tagging)).Nodup ∧
        ∃ x post, u.chain p.config.compatibility.tagging =
          backlog u d p.config.compatibility.tagging ++ x :: post ∧
          (names (x :: post) <+: names (d.chain p.config.compatibility.tagging) ∨
            names (d.chain p.config.compatibility.tagging) <+: names (x :: post)) := by
  cases item with
  | onlyA u =>
    simp only [cleanupStep, Paired.isBoth_onlyA, Bool.not_false, Bool.or_true, ↓reduceIte] at planned
    cases planned
    simp [backlogExpired]
  | onlyB d =>
    simp only [cleanupStep, Paired.isBoth_onlyB, Bool.not_false, Bool.or_true, ↓reduceIte] at planned
    cases planned
    simp [backlogExpired]
  | both u d =>
    cases ignored : p.config.ignores u.subname with
    | true =>
      simp only [cleanupStep, Paired.item_both, ignored, Bool.true_or, ↓reduceIte] at planned
      cases planned
      simp [backlogExpired, ignored]
    | false =>
      simp only [cleanupStep, ignored, onTarget, kept, Paired.isBoth_both, Paired.a?_both,
        Paired.item_both, Bool.false_or, Bool.not_true, Bool.false_eq_true, ↓reduceIte] at planned
      obtain ⟨c, compared, planned⟩ := except_bind_eq_ok.1 planned
      rw [except_mapError_eq_ok] at compared
      obtain ⟨merged, aligned, rfl⟩ := DatasetComparison.ofPair_eq_ok.1 compared
      simp only [Paired.a?_both, Paired.b?_both, Option.map_some, Option.getD_some] at aligned
      have sharing := align_any_isBoth_iff aligned
      cases overlapping : merged.any Paired.isBoth with
      | false =>
        -- no snapshot is shared, so the pair is skipped
        simp only [DatasetComparison.overlaps, overlapping, Bool.false_eq_true, ↓reduceIte] at planned
        cases planned
        have apart : ¬ ∃ x ∈ u.chain p.config.compatibility.tagging,
            x.name ∈ names (d.chain p.config.compatibility.tagging) := fun shared =>
          absurd (sharing.2 shared) (by simp [overlapping])
        refine ⟨by simp [backlogExpired, apart], ?_⟩
        rintro u' d' same - shared
        cases same
        exact absurd shared apart
      | true =>
        simp only [DatasetComparison.overlaps, overlapping, ↓reduceIte] at planned
        obtain ⟨candidates, found, planned⟩ := except_bind_eq_ok.1 planned
        rw [except_mapError_eq_ok] at found
        obtain ⟨sideU, sideD⟩ := align_sides aligned
        obtain ⟨uniqueU, -, tail⟩ := disjointTail_eq_ok (consecutive_of_sides sideU).2
          (consecutive_of_sides sideD).2 found
        obtain ⟨y, fromU, shared⟩ := sharing.1 overlapping
        have nonemptyD : d.chain p.config.compatibility.tagging ≠ [] := fun empty => by
          simp [empty] at shared
        rcases tail with ⟨emptyD, -⟩ | ⟨emptyU, -⟩ | ⟨anchor, x, post, oldest, parts, named, starts⟩
        · exact absurd emptyD nonemptyD
        · exact absurd emptyU (List.ne_nil_of_mem fromU)
        · -- the candidates are exactly the backlog: the chain has no repeated names
          have absent : anchor.name ∉ names candidates := by
            rw [parts, names_append] at uniqueU
            intro member
            exact (List.nodup_append.1 uniqueU).2.2 _ member _ (by simp [names, named]) rfl
          have older : backlog u d p.config.compatibility.tagging = candidates := by
            simp only [backlog, oldest]
            rw [parts]
            exact before_append_cons absent named
          refine ⟨?_, ?_⟩
          · rw [getD_of_removals planned]
            have sharedSome : ∃ x ∈ u.chain p.config.compatibility.tagging,
                x.name ∈ names (d.chain p.config.compatibility.tagging) := ⟨y, fromU, shared⟩
            simp [backlogExpired, ignored, older, sharedSome]
          · rintro u' d' same - -
            cases same
            exact ⟨uniqueU, x, post, older ▸ parts, starts⟩

/-- Keeping the whole backlog, retention on the target plans nothing and compares no pair.
Keeping `k`, it removes, for each matched pair in order, the backlog less its newest `k`, and
only for pairs that share a snapshot; no removed snapshot is named like one of the source
snapshots that the alignment sets against the target chain. -/
theorem cleanupPlan_target_removes (T S : Pool) (onTarget : T.side = .target)
    (fromSource : S.side = .source) :
    (T.config.keepBacklog = .all → T.cleanupPlan S = .ok ⟨0, [], none⟩) ∧
      ∀ keep prog txs, T.config.keepBacklog = .count keep → T.cleanupPlan S = .ok prog →
        prog.collect = .ok txs →
        ((matchDatasets (some T) (some S)).map (·.item.subname)).Pairwise (· < ·) ∧
        txs = (matchDatasets (some T) (some S)).flatMap
            (fun item => (T.backlogExpired keep item).map (·.cleanupTransaction T.config)) ∧
          ∀ u d, Paired.both u d ∈ matchDatasets (some T) (some S) →
            ∀ x ∈ T.backlogExpired keep (.both u d),
              x.name ∉ names ((d.chain T.config.compatibility.tagging).take
                ((u.chain T.config.compatibility.tagging).length -
                  (backlog u d T.config.compatibility.tagging).length)) := by
  refine ⟨fun everything => ?_, fun keep prog txs kept planned collected => ?_⟩
  · simp [cleanupPlan, onTarget, fromSource, everything, requireSide, Side.other, progress,
      planItems]
  · rw [cleanupPlan_eq_progress (by simp [kept]) planned] at collected
    obtain ⟨steps, all, rfl⟩ := collect_eq_ok _ collected
    refine ⟨matchDatasets_sorted _ _, flatten_of_mapM _ _ all fun item _ step stepped =>
      (cleanupStep_target_eq_ok onTarget kept stepped).1, ?_⟩
    intro u d member x expired
    obtain ⟨step, stepped⟩ := mapM_ok_of_mem _ all member
    -- only a pair that is not ignored and shares a snapshot removes anything
    by_cases removing : T.config.ignores u.subname = false ∧ ∃ y ∈ u.chain T.config.compatibility.tagging,
        y.name ∈ names (d.chain T.config.compatibility.tagging)
    · obtain ⟨ignored, shares⟩ := removing
      obtain ⟨uniqueU, y, post, parts, starts⟩ :=
        (cleanupStep_target_eq_ok onTarget kept stepped).2 u d rfl ignored shares
      simp only [backlogExpired, ignored, shares, and_self, ↓reduceIte] at expired
      exact name_not_mem_of_starts uniqueU parts starts x (List.mem_of_mem_take expired)
    · simp [backlogExpired, removing] at expired

/-- The sample configuration keeping a backlog of two snapshots. -/
def backlogConfig : Config := { Fixture.config with keepBacklog := .count 2 }

/-- The target `backup` with the marked snapshots `1` to `5`. -/
def backlogTarget : Pool := Fixture.pool .target backlogConfig [("", ["1", "2", "3", "4", "5"])]

/-- The source `tank` with the marked snapshots `5` and `6`. -/
def backlogSource : Pool := Fixture.pool .source backlogConfig [("", ["5", "6"])]

/-- With the source chain starting at `5`, the target's backlog is `1` to `4`, and keeping two of
it removes `1` and `2`. -/
theorem cleanupPlan_target_trims_backlog :
    ∃ prog txs, backlogTarget.side = .target ∧ backlogSource.side = .source ∧
      backlogTarget.config.keepBacklog = .count 2 ∧
      backlogTarget.cleanupPlan backlogSource = .ok prog ∧ prog.collect = .ok txs ∧
      txs.filterMap Transaction.removed? = [("", "1"), ("", "2")] ∧
      ((matchDatasets (some backlogTarget) (some backlogSource)).map (·.item.subname)).Pairwise
          (· < ·) ∧
        txs = (matchDatasets (some backlogTarget) (some backlogSource)).flatMap
            (fun item => (backlogTarget.backlogExpired 2 item).map
              (·.cleanupTransaction backlogTarget.config)) ∧
          ∀ u d, Paired.both u d ∈ matchDatasets (some backlogTarget) (some backlogSource) →
            ∀ x ∈ backlogTarget.backlogExpired 2 (.both u d),
              x.name ∉ names ((d.chain backlogTarget.config.compatibility.tagging).take
                ((u.chain backlogTarget.config.compatibility.tagging).length -
                  (backlog u d backlogTarget.config.compatibility.tagging).length)) := by
  have removed : ((backlogTarget.cleanupPlan backlogSource).toOption.bind
      (·.collect.toOption)).map (·.filterMap Transaction.removed?) =
        some [("", "1"), ("", "2")] := by
    simp only [backlogTarget, backlogSource, Fixture.pool, ofRows_eq_insertionSort, ofEntities,
      ownSnapshots_eq_insertionSort, cleanupPlan, matchDatasets, mergeSort_string_eq_insertionSort]
    decide
  obtain ⟨prog, txs, planned, collected, removed⟩ := collected_of_toOption removed
  exact ⟨prog, txs, rfl, rfl, rfl, planned, collected, removed,
    (cleanupPlan_target_removes backlogTarget backlogSource rfl rfl).2 2 prog txs rfl planned
      collected⟩

/-- The sample configuration keeping no backlog. -/
def namesakeConfig : Config := { Fixture.config with keepBacklog := .count 0 }

/-- The target `backup` with the marked snapshots `w`, `x` and `y`. -/
def namesakeTarget : Pool := Fixture.pool .target namesakeConfig [("", ["w", "x", "y"])]

/-- The source `tank` with the marked snapshots `y` and `x`, created in this order. -/
def namesakeSource : Pool := Fixture.pool .source namesakeConfig [("", ["y", "x"])]

/-- With the source chain `y, x` set against the target chain `w, x, y`, keeping no backlog
removes `w` and `x` from the target, though the source holds `x`: the alignment sets only the
source's `y` against the target chain. -/
theorem cleanupPlan_target_removes_source_namesake :
    ∃ txs, namesakeTarget.cleanupTransactions namesakeSource = .ok txs ∧
      txs.filterMap Transaction.removed? = [("", "w"), ("", "x")] ∧
      ∃ d, namesakeSource.datasetAt "" = some d ∧ "x" ∈ names (d.chain false) := by
  have removed : (namesakeTarget.cleanupTransactions namesakeSource).toOption.map
      (·.filterMap Transaction.removed?) = some [("", "w"), ("", "x")] := by
    simp only [namesakeTarget, namesakeSource, Fixture.pool, ofRows_eq_insertionSort, ofEntities,
      ownSnapshots_eq_insertionSort, cleanupTransactions, cleanupPlan, matchDatasets,
      mergeSort_string_eq_insertionSort]
    decide
  have held : ∃ d, namesakeSource.datasetAt "" = some d ∧ "x" ∈ names (d.chain false) := by
    simp only [namesakeSource, Fixture.pool, ofRows_eq_insertionSort, ofEntities,
      ownSnapshots_eq_insertionSort, datasetAt]
    decide
  obtain ⟨txs, planned, removed⟩ := ok_of_toOption removed
  exact ⟨txs, planned, removed, held⟩

end Pool

end ZfsReplication
