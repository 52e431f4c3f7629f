import Mathlib
import ZfsReplication.Proofs.Plan.Items
import ZfsReplication.Proofs.Pool.Contents
import ZfsReplication.Proofs.Plan.Convergence
import ZfsReplication.Proofs.Transaction.Run

/-!
# Planning snapshots

Snapshot planning goes through the datasets of a source pool in order. It passes by a dataset that
is ignored or a filesystem without a mountpoint; for any other it decides whether the dataset
changed, by cheap checks in a fixed order or else by running `zfs diff` of its newest snapshot
(`Dataset.changeCheck`), and plans today's snapshot of each changed dataset. The first failing diff
or exhausted day of names stops it.

Seen declaratively (`Pool.snapshotVerdicts`): give every dataset its verdict, the diffs answered by
the runner as consecutive commands. Planning collects the verdicts up to the first error
(`collectVerdicts`), and the runner receives exactly the diffs of the datasets up to there
(`Pool.snapshotPlan_run`).
-/

set_option autoImplicit false

namespace ZfsReplication

open Shell

/-! ## Change detection -/

/-- How change detection settles a dataset: by a cheap check, or by the diff of its newest
snapshot. -/
inductive ChangeCheck where
  | settled (changed : Bool)
  | diff (newest : Snapshot)

def Shell.Response.outcome (c : Command) : Response → Except ExecutionError Output
  | .spawnFailure reason => .error (.spawn c.render reason)
  | .finished out =>
    if out.succeeded then .ok out else .error (.failed c.render out.status out.stderrText)

def Shell.Response.printed (c : Command) (r : Response) : Except ExecutionError Bool :=
  (r.outcome c).map fun o => !Text.isBlankText o.stdout

theorem Shell.run_run (c : Command) (s : Session) :
    (Shell.run c).run s =
      pure ((s.runner.respond s.issued.length c).outcome c, { s with issued := s.issued ++ [c] }) := by
  cases answer : s.runner.respond s.issued.length c with
  | spawnFailure reason => simp [Shell.run, execute_run, answer, Response.outcome]
  | finished out =>
    cases succeeded : out.succeeded <;>
      simp [Shell.run, execute_run, answer, Response.outcome, succeeded]

namespace Dataset

/-- Change detection in its order: changed without snapshots, with `always_changed`, or under
tagging when the newest snapshot is unmarked; unchanged when `written` is the integer 0; changed for
a volume, when `written` is an integer that converts to an unsigned one above `written_threshold`,
or without `check_diff`; otherwise the diff of the newest snapshot decides. -/
def changeCheck (d : Dataset) (config : Config) : ChangeCheck :=
  match d.snapshots.getLast? with
  | none => .settled true
  | some newest =>
    if config.alwaysChanged ∨ (config.compatibility.tagging ∧ newest.isMarked = false) then
      .settled true
    else if (d.property "written").integer? = some 0 then .settled false
    else if d.isVolume ∨
        ((d.property "written").integer?.any fun w => 0 ≤ w ∧ (config.writtenThreshold : Int) < w) ∨
        config.checkDiff = false then
      .settled true
    else .diff newest

def diffCommand (d : Dataset) (newest : Snapshot) (config : Config) : Command :=
  (zfsDiff newest.fullName).forSide d.side config

def changedBy (d : Dataset) (config : Config) (answer : Command → Response) :
    Except ExecutionError Bool :=
  match d.changeCheck config with
  | .settled changed => .ok changed
  | .diff newest => (answer (d.diffCommand newest config)).printed (d.diffCommand newest config)

def diffs (d : Dataset) (config : Config) : List Command :=
  match d.changeCheck config with
  | .settled _ => []
  | .diff newest => [d.diffCommand newest config]

theorem changed_run (d : Dataset) (config : Config) (s : Session) :
    (d.changed config).run s =
      pure (d.changedBy config (s.runner.respond s.issued.length),
        { s with issued := s.issued ++ d.diffs config }) := by
  unfold changed changedBy diffs changeCheck
  cases newestOf : d.snapshots.getLast? with
  | none => simp
  | some newest =>
    -- the cheap checks, their tests spelled as the code spells them
    have threshold : ((d.property "written").integer?.any fun w =>
        decide (0 ≤ w) && decide (w.toNat > config.writtenThreshold)) =
        ((d.property "written").integer?.any fun w =>
          decide (0 ≤ w ∧ (config.writtenThreshold : Int) < w)) := by
      cases (d.property "written").integer? with
      | none => rfl
      | some w =>
        by_cases nonneg : 0 ≤ w
        · simp [nonneg, Int.lt_toNat]
        · simp [nonneg]
    simp only [threshold, diffCommand]
    split_ifs <;> simp_all [Shell.run_run, Response.printed]

theorem snapshotTransaction_eq_ok {d : Dataset} {today : Calendar.Date} {config : Config}
    {t : Transaction} (planned : d.snapshotTransaction today config = .ok t) :
    ∃ name, d.newSnapshotName today config = .ok name ∧ t.details.kind = .snapshot ∧
      t.details.get? .snapshotName = some (.text name) ∧
      t.command =
        (zfsSnapshot (d.name ++ "@" ++ name) config.compatibility.tagging).forSide d.side config := by
  unfold snapshotTransaction at planned
  cases named : d.newSnapshotName today config with
  | error c => simp [named] at planned
  | ok name =>
    simp only [named, Except.ok.injEq] at planned
    subst planned
    refine ⟨name, rfl, ?_, ?_, rfl⟩
    -- whether or not `written` is an integer, the kind and the name read back as set
    · split <;> simp [Transaction.new, Details.kind_set, Details.ofKind]
    · split <;> simp [Transaction.new, Details.get?_set]

theorem snapshotTransaction_eq_error {d : Dataset} {today : Calendar.Date} {config : Config}
    {e : PlanError} :
    d.snapshotTransaction today config = .error e ↔
      ∃ c, d.newSnapshotName today config = .error c ∧ e = .capacity c := by
  unfold snapshotTransaction
  cases d.newSnapshotName today config with
  | error c => simp [eq_comm]
  | ok name => simp

end Dataset

/-! ## Planning one dataset -/

def verdictStep (v : Except PlanError (Option Transaction)) :
    Except PlanError (Option (List Transaction)) :=
  v.map (·.map ([·]))

namespace Pool

/-- Whether snapshot planning passes `d` by: ignored by its relative name, or a filesystem without
a mountpoint. -/
def passesBy (p : Pool) (d : Dataset) : Bool :=
  p.config.ignores d.subname || d.isUnmountedFilesystem

/-- What snapshot planning makes of `d` when the diff it may need is answered by `answer`: nothing
when it passes `d` by or `d` did not change, today's snapshot of `d` when it changed, or else the
error of the diff or of naming the snapshot. -/
def snapshotVerdict (p : Pool) (today : Calendar.Date) (d : Dataset)
    (answer : Command → Response) : Except PlanError (Option Transaction) :=
  if p.passesBy d then .ok none
  else
    match d.changedBy p.config answer with
    | .error e => .error (.execution e)
    | .ok false => .ok none
    | .ok true => (d.snapshotTransaction today p.config).map some

def diffsOf (p : Pool) (d : Dataset) : List Command :=
  if p.passesBy d then [] else d.diffs p.config

theorem snapshotStep_run (p : Pool) (today : Calendar.Date) (d : Dataset) (s : Session) :
    (p.snapshotStep today d).run s =
      pure (verdictStep (p.snapshotVerdict today d (s.runner.respond s.issued.length)),
        { s with issued := s.issued ++ p.diffsOf d }) := by
  unfold snapshotStep snapshotVerdict diffsOf
  by_cases passed : p.passesBy d = true
  · have skipped : (p.config.ignores d.subname || d.isUnmountedFilesystem) = true := passed
    simp only [skipped, passed, ↓reduceIte, List.append_nil]
    rfl
  · have examined : (p.config.ignores d.subname || d.isUnmountedFilesystem) = false := by
      simpa [passesBy] using passed
    simp only [examined, passed, Bool.false_eq_true, ↓reduceIte, StateT.run_bind,
      Dataset.changed_run]
    cases d.changedBy p.config (s.runner.respond s.issued.length) with
    | error e => rfl
    | ok changed =>
      cases changed with
      | false => rfl
      | true =>
        cases d.snapshotTransaction today p.config <;> rfl

end Pool

/-! ## Planning all datasets -/

namespace Pool

/-- The verdicts of snapshot planning on `ds` in order, the diffs answered by `runner` as
consecutive commands from number `n` on. -/
def snapshotVerdicts (p : Pool) (today : Calendar.Date) (runner : Runner) :
    Nat → List Dataset → List (Except PlanError (Option Transaction))
  | _, [] => []
  | n, d :: ds => p.snapshotVerdict today d (runner.respond n) ::
      p.snapshotVerdicts today runner (n + (p.diffsOf d).length) ds

theorem length_snapshotVerdicts (p : Pool) (today : Calendar.Date) (runner : Runner) (n : Nat)
    (ds : List Dataset) : (p.snapshotVerdicts today runner n ds).length = ds.length := by
  induction ds generalizing n with
  | nil => rfl
  | cons d ds ih => simp [snapshotVerdicts, ih]

end Pool

/-- Verdicts taken in order: the first error, or the transactions of them all. -/
def collectVerdicts : List (Except PlanError (Option Transaction)) → Except PlanError (List Transaction)
  | [] => .ok []
  | .error e :: _ => .error e
  | .ok t :: rest => (t.toList ++ ·) <$> collectVerdicts rest

def firstFailure (vs : List (Except PlanError (Option Transaction))) : Nat :=
  vs.findIdx fun v => v.toOption.isNone

@[simp] theorem firstFailure_error (e : PlanError) (vs : List (Except PlanError (Option Transaction))) :
    firstFailure (.error e :: vs) = 0 := by
  rw [firstFailure, List.findIdx_cons]
  rfl

@[simp] theorem firstFailure_ok (t : Option Transaction) (vs : List (Except PlanError (Option Transaction))) :
    firstFailure (.ok t :: vs) = firstFailure vs + 1 := by
  rw [firstFailure, List.findIdx_cons]
  rfl

theorem collect_verdicts (vs : List (Except PlanError (Option Transaction))) :
    (progress vs verdictStep).collect = collectVerdicts vs := by
  rw [collect_progress]
  induction vs with
  | nil => rfl
  | cons v rest ih =>
    cases v with
    | error e => rfl
    | ok t =>
      rw [List.mapM_cons]
      cases mapped : rest.mapM verdictStep with
      | error e =>
        rw [mapped] at ih
        simp only [collectVerdicts, ← ih]
        rfl
      | ok steps =>
        rw [mapped] at ih
        simp only [collectVerdicts, ← ih]
        cases t <;> rfl

namespace Pool

theorem planItemsRunning_snapshotStep (p : Pool) (today : Calendar.Date) (ds : List Dataset)
    (s : Session) :
    (planItemsRunning (p.snapshotStep today) ds).run s =
      pure (planItems verdictStep (p.snapshotVerdicts today s.runner s.issued.length ds),
        { s with
          issued := s.issued ++
            (ds.take (firstFailure (p.snapshotVerdicts today s.runner s.issued.length ds) + 1)).flatMap
              p.diffsOf }) := by
  -- the induction follows the datasets; the position of the next diff moves with the session
  induction ds generalizing s with
  | nil => simp [planItemsRunning, snapshotVerdicts, planItems]
  | cons d ds ih =>
    simp only [planItemsRunning, StateT.run_bind, snapshotStep_run, snapshotVerdicts, pure_bind]
    cases verdict : p.snapshotVerdict today d (s.runner.respond s.issued.length) with
    | error e =>
      simp [verdictStep, Except.map, planItems]
    | ok t =>
      simp [verdictStep, Except.map, planItems, ih]

theorem snapshotPlan_run (p : Pool) (today : Calendar.Date) (s : Session) (source : p.side = .source) :
    (p.snapshotPlan today).run s =
      pure (.ok (progress (p.snapshotVerdicts today s.runner s.issued.length p.datasets) verdictStep),
        { s with
          issued := s.issued ++
            (p.datasets.take
              (firstFailure (p.snapshotVerdicts today s.runner s.issued.length p.datasets) + 1)).flatMap
              p.diffsOf }) := by
  have required : requireSide .source p.side = .ok () := by
    rw [source]
    rfl
  simp only [snapshotPlan, required, progressRunning, StateT.run_bind,
    planItemsRunning_snapshotStep, pure_bind, progress, length_snapshotVerdicts]
  rfl

/-- Snapshot planning of a source pool listed from rows, its progress collected. The datasets come
in increasing order of name. Planning collects their verdicts, in that order, up to the first error,
and the runner is asked exactly the diffs of the datasets up to there, one after another. Each
snapshot planned is one of its dataset, on its side, under the day's next free name, with the
marker option under tagging; naming fails exactly when the day's names are used up. -/
theorem snapshotPlan_ofRows (rows : List Row) (config : Config) (today : Calendar.Date)
    (s : Session) :
    ((ofRows rows .source config).datasets.map (·.name)).Pairwise (· < ·) ∧
      ((fun planned => planned.bind Progress.collect) <$>
          (ofRows rows .source config).snapshotPlan today).run s =
        pure (collectVerdicts ((ofRows rows .source config).snapshotVerdicts today s.runner
            s.issued.length (ofRows rows .source config).datasets),
          { s with
            issued := s.issued ++
              ((ofRows rows .source config).datasets.take
                (firstFailure ((ofRows rows .source config).snapshotVerdicts today s.runner
                  s.issued.length (ofRows rows .source config).datasets) + 1)).flatMap
                (ofRows rows .source config).diffsOf }) ∧
      (∀ d ∈ (ofRows rows .source config).datasets, ∀ t,
        d.snapshotTransaction today config = .ok t →
          ∃ name, d.newSnapshotName today config = .ok name ∧ t.details.kind = .snapshot ∧
            t.details.get? .snapshotName = some (.text name) ∧
            t.command = (zfsSnapshot (d.name ++ "@" ++ name)
              config.compatibility.tagging).forSide d.side config) ∧
      ∀ d ∈ (ofRows rows .source config).datasets, ∀ e,
        d.snapshotTransaction today config = .error e ↔
          ∃ c, d.newSnapshotName today config = .error c ∧ e = .capacity c := by
  refine ⟨ofRows_names_increasing rows .source config, ?_,
    fun d _ t planned => Dataset.snapshotTransaction_eq_ok planned,
    fun d _ e => Dataset.snapshotTransaction_eq_error⟩
  rw [StateT.run_map, snapshotPlan_run _ today s rfl]
  simp only [map_pure, Except.bind, collect_verdicts]

end Pool

end ZfsReplication
