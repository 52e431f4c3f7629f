import ZfsReplication.Transaction.List

/-!
# Running a transaction list

A list runs its transactions in order: a pending one runs its command and completes, keeping the
error if the command failed; a complete one is skipped when it succeeded and stops the run with its
error when it failed; the run also stops right after a command that fails.

Seen declaratively (`settle`): let every pending transaction run, one after another, each answered
by the runner as the next command. The run stops at the first transaction that then carries an
error, all of it before that point is settled, and everything after it is untouched; the result is
that transaction's error, or success when there is none (`run_stops_at_first_failure`). Since
nothing before the stop is left pending or failed, a second run issues no command and gives the
same result.

The theorem is about lists built through the operations of the library (`Reachable`), in which no
transaction is ever caught running.
-/

set_option autoImplicit false

namespace ZfsReplication

open Shell

/-! ## Running one transaction -/

/-- The error of a command that the runner answered with `r`: it could not be started, or a stage
exited with a status other than 0. -/
def Shell.Response.failure (c : Command) : Response → Option ExecutionError
  | .spawnFailure reason => some (.spawn c.render reason)
  | .finished out =>
    if out.succeeded then none else some (.failed c.render out.status out.stderrText)

/-- A command fails exactly when it cannot be started or some stage does not exit with status 0. -/
theorem Shell.Response.failure_eq_none_iff (c : Command) (r : Response) :
    r.failure c = none ↔ ∃ out, r = .finished out ∧ ∀ status ∈ out.status, status = some 0 := by
  cases r with
  | spawnFailure reason => simp [failure]
  | finished out => simp [failure, Output.succeeded]

/-- Issuing a command answers it by the runner at the next position. -/
theorem Shell.execute_run (c : Command) (s : Session) :
    (execute c).run s =
      pure (s.runner.respond s.issued.length c, { s with issued := s.issued ++ [c] }) := rfl

namespace Transaction

/-- The transaction after its command ran as command number `n` of `runner`: complete, with the
error of the command if it failed. -/
def ranAs (runner : Runner) (n : Nat) (t : Transaction) : Transaction :=
  { t with state := .complete, error := (runner.respond n t.command).failure t.command }

/-- Running a pending transaction issues its command and completes it. -/
theorem run_pending {t : Transaction} (pending : t.state = .pending) (s : Session) :
    t.run.run s =
      pure (t.ranAs s.runner s.issued.length, { s with issued := s.issued ++ [t.command] }) := by
  cases answer : s.runner.respond s.issued.length t.command with
  | spawnFailure reason => simp [run, Shell.run, pending, execute_run, answer, ranAs, Response.failure]
  | finished out =>
    cases succeeded : out.succeeded <;>
      simp [run, Shell.run, pending, execute_run, answer, ranAs, Response.failure, succeeded]

/-- Running a transaction that is not pending changes nothing. -/
theorem run_not_pending {t : Transaction} (waiting : t.state ≠ .pending) (s : Session) :
    t.run.run s = pure (t, s) := by
  simp [run, waiting]

end Transaction

/-! ## Every pending transaction run -/

/-- The transactions after every pending one among them ran, one after another, the first as
command number `n` of `runner`; the others are left as they are. -/
def settle (runner : Runner) : Nat → List Transaction → List Transaction
  | _, [] => []
  | n, t :: ts =>
    if t.state = .pending then t.ranAs runner n :: settle runner (n + 1) ts
    else t :: settle runner n ts

section Settle

variable {runner : Runner} {n : Nat} {t : Transaction} {ts : List Transaction}

@[simp] theorem settle_nil : settle runner n [] = [] := rfl

theorem settle_cons_pending (pending : t.state = .pending) :
    settle runner n (t :: ts) = t.ranAs runner n :: settle runner (n + 1) ts := by
  simp [settle, pending]

theorem settle_cons_waiting (waiting : t.state ≠ .pending) :
    settle runner n (t :: ts) = t :: settle runner n ts := by
  simp [settle, waiting]

end Settle

/-- Where a run of transactions that end up as `ran` stops: at the first that carries an error, or
past the end when none does. -/
def stopIndex (ran : List Transaction) : Nat := ran.findIdx fun t => t.error.isSome

/-- The result of a run of transactions that end up as `ran`: the first error, or success. -/
def outcome (ran : List Transaction) : Except ExecutionError Unit :=
  (ran.findSome? (·.error)).elim (.ok ()) .error

section Outcome

variable {t : Transaction} {ran : List Transaction}

@[simp] theorem stopIndex_nil : stopIndex [] = 0 := rfl

@[simp] theorem outcome_nil : outcome [] = .ok () := rfl

theorem stopIndex_cons_failed {e : ExecutionError} (failed : t.error = some e) :
    stopIndex (t :: ran) = 0 := by
  simp [stopIndex, failed, List.findIdx_cons]

theorem stopIndex_cons_succeeded (succeeded : t.error = none) :
    stopIndex (t :: ran) = stopIndex ran + 1 := by
  simp [stopIndex, succeeded, List.findIdx_cons]

theorem outcome_cons_failed {e : ExecutionError} (failed : t.error = some e) :
    outcome (t :: ran) = .error e := by
  simp [outcome, failed]

theorem outcome_cons_succeeded (succeeded : t.error = none) :
    outcome (t :: ran) = outcome ran := by
  simp [outcome, succeeded]

end Outcome

/-! ## One step of a run -/

namespace TransactionList

@[simp] theorem notify_transactions (l : TransactionList) (e : TransactionEvent) :
    (l.notify e).transactions = l.transactions := by
  unfold notify
  split <;> rfl

section Step

variable {index : Nat} {t : Transaction} {rest : List Transaction} {l : TransactionList}
  {s : Session}

/-- A complete transaction that failed stops the run with its error and runs nothing. -/
theorem runFrom_stored_failure (complete : t.state = .complete) {e : ExecutionError}
    (failed : t.error = some e) : (runFrom index (t :: rest) l).run s = pure ((l, .error e), s) := by
  simp [runFrom, complete, failed]

/-- A complete transaction that succeeded is skipped. -/
theorem runFrom_stored_success (complete : t.state = .complete) (succeeded : t.error = none) :
    (runFrom index (t :: rest) l).run s = (runFrom (index + 1) rest l).run s := by
  simp [runFrom, complete, succeeded]

/-- A pending transaction whose command fails takes its place in the list and stops the run. -/
theorem runFrom_pending_failure (pending : t.state = .pending) {e : ExecutionError}
    (failed : (t.ranAs s.runner s.issued.length).error = some e) :
    ∃ l', l'.transactions = l.transactions.set index (t.ranAs s.runner s.issued.length) ∧
      (runFrom index (t :: rest) l).run s =
        pure ((l', .error e), { s with issued := s.issued ++ [t.command] }) := by
  refine ⟨{ (l.notify (.started index)).notify
      (.finished index (t.ranAs s.runner s.issued.length).error.isSome) with
    transactions := l.transactions.set index (t.ranAs s.runner s.issued.length) }, rfl, ?_⟩
  simp [runFrom, pending, Transaction.run_pending pending, failed]

/-- A pending transaction whose command succeeds takes its place in the list, and the run goes
on. -/
theorem runFrom_pending_success (pending : t.state = .pending)
    (succeeded : (t.ranAs s.runner s.issued.length).error = none) :
    ∃ l', l'.transactions = l.transactions.set index (t.ranAs s.runner s.issued.length) ∧
      (runFrom index (t :: rest) l).run s =
        (runFrom (index + 1) rest l').run { s with issued := s.issued ++ [t.command] } := by
  refine ⟨{ (l.notify (.started index)).notify
      (.finished index (t.ranAs s.runner s.issued.length).error.isSome) with
    transactions := l.transactions.set index (t.ranAs s.runner s.issued.length) }, rfl, ?_⟩
  simp [runFrom, pending, Transaction.run_pending pending, succeeded]

end Step

/-- The commands a run issues for `ts`: those of the pending transactions, in order. -/
def issuedBy (ts : List Transaction) : List Command :=
  (ts.filter fun t => t.state = .pending).map (·.command)

@[simp] theorem issuedBy_nil : issuedBy [] = [] := rfl

theorem issuedBy_cons_pending {t : Transaction} {ts : List Transaction}
    (pending : t.state = .pending) : issuedBy (t :: ts) = t.command :: issuedBy ts := by
  simp [issuedBy, pending]

theorem issuedBy_cons_waiting {t : Transaction} {ts : List Transaction}
    (waiting : t.state ≠ .pending) : issuedBy (t :: ts) = issuedBy ts := by
  simp [issuedBy, waiting]

/-- How a run of `ts`, standing in the list after `done`, ends from session `s` in `out`: with
`ran` the transactions once every pending one ran, the list holds `done`, then `ran` up to and
including its first failure, then `ts` untouched; the result is that failure or success; and the
session issued the commands of the pending transactions up to there. Running the transactions
so left once more issues nothing and gives the same result. -/
def RunsTo (done ts : List Transaction) (s : Session)
    (out : Id ((TransactionList × Except ExecutionError Unit) × Session)) : Prop :=
  let ran := settle s.runner s.issued.length ts
  out.run.1.1.transactions = done ++ ran.take (stopIndex ran + 1) ++ ts.drop (stopIndex ran + 1) ∧
    out.run.1.2 = outcome ran ∧
    out.run.2 = { s with issued := s.issued ++ issuedBy (ts.take (stopIndex ran + 1)) } ∧
    ∀ l s', (runFrom done.length (ran.take (stopIndex ran + 1) ++ ts.drop (stopIndex ran + 1)) l).run s' =
      pure ((l, outcome ran), s')

/-- A run from position `done.length` ends as `RunsTo` says, when none of the transactions it goes
through is caught running. -/
theorem runFrom_runsTo (done ts : List Transaction) (l : TransactionList) (s : Session)
    (listed : l.transactions = done ++ ts) (idle : ∀ t ∈ ts, t.state ≠ .running) :
    RunsTo done ts s ((runFrom done.length ts l).run s) := by
  -- the run goes through `ts` one transaction at a time; the part done grows by what it settled
  induction ts generalizing done l s with
  | nil => simp [RunsTo, runFrom, listed]
  | cons t rest ih =>
    have idleRest : ∀ t ∈ rest, t.state ≠ .running := fun u member =>
      idle u (List.mem_cons_of_mem t member)
    cases state : t.state with
    | running => exact absurd state (idle t List.mem_cons_self)
    | complete =>
      have waiting : t.state ≠ .pending := by simp [state]
      cases failed : t.error with
      | some e =>
        rw [runFrom_stored_failure state failed]
        simp only [RunsTo, settle_cons_waiting waiting, stopIndex_cons_failed failed,
          outcome_cons_failed failed]
        refine ⟨by simp [listed], rfl, by simp [issuedBy_cons_waiting waiting], fun l' s' => ?_⟩
        simpa using runFrom_stored_failure state failed
      | none =>
        rw [runFrom_stored_success state failed]
        have later := ih (done ++ [t]) l s (by simp [listed]) idleRest
        simp only [RunsTo, List.length_append, List.length_singleton] at later ⊢
        obtain ⟨listedAfter, result, session, again⟩ := later
        simp only [settle_cons_waiting waiting, stopIndex_cons_succeeded failed,
          outcome_cons_succeeded failed, List.take_succ_cons, List.drop_succ_cons]
        refine ⟨by simp [listedAfter], result, by simp [session, issuedBy_cons_waiting waiting],
          fun l' s' => ?_⟩
        rw [List.cons_append, runFrom_stored_success state failed]
        exact again l' s'
    | pending =>
      have complete : (t.ranAs s.runner s.issued.length).state = .complete := rfl
      cases failed : (t.ranAs s.runner s.issued.length).error with
      | some e =>
        obtain ⟨l', listed', ran⟩ := @runFrom_pending_failure done.length t rest l s state e failed
        rw [ran]
        simp only [RunsTo, settle_cons_pending state, stopIndex_cons_failed failed,
          outcome_cons_failed failed]
        refine ⟨by simp [listed', listed], rfl, by simp [issuedBy_cons_pending state],
          fun l' s' => ?_⟩
        simpa using runFrom_stored_failure complete failed
      | none =>
        obtain ⟨l', listed', ran⟩ := @runFrom_pending_success done.length t rest l s state failed
        rw [ran]
        have later := ih (done ++ [t.ranAs s.runner s.issued.length]) l'
          { s with issued := s.issued ++ [t.command] } (by simp [listed', listed]) idleRest
        simp only [RunsTo, List.length_append, List.length_singleton] at later ⊢
        obtain ⟨listedAfter, result, session, again⟩ := later
        simp only [settle_cons_pending state, stopIndex_cons_succeeded failed,
          outcome_cons_succeeded failed, List.take_succ_cons, List.drop_succ_cons]
        refine ⟨by simp [listedAfter], by simpa using result,
          by simp [session, issuedBy_cons_pending state], fun l₂ s₂ => ?_⟩
        rw [List.cons_append, runFrom_stored_success complete failed]
        simpa using again l₂ s₂

/-! ## Lists the library builds -/

/-- Settled transactions that were not running are all complete. -/
theorem settle_complete {runner : Runner} {n : Nat} {ts : List Transaction}
    (idle : ∀ t ∈ ts, t.state ≠ .running) : ∀ t ∈ settle runner n ts, t.state = .complete := by
  induction ts generalizing n with
  | nil => simp
  | cons t rest ih =>
    have idleRest : ∀ t ∈ rest, t.state ≠ .running := fun u member =>
      idle u (List.mem_cons_of_mem t member)
    cases state : t.state with
    | running => exact absurd state (idle t List.mem_cons_self)
    | complete =>
      rw [settle_cons_waiting (by simp [state])]
      simpa [state] using ih idleRest
    | pending =>
      rw [settle_cons_pending state]
      simpa [Transaction.ranAs] using ih idleRest

end TransactionList

/-- A transaction as the library hands it out: made pending, then run on its own any number of
times. -/
inductive Transaction.Built : Transaction → Prop
  | new (details : Details) (command : Command) : Built (.new details command)
  | run {t : Transaction} (s : Session) : Built t → Built (t.run.run s).run.1

/-- A list as the library builds it: empty, then transactions pushed, subscriptions made, the list
cleared and run. -/
inductive TransactionList.Reachable : TransactionList → Prop
  | empty : Reachable {}
  | push {l : TransactionList} {t : Transaction} : Reachable l → t.Built → Reachable (l.push t)
  | subscribe {l : TransactionList} : Reachable l → Reachable l.subscribe
  | clear {l : TransactionList} : Reachable l → Reachable l.clear
  | run {l : TransactionList} (s : Session) : Reachable l → Reachable (l.run.run s).run.1.1

/-- A transaction that is handed out is never caught running: running it goes from pending to
complete at once. -/
theorem Transaction.Built.idle {t : Transaction} (built : t.Built) : t.state ≠ .running := by
  induction built with
  | new details command => simp [Transaction.new]
  | @run t s _ ih =>
    by_cases pending : t.state = .pending
    · simp [Transaction.run_pending pending, Transaction.ranAs]
    · simpa [Transaction.run_not_pending pending] using ih

namespace TransactionList

/-- No transaction of a list the library builds is running. -/
theorem Reachable.idle {l : TransactionList} (reachable : l.Reachable) :
    ∀ t ∈ l.transactions, t.state ≠ .running := by
  induction reachable with
  | empty => simp
  | push _ built ih =>
    intro t member
    simp only [TransactionList.push, List.mem_append, List.mem_singleton] at member
    rcases member with old | rfl
    · exact ih t old
    · exact built.idle
  | subscribe _ ih => simpa [TransactionList.subscribe] using ih
  | clear _ ih => simp [TransactionList.clear]
  | @run l s _ ih =>
    -- the run leaves settled transactions, all complete, and untouched ones
    obtain ⟨listed, -⟩ := runFrom_runsTo [] l.transactions l s rfl ih
    intro t member
    simp only [TransactionList.run, List.length_nil, List.nil_append] at listed member
    rw [listed] at member
    rcases List.mem_append.1 member with settled | untouched
    · simp [settle_complete ih t (List.mem_of_mem_take settled)]
    · exact ih t (List.mem_of_mem_drop untouched)

/-! ## Running a list -/

/-- Running a list the library builds, with any runner: let every pending transaction run in
order, each answered as the next command; the run stops at the first transaction that then carries
an error (a command that failed, or a failure stored before), settling everything up to it and
leaving everything after it untouched. It issues exactly the commands of the pending transactions
up to the stop, and its result is the stopping transaction's error, or success when there is
none. Running the list it leaves once more issues no command and gives the same result. -/
theorem run_stops_at_first_failure (l : TransactionList) (reachable : l.Reachable) (s : Session) :
    let ran := settle s.runner s.issued.length l.transactions
    let reached := stopIndex ran + 1
    (l.run.run s).run.1.1.transactions = ran.take reached ++ l.transactions.drop reached ∧
      (l.run.run s).run.1.2 = outcome ran ∧
      (l.run.run s).run.2 = { s with issued := s.issued ++ issuedBy (l.transactions.take reached) } ∧
      ∀ s', ((l.run.run s).run.1.1.run.run s').run = ((l.run.run s).run.1, s') := by
  intro ran reached
  obtain ⟨listed, result, session, again⟩ :=
    runFrom_runsTo [] l.transactions l s rfl reachable.idle
  simp only [List.length_nil, List.nil_append] at listed result session again
  simp only [TransactionList.run]
  refine ⟨listed, result, session, fun s' => ?_⟩
  -- the list left behind runs from its first transaction, all of them settled up to the stop
  have rerun := again (runFrom 0 l.transactions l |>.run s).run.1.1 s'
  rw [← listed] at rerun
  rw [rerun, ← result]
  rfl

/-- Two removals, the first already run on its own and the second pending, with someone
subscribed. -/
def twoRemovals : TransactionList :=
  ((({} : TransactionList).push
      ((Transaction.new (.ofKind .cleanupSnapshot) (.single ["zfs", "destroy", "tank@1"])).run.run
        ⟨Runner.scripted [], []⟩).run.1).push
    (Transaction.new (.ofKind .cleanupSnapshot) (.single ["zfs", "destroy", "tank@2"]))).subscribe

/-- A session whose first command exits with status 1. -/
def failingFirst : Session := ⟨Runner.scripted [{ status := .each (some 1) }], []⟩

theorem run_stops_at_first_failure_twoRemovals :
    twoRemovals.Reachable ∧
      (twoRemovals.run.run failingFirst).run.1.1.transactions =
          (settle failingFirst.runner failingFirst.issued.length twoRemovals.transactions).take
            (stopIndex (settle failingFirst.runner failingFirst.issued.length
              twoRemovals.transactions) + 1) ++
          twoRemovals.transactions.drop (stopIndex (settle failingFirst.runner
            failingFirst.issued.length twoRemovals.transactions) + 1) ∧
        (twoRemovals.run.run failingFirst).run.1.2 =
          outcome (settle failingFirst.runner failingFirst.issued.length twoRemovals.transactions) ∧
        (twoRemovals.run.run failingFirst).run.2 =
          { failingFirst with
            issued := failingFirst.issued ++ issuedBy (twoRemovals.transactions.take
              (stopIndex (settle failingFirst.runner failingFirst.issued.length
                twoRemovals.transactions) + 1)) } ∧
        ∀ s', ((twoRemovals.run.run failingFirst).run.1.1.run.run s').run =
          ((twoRemovals.run.run failingFirst).run.1, s') := by
  have reachable : twoRemovals.Reachable :=
    .subscribe (.push (.push .empty (.run _ (.new _ _))) (.new _ _))
  exact ⟨reachable, run_stops_at_first_failure twoRemovals reachable failingFirst⟩

end TransactionList

end ZfsReplication
