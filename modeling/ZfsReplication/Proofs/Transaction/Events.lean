import Mathlib
import ZfsReplication.Proofs.Transaction.Run

/-!
# What a subscriber hears

Whoever subscribed to a list last hears, at once, of every transaction present, linked in order,
and afterwards of each operation as it happens: a transaction pushed is linked at its position, a
transaction that a run actually executes is started and then finished, with whether it failed, and
the list being cleared is told. A transaction that a run skips because it is complete, or never
reaches, says nothing, and no earlier subscriber hears anything more (`subscriber_hears`).

What each operation tells is said here without running it (`ListOp.events`); the events of a run
are read off the declarative run of `settle` and `stopIndex`. The proof goes one operation at a
time: an operation other than a subscription delivers its events to the receiver it finds and
keeps the subscription (`Announces`), and these steps compose along any sequence of operations.
-/

set_option autoImplicit false

namespace ZfsReplication

open Shell

/-- One operation on a transaction list; a run is answered by the runner of its session. -/
inductive ListOp where
  | push (t : Transaction)
  | extend (ts : List Transaction)
  | subscribe
  | run (s : Session)
  | clear

namespace TransactionList

/-- The events of a run of `ts` from position `index`, the first command it issues answered as
command `n` of `runner`: every pending transaction up to the one the run stops at is started and
finished, as failed when its command failed. -/
def runEvents (runner : Runner) (n index : Nat) (ts : List Transaction) : List TransactionEvent :=
  let ran := settle runner n ts
  (((ts.zip ran).zipIdx index).take (stopIndex ran + 1)).flatMap fun x =>
    if x.1.1.state = .pending then [.started x.2, .finished x.2 x.1.2.error.isSome] else []

/-- The deliveries of `es` to the current receiver, none when nobody subscribed. -/
def announce (l : TransactionList) (es : List TransactionEvent) : List Delivery :=
  l.receiver.elim [] fun r => es.map (Delivery.mk r)

/-- The events delivered to receiver `r`, in order. -/
def received (l : TransactionList) (r : Nat) : List TransactionEvent :=
  (l.deliveries.filter fun d => d.receiver = r).map (·.event)

end TransactionList

namespace ListOp

open TransactionList

/-- The list after the operation; a run keeps the list it leaves and drops its result. -/
def apply : ListOp → TransactionList → TransactionList
  | .push t, l => l.push t
  | .extend ts, l => l.extend ts
  | .subscribe, l => l.subscribe
  | .run s, l => (l.run.run s).run.1.1
  | .clear, l => l.clear

/-- The events an operation tells, said without performing it: a subscription's go to the new
receiver, the others' to the receiver it finds. -/
def events : ListOp → TransactionList → List TransactionEvent
  | .push _, l => [.linked l.size]
  | .extend ts, l => (List.range ts.length).map fun k => .linked (l.size + k)
  | .subscribe, l => (List.range l.size).map .linked
  | .run s, l => runEvents s.runner s.issued.length 0 l.transactions
  | .clear, _ => [.cleared]

/-- The list after the operations, in order. -/
def applyAll (ops : List ListOp) (l : TransactionList) : TransactionList :=
  ops.foldl (fun l op => op.apply l) l

/-- The events the operations tell, each at the list it finds, in order. -/
def trace : List ListOp → TransactionList → List TransactionEvent
  | [], _ => []
  | op :: ops, l => op.events l ++ trace ops (op.apply l)

@[simp] theorem applyAll_nil (l : TransactionList) : applyAll [] l = l := rfl

@[simp] theorem applyAll_cons (op : ListOp) (ops : List ListOp) (l : TransactionList) :
    applyAll (op :: ops) l = applyAll ops (op.apply l) := rfl

end ListOp

namespace TransactionList

/-! ## Delivering to the receiver found -/

@[simp] theorem announce_nil (l : TransactionList) : l.announce [] = [] := by
  cases h : l.receiver <;> simp [announce, h]

theorem announce_append (l : TransactionList) (es fs : List TransactionEvent) :
    l.announce (es ++ fs) = l.announce es ++ l.announce fs := by
  cases h : l.receiver <;> simp [announce, h]

/-- `l'` is `l` after delivering `es` to the receiver of `l`: the subscription stays and nothing
else is delivered. -/
structure Announces (l l' : TransactionList) (es : List TransactionEvent) : Prop where
  receiver : l'.receiver = l.receiver
  subscriptions : l'.subscriptions = l.subscriptions
  deliveries : l'.deliveries = l.deliveries ++ l.announce es

namespace Announces

variable {l l₁ l₂ : TransactionList} {es fs : List TransactionEvent}

theorem refl (l : TransactionList) : Announces l l [] := ⟨rfl, rfl, by simp⟩

theorem trans (first : Announces l l₁ es) (second : Announces l₁ l₂ fs) :
    Announces l l₂ (es ++ fs) := by
  have sameReceiver : l₁.announce fs = l.announce fs := by
    simp only [announce, first.receiver]
  refine ⟨second.receiver.trans first.receiver, second.subscriptions.trans first.subscriptions, ?_⟩
  rw [second.deliveries, first.deliveries, sameReceiver, announce_append, List.append_assoc]

theorem withTransactions (announced : Announces l l₁ es) (ts : List Transaction) :
    Announces l { l₁ with transactions := ts } es :=
  ⟨announced.receiver, announced.subscriptions, announced.deliveries⟩

end Announces

theorem announces_notify (l : TransactionList) (e : TransactionEvent) :
    Announces l (l.notify e) [e] := by
  unfold notify
  cases h : l.receiver with
  | none => exact ⟨h.symm ▸ rfl, rfl, by simp [announce, h]⟩
  | some r => exact ⟨h.symm ▸ rfl, rfl, by simp [announce, h]⟩

theorem announces_push (l : TransactionList) (t : Transaction) :
    Announces l (l.push t) [.linked l.size] :=
  (announces_notify l _).withTransactions _

@[simp] theorem size_push (l : TransactionList) (t : Transaction) :
    (l.push t).size = l.size + 1 := by
  simp [push, size]

theorem announces_extend (l : TransactionList) (ts : List Transaction) :
    Announces l (l.extend ts) ((List.range ts.length).map fun k => .linked (l.size + k)) := by
  induction ts generalizing l with
  | nil => exact Announces.refl l
  | cons t rest ih =>
    have linked := (announces_push l t).trans (ih (l.push t))
    rw [size_push] at linked
    simpa [extend, List.range_succ_eq_map, Function.comp_def, Nat.add_assoc, Nat.add_comm 1] using
      linked

theorem announces_clear (l : TransactionList) : Announces l l.clear [.cleared] :=
  (announces_notify l _).withTransactions _

/-! ## The events of a run, one transaction at a time -/

section RunEvents

variable {runner : Runner} {n index : Nat} {t : Transaction} {ts : List Transaction}

@[simp] theorem runEvents_nil : runEvents runner n index [] = [] := rfl

theorem runEvents_cons_stored_failure (waiting : t.state ≠ .pending) {e : ExecutionError}
    (failed : t.error = some e) : runEvents runner n index (t :: ts) = [] := by
  simp [runEvents, settle_cons_waiting waiting, stopIndex_cons_failed failed, List.zipIdx_cons,
    waiting]

theorem runEvents_cons_stored_success (waiting : t.state ≠ .pending) (succeeded : t.error = none) :
    runEvents runner n index (t :: ts) = runEvents runner n (index + 1) ts := by
  simp [runEvents, settle_cons_waiting waiting, stopIndex_cons_succeeded succeeded,
    List.zipIdx_cons, waiting]

theorem runEvents_cons_pending_failure (pending : t.state = .pending) {e : ExecutionError}
    (failed : (t.ranAs runner n).error = some e) :
    runEvents runner n index (t :: ts) = [.started index, .finished index true] := by
  simp [runEvents, settle_cons_pending pending, stopIndex_cons_failed failed, List.zipIdx_cons,
    pending, failed]

theorem runEvents_cons_pending_success (pending : t.state = .pending)
    (succeeded : (t.ranAs runner n).error = none) :
    runEvents runner n index (t :: ts) =
      .started index :: .finished index false :: runEvents runner (n + 1) (index + 1) ts := by
  simp [runEvents, settle_cons_pending pending, stopIndex_cons_succeeded succeeded,
    List.zipIdx_cons, pending, succeeded]

end RunEvents

/-- A run from position `index` tells the receiver it finds of every transaction it executes,
started and finished, and nothing else. -/
theorem announces_runFrom (index : Nat) (ts : List Transaction) (l : TransactionList)
    (s : Session) :
    Announces l ((runFrom index ts l).run s).run.1.1 (runEvents s.runner s.issued.length index ts) := by
  -- one transaction at a time; the list, the position and the session move on with the run
  induction ts generalizing index l s with
  | nil => exact Announces.refl l
  | cons t rest ih =>
    by_cases pending : t.state = .pending
    · have started := announces_notify l (.started index)
      cases failed : (t.ranAs s.runner s.issued.length).error with
      | some e =>
        rw [runEvents_cons_pending_failure pending failed]
        have finished := announces_notify (l.notify (.started index)) (.finished index true)
        simpa [runFrom, pending, Transaction.run_pending pending, failed] using
          (started.trans finished).withTransactions
            (l.transactions.set index (t.ranAs s.runner s.issued.length))
      | none =>
        rw [runEvents_cons_pending_success pending failed]
        have finished := announces_notify (l.notify (.started index)) (.finished index false)
        have later := ih (index + 1)
          { (l.notify (.started index)).notify (.finished index false) with
            transactions := l.transactions.set index (t.ranAs s.runner s.issued.length) }
          { s with issued := s.issued ++ [t.command] }
        simpa [runFrom, pending, Transaction.run_pending pending, failed] using
          ((started.trans finished).withTransactions _).trans later
    · -- a complete transaction is looked at without running; one caught running is run in place
      -- and does nothing; neither tells anything
      cases failed : t.error with
      | some e =>
        rw [runEvents_cons_stored_failure pending failed]
        by_cases complete : t.state = .complete
        · simpa [runFrom, complete, failed] using Announces.refl l
        · simpa [runFrom, complete, pending, Transaction.run_not_pending pending, failed] using
            (Announces.refl l).withTransactions (l.transactions.set index t)
      | none =>
        rw [runEvents_cons_stored_success pending failed]
        by_cases complete : t.state = .complete
        · simpa [runFrom, complete, failed] using ih (index + 1) l s
        · simpa [runFrom, complete, pending, Transaction.run_not_pending pending, failed] using
            ((Announces.refl l).withTransactions (l.transactions.set index t)).trans
              (ih (index + 1) { l with transactions := l.transactions.set index t } s)

/-! ## Any sequence of operations -/

open ListOp

theorem announces_apply (l : TransactionList) {op : ListOp} (notSubscribe : op ≠ .subscribe) :
    Announces l (op.apply l) (op.events l) := by
  cases op with
  | push t => exact announces_push l t
  | extend ts => exact announces_extend l ts
  | subscribe => exact absurd rfl notSubscribe
  | run s => exact announces_runFrom 0 l.transactions l s
  | clear => exact announces_clear l

/-- Operations without a subscription among them tell the receiver they find their trace. -/
theorem announces_applyAll (l : TransactionList) {ops : List ListOp}
    (noSubscribe : ∀ op ∈ ops, op ≠ .subscribe) : Announces l (applyAll ops l) (trace ops l) := by
  induction ops generalizing l with
  | nil => exact Announces.refl l
  | cons op rest ih =>
    have first := announces_apply l (noSubscribe op List.mem_cons_self)
    have later := ih (op.apply l) fun op' member => noSubscribe op' (List.mem_cons_of_mem op member)
    exact first.trans later

/-- Every delivery, and the current receiver, belong to a subscription already made. -/
structure Addressed (l : TransactionList) : Prop where
  receiver : ∀ r ∈ l.receiver, r < l.subscriptions
  deliveries : ∀ d ∈ l.deliveries, d.receiver < l.subscriptions

namespace Addressed

variable {l l' : TransactionList} {es : List TransactionEvent}

theorem empty : Addressed {} := ⟨by simp, by simp⟩

theorem of_announces (addressed : Addressed l) (announced : Announces l l' es) : Addressed l' := by
  refine ⟨?_, ?_⟩
  · rw [announced.receiver, announced.subscriptions]
    exact addressed.receiver
  · intro d member
    rw [announced.deliveries, List.mem_append] at member
    rw [announced.subscriptions]
    rcases member with old | new
    · exact addressed.deliveries d old
    · -- a new delivery goes to the receiver found
      cases h : l.receiver with
      | none => simp [announce, h] at new
      | some r =>
        obtain ⟨e, -, rfl⟩ := List.mem_map.1 (by simpa [announce, h] using new)
        exact addressed.receiver r h

theorem subscribe (addressed : Addressed l) : Addressed l.subscribe := by
  refine ⟨by simp [TransactionList.subscribe], ?_⟩
  intro d member
  simp only [TransactionList.subscribe, List.mem_append, List.mem_map] at member
  rcases member with old | ⟨i, -, rfl⟩
  · exact Nat.lt_succ_of_lt (addressed.deliveries d old)
  · exact Nat.lt_succ_self _

theorem applyAll (addressed : Addressed l) (ops : List ListOp) : Addressed (applyAll ops l) := by
  induction ops generalizing l with
  | nil => exact addressed
  | cons op rest ih =>
    apply ih
    by_cases resubscribe : op = .subscribe
    · subst resubscribe
      exact addressed.subscribe
    · exact addressed.of_announces (announces_apply l resubscribe)

theorem received_next (addressed : Addressed l) : l.received l.subscriptions = [] := by
  simp only [received, List.map_eq_nil_iff, List.filter_eq_nil_iff, decide_eq_true_eq]
  intro d member same
  exact absurd (same ▸ addressed.deliveries d member) (Nat.lt_irrefl _)

end Addressed

/-- After a subscription and operations that tell `es`, the new receiver has heard every
transaction present linked and then `es`, and every other receiver nothing more. -/
theorem received_after_subscribe {l final : TransactionList} {es : List TransactionEvent}
    (announced : Announces l.subscribe final es) (r : Nat) :
    final.received r =
      l.received r ++ if r = l.subscriptions then (List.range l.size).map .linked ++ es else [] := by
  have deliveries : final.deliveries =
      l.deliveries ++
        ((List.range l.size).map TransactionEvent.linked ++ es).map (Delivery.mk l.subscriptions) := by
    rw [announced.deliveries]
    simp [TransactionList.subscribe, announce]
  rw [received, deliveries, List.filter_append, List.map_append]
  by_cases same : r = l.subscriptions
  · subst same
    simp [received, List.filter_map, Function.comp_def]
  · simp [received, List.filter_map, Function.comp_def, Ne.symm same, same]

/-- Whoever subscribed last hears first of every transaction present, linked in order, and then
exactly what each later operation tells, in order: a transaction pushed linked at its position,
each transaction a run executes started and finished, with whether it failed, and each clearing.
Every other receiver hears nothing more after that subscription. -/
theorem subscriber_hears (before after : List ListOp)
    (noResubscribe : ∀ op ∈ after, op ≠ .subscribe) :
    let l := applyAll before {}
    let final := applyAll after l.subscribe
    final.received l.subscriptions = (List.range l.size).map .linked ++ trace after l.subscribe ∧
      ∀ r ≠ l.subscriptions, final.received r = l.received r := by
  intro l final
  have announced := announces_applyAll l.subscribe noResubscribe
  have addressed := Addressed.empty.applyAll before
  refine ⟨?_, fun r other => ?_⟩
  · rw [received_after_subscribe announced, if_pos rfl, addressed.received_next, List.nil_append]
  · rw [received_after_subscribe announced, if_neg other, List.append_nil]

/-- A removal pushed before anyone subscribes. -/
def removalsBefore : List ListOp :=
  [.push (.new (.ofKind .cleanupSnapshot) (.single ["zfs", "destroy", "tank@1"]))]

/-- A second removal pushed, both run with every command succeeding, and the list cleared. -/
def removalsAfter : List ListOp :=
  [.push (.new (.ofKind .cleanupSnapshot) (.single ["zfs", "destroy", "tank@2"])),
    .run ⟨.scripted [], []⟩, .clear]

theorem subscriber_hears_removals :
    (∀ op ∈ removalsAfter, op ≠ .subscribe) ∧
      let l := applyAll removalsBefore {}
      let final := applyAll removalsAfter l.subscribe
      final.received l.subscriptions = (List.range l.size).map .linked ++ trace removalsAfter l.subscribe ∧
        ∀ r ≠ l.subscriptions, final.received r = l.received r :=
  ⟨by simp [removalsAfter], subscriber_hears removalsBefore removalsAfter (by simp [removalsAfter])⟩

example :
    (applyAll removalsAfter (applyAll removalsBefore {}).subscribe).received 0 =
      [.linked 0, .linked 1, .started 0, .finished 0 false, .started 1, .finished 1 false, .cleared] := by
  decide

end TransactionList

end ZfsReplication
