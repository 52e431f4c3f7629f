import ZfsReplication.Transaction.Basic

/-!
# Transaction lists

A list of transactions runs them in order and stops at the first failure; nothing applied is rolled
back. Whoever subscribes to a list receives its events: each transaction becoming part of the
observed list (`linked`), starting and finishing, and the list being cleared. A new subscription
replaces the previous one and links every transaction present, so events always go to the latest
receiver.

The list renders as a table with one column per description field present in any transaction.
-/

set_option autoImplicit false

namespace ZfsReplication

open Shell

/-- A notification to the subscriber of a list. -/
inductive TransactionEvent where
  | linked (index : Nat)
  | started (index : Nat)
  | finished (index : Nat) (failed : Bool)
  | cleared
deriving DecidableEq, Repr

/-- An event as received by one receiver, receivers numbered from 0 in order of subscription. -/
structure Delivery where
  receiver : Nat
  event : TransactionEvent
deriving DecidableEq, Repr

/-- An ordered list of transactions with its subscription. -/
structure TransactionList where
  transactions : List Transaction := []
  /-- The current receiver, if anyone subscribed. -/
  receiver : Option Nat := none
  /-- The number of subscriptions so far. -/
  subscriptions : Nat := 0
  /-- Every event delivered so far, in order. -/
  deliveries : List Delivery := []

namespace TransactionList

/-- Delivers `e` to the current receiver, if any. -/
def notify (l : TransactionList) (e : TransactionEvent) : TransactionList :=
  match l.receiver with
  | some r => { l with deliveries := l.deliveries ++ [⟨r, e⟩] }
  | none => l

/-- The number of transactions. -/
def size (l : TransactionList) : Nat := l.transactions.length

/-- Appends a transaction, linking it when someone subscribed. -/
def push (l : TransactionList) (t : Transaction) : TransactionList :=
  { l.notify (.linked l.size) with transactions := l.transactions ++ [t] }

/-- Appends transactions one by one. -/
def extend (l : TransactionList) (ts : List Transaction) : TransactionList :=
  ts.foldl push l

/-- A list of the given transactions, without subscription. -/
def ofList (ts : List Transaction) : TransactionList := ({} : TransactionList).extend ts

/-- Subscribes a new receiver, which replaces the previous one and gets every present transaction
linked, in order. -/
def subscribe (l : TransactionList) : TransactionList :=
  let r := l.subscriptions
  { l with receiver := some r, subscriptions := r + 1,
           deliveries := l.deliveries ++ (List.range l.size).map fun i => ⟨r, .linked i⟩ }

/-- Removes all transactions and tells the receiver. -/
def clear (l : TransactionList) : TransactionList :=
  { l.notify .cleared with transactions := [] }

/-- The fields present in any transaction, in column order. -/
def columns (l : TransactionList) : List Field :=
  Field.all.filter fun f => l.transactions.any fun t => t.details.keys.contains f

/-- Runs the transactions from position `index` on: a complete one with an error stops the run
with that error, a complete one without is skipped, and any other is run, announced by `started`
and `finished`, stopping at its failure. -/
def runFrom (index : Nat) : List Transaction → TransactionList →
    Exec (TransactionList × Except ExecutionError Unit)
  | [], l => pure (l, .ok ())
  | t :: rest, l =>
    if t.state == .complete then
      match t.error with
      | some e => pure (l, .error e)
      | none => runFrom (index + 1) rest l
    else do
      let l := if t.state == .pending then l.notify (.started index) else l
      let t' ← t.run
      let l := if t.state == .pending then l.notify (.finished index t'.error.isSome) else l
      let l := { l with transactions := l.transactions.set index t' }
      match t'.error with
      | some e => pure (l, .error e)
      | none => runFrom (index + 1) rest l

/-- Runs all transactions in order, stopping at the first failure. -/
def run (l : TransactionList) : Exec (TransactionList × Except ExecutionError Unit) :=
  runFrom 0 l.transactions l

/-- `s` padded with spaces to `width` characters. -/
def padRight (width : Nat) (s : String) : String :=
  s ++ String.ofList (List.replicate (width - s.length) ' ')

/-- The table: a header of the column names and a row per transaction, each cell padded to the
widest cell of its column, cells separated by two spaces, trailing blanks removed, every line
ended by a newline. -/
def render (l : TransactionList) : String :=
  let cols := l.columns
  let header := cols.map Field.name
  let rows := l.transactions.map fun t =>
    cols.map fun f => ((t.details.get? f).map PropertyValue.render).getD ""
  let table := header :: rows
  let widths := cols.zipIdx.map fun (_, i) =>
    table.foldl (fun w row => max w ((row[i]?.map String.length).getD 0)) 0
  String.join (table.map fun row =>
    Text.trimEnd ("  ".intercalate ((row.zip widths).map fun (cell, w) => padRight w cell)) ++ "\n")

end TransactionList

end ZfsReplication
