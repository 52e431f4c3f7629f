import Mathlib
import ZfsReplication.Fixture
import ZfsReplication.Plan.Planner
import ZfsReplication.Proofs.Chain.Views
import ZfsReplication.Proofs.Pool.Listing

/-!
# The items of a plan

A planner goes through its items in order and plans each on its own, so a plan that succeeds is
what each item planned, one after the other (`collect_progress`). The items of the transfer and
retention planners are the datasets of the two pools matched by relative name, and each pair is
compared through its chains: a dataset's snapshots in creation order, under tagging only the
marked ones (`Dataset.chain`, `ofPair_eq_ok`). A planned transaction is read by the snapshot it
delivers or removes (`Transaction.received?`, `Transaction.removed?`).
-/

set_option autoImplicit false

namespace ZfsReplication

/-! ## Collecting a plan -/

@[simp] theorem except_mapError_ok {ε ε' β : Type} (f : ε → ε') (b : β) :
    (Except.ok b : Except ε β).mapError f = .ok b := rfl

@[simp] theorem except_mapError_error {ε ε' β : Type} (f : ε → ε') (e : ε) :
    (Except.error e : Except ε β).mapError f = .error (f e) := rfl

theorem except_mapError_eq_ok {ε ε' β : Type} {f : ε → ε'} {x : Except ε β} {b : β} :
    x.mapError f = .ok b ↔ x = .ok b := by
  cases x <;> simp

theorem mapM_congr {β γ ε : Type} {f g : β → Except ε γ} {l : List β}
    (same : ∀ x ∈ l, f x = g x) : l.mapM f = l.mapM g := by
  induction l with
  | nil => rfl
  | cons x rest ih =>
    rw [List.mapM_cons, List.mapM_cons, same x List.mem_cons_self,
      ih fun y member => same y (List.mem_cons_of_mem x member)]

section Collect

variable {β : Type} (plan : β → Except PlanError (Option (List Transaction)))

theorem planItems_of_mapM {items : List β} {steps : List (Option (List Transaction))}
    (all : items.mapM plan = .ok steps) : planItems plan items = (steps, none) := by
  induction items generalizing steps with
  | nil =>
    cases all
    rfl
  | cons x rest ih =>
    rw [List.mapM_cons] at all
    obtain ⟨step, first, all⟩ := except_bind_eq_ok.1 all
    obtain ⟨later, others, planned⟩ := except_bind_eq_ok.1 all
    cases planned
    simp [planItems, first, ih others]

theorem planItems_of_mapM_error {items : List β} {e : PlanError}
    (failed : items.mapM plan = .error e) : ∃ steps, planItems plan items = (steps, some e) := by
  induction items with
  | nil => cases failed
  | cons x rest ih =>
    rw [List.mapM_cons] at failed
    cases first : plan x with
    | error e' =>
      rw [first] at failed
      cases failed
      exact ⟨[], by simp [planItems, first]⟩
    | ok step =>
      rw [first, except_ok_bind] at failed
      cases others : rest.mapM plan with
      | error e' =>
        rw [others] at failed
        cases failed
        obtain ⟨steps, later⟩ := ih others
        exact ⟨step :: steps, by simp [planItems, first, later]⟩
      | ok later =>
        rw [others] at failed
        cases failed

/-- A plan collects to the items' plans in order, or to the first item's failure. -/
theorem collect_progress (items : List β) :
    (progress items plan).collect =
      (fun steps => (steps.filterMap id).flatten) <$> items.mapM plan := by
  cases all : items.mapM plan with
  | error e =>
    obtain ⟨steps, failed⟩ := planItems_of_mapM_error plan all
    simp [progress, Progress.collect, failed]
  | ok steps => simp [progress, Progress.collect, planItems_of_mapM plan all]

theorem mapM_ok_of_mem {items : List β} {steps : List (Option (List Transaction))}
    (all : items.mapM plan = .ok steps) {x : β} (member : x ∈ items) :
    ∃ step, plan x = .ok step := by
  induction items generalizing steps with
  | nil => cases member
  | cons y rest ih =>
    rw [List.mapM_cons] at all
    obtain ⟨step, first, all⟩ := except_bind_eq_ok.1 all
    obtain ⟨later, others, -⟩ := except_bind_eq_ok.1 all
    rcases List.mem_cons.1 member with rfl | inRest
    · exact ⟨step, first⟩
    · exact ih others inRest

/-- A successful run relates each item, in order, to the block it plans, when every item's plan is
so related to it; the run collects to the blocks one after another. -/
theorem forall₂_of_mapM {R : β → List Transaction → Prop} {items : List β}
    {steps : List (Option (List Transaction))} (all : items.mapM plan = .ok steps)
    (each : ∀ x ∈ items, ∀ step, plan x = .ok step → R x (step.getD [])) :
    List.Forall₂ R items (steps.map (·.getD [])) ∧
      (steps.filterMap id).flatten = (steps.map (·.getD [])).flatten := by
  induction items generalizing steps with
  | nil =>
    cases all
    exact ⟨.nil, rfl⟩
  | cons x rest ih =>
    rw [List.mapM_cons] at all
    obtain ⟨step, first, all⟩ := except_bind_eq_ok.1 all
    obtain ⟨later, others, planned⟩ := except_bind_eq_ok.1 all
    cases planned
    obtain ⟨related, flat⟩ := ih others fun y member => each y (List.mem_cons_of_mem x member)
    refine ⟨.cons (each x List.mem_cons_self step first) related, ?_⟩
    cases step with
    | none => simpa [List.filterMap_cons_none] using flat
    | some ts => simpa [List.filterMap_cons_some] using flat

/-- What a successful run plans is what its items plan, when each item's plan is known. -/
theorem flatten_of_mapM {items : List β} {steps : List (Option (List Transaction))}
    (g : β → List Transaction) (all : items.mapM plan = .ok steps)
    (each : ∀ x ∈ items, ∀ step, plan x = .ok step → step.getD [] = g x) :
    (steps.filterMap id).flatten = items.flatMap g := by
  obtain ⟨related, flat⟩ := forall₂_of_mapM (R := fun x block => block = g x) plan all each
  have blocks : steps.map (·.getD []) = items.map g := by
    have same : List.Forall₂ (· = ·) (steps.map (·.getD [])) (items.map g) :=
      List.forall₂_map_right_iff.2 related.flip
    rwa [List.forall₂_eq_eq_eq] at same
  rw [flat, blocks, List.flatMap_def]

theorem collect_eq_ok {items : List β} {txs : List Transaction}
    (collected : (progress items plan).collect = .ok txs) :
    ∃ steps, items.mapM plan = .ok steps ∧ txs = (steps.filterMap id).flatten := by
  rw [collect_progress] at collected
  obtain ⟨steps, all, rfl⟩ := except_map_eq_ok.1 collected
  exact ⟨steps, all, rfl⟩

theorem collect_quiet {items : List β} (quiet : ∀ x ∈ items, plan x = .ok none) :
    (progress items plan).collect = .ok [] := by
  have all : items.mapM plan = .ok (items.map fun _ => none) := by
    induction items with
    | nil => rfl
    | cons x rest ih =>
      rw [List.mapM_cons, quiet x List.mem_cons_self,
        ih fun y member => quiet y (List.mem_cons_of_mem x member)]
      rfl
  rw [collect_progress, all]
  simp

theorem collect_forall₂ {R : β → List Transaction → Prop} {items : List β} {txs : List Transaction}
    (each : ∀ x ∈ items, ∀ step, plan x = .ok step → R x (step.getD []))
    (collected : (progress items plan).collect = .ok txs) :
    ∃ blocks, List.Forall₂ R items blocks ∧ txs = blocks.flatten := by
  obtain ⟨steps, all, rfl⟩ := collect_eq_ok _ collected
  obtain ⟨related, flat⟩ := forall₂_of_mapM _ all each
  exact ⟨_, related, flat⟩

/-- Planning items that map to others planned alike makes the same progress. -/
theorem progress_map {γ : Type} (plan' : γ → Except PlanError (Option (List Transaction)))
    (g : β → γ) {items : List β} (same : ∀ x ∈ items, plan' (g x) = plan x) :
    progress (items.map g) plan' = progress items plan := by
  have steps : planItems plan' (items.map g) = planItems plan items := by
    induction items with
    | nil => rfl
    | cons x rest ih =>
      simp only [List.map_cons, planItems, same x List.mem_cons_self,
        ih fun y member => same y (List.mem_cons_of_mem x member)]
  simp only [progress, steps, List.length_map]

end Collect

theorem collected_of_toOption {β : Type} {planned : Except PlanError Progress}
    {f : List Transaction → β} {v : β}
    (summary : (planned.toOption.bind (·.collect.toOption)).map f = some v) :
    ∃ prog txs, planned = .ok prog ∧ prog.collect = .ok txs ∧ f txs = v := by
  cases planned with
  | error e => cases summary
  | ok prog =>
    cases collected : prog.collect with
    | error e => simp [Except.toOption, collected] at summary
    | ok txs =>
      simp only [Except.toOption, collected, Option.bind_some, Option.map_some,
        Option.some.injEq] at summary
      exact ⟨prog, txs, rfl, collected, summary⟩

theorem ok_of_toOption {ε β γ : Type} {x : Except ε β} {f : β → γ} {v : γ}
    (summary : x.toOption.map f = some v) : ∃ b, x = .ok b ∧ f b = v := by
  cases x with
  | error e => simp [Except.toOption] at summary
  | ok b => exact ⟨b, rfl, Option.some.inj summary⟩

/-- A transfer run's transactions are the collected transfer plan followed by the target property
transactions. -/
theorem Pool.backupTransactions_eq_ok {S T : Pool} {txs : List Transaction} :
    S.backupTransactions T = .ok txs ↔
      ∃ prog transfers, S.backupPlan T = .ok prog ∧ prog.collect = .ok transfers ∧
        txs = transfers ++ S.targetPropertyTransactions := by
  unfold backupTransactions
  constructor
  · intro listed
    obtain ⟨prog, planned, listed⟩ := except_bind_eq_ok.1 listed
    obtain ⟨transfers, collected, listed⟩ := except_bind_eq_ok.1 listed
    exact ⟨prog, transfers, planned, collected, (Except.ok.inj listed).symm⟩
  · rintro ⟨prog, transfers, planned, collected, rfl⟩
    rw [planned, except_ok_bind, collected, except_ok_bind]
    rfl

/-- Whether a kind of transaction sends a snapshot to the target. -/
def TransactionKind.isTransfer : TransactionKind → Bool
  | .transferSnapshot | .transferSnapshotIncremental => true
  | _ => false

/-- The snapshot a transaction is about, by the relative name of its dataset and its own name. -/
def Transaction.snapshot? (t : Transaction) : Option (String × String) :=
  ((t.details.get? .snapshotSubparent).bind PropertyValue.text?).bind fun sub =>
    ((t.details.get? .snapshotName).bind PropertyValue.text?).map (sub, ·)

/-- The snapshot a transfer delivers to the target; nothing for any other transaction. -/
def Transaction.received? (t : Transaction) : Option (String × String) :=
  if t.details.kind.isTransfer then t.snapshot? else none

/-- The snapshot a removal destroys; nothing for any other transaction. -/
def Transaction.removed? (t : Transaction) : Option (String × String) :=
  if t.details.kind = .cleanupSnapshot then t.snapshot? else none

/-! ## Pairing datasets by relative name -/

theorem nodup_eraseDups_of_lawful {α : Type} [BEq α] [LawfulBEq α] (l : List α) :
    l.eraseDups.Nodup := by
  -- each step keeps the head and drops its copies from a shorter tail
  induction h : l.length using Nat.strong_induction_on generalizing l with
  | _ n ih =>
    cases l with
    | nil => simp
    | cons a as =>
      rw [List.eraseDups_cons, List.nodup_cons]
      have shorter : (as.filter fun b => !b == a).length < n := by
        have := List.length_filter_le (fun b => !b == a) as
        simp only [List.length_cons] at h
        omega
      exact ⟨by simp, ih _ shorter _ rfl⟩

theorem subname_of_lastNamed {ds : List Dataset} {n : String} {d : Dataset}
    (found : (ds.filter (·.subname == n)).getLast? = some d) : d.subname = n := by
  have member := List.mem_of_getLast? found
  simpa using (List.mem_filter.1 member).2

theorem Paired.subname_of_ofPair? {x y : Option Dataset} {item : Paired Dataset} {n : String}
    (xNamed : ∀ d ∈ x, d.subname = n) (yNamed : ∀ d ∈ y, d.subname = n)
    (paired : Paired.ofPair? x y = some item) : item.item.subname = n := by
  cases x <;> cases y <;> cases paired <;> simp_all [Paired.item]

/-- Matched pairs come in strictly increasing order of relative name, one pair per name. -/
theorem matchDatasets_sorted (a b : Option Pool) :
    ((matchDatasets a b).map (·.item.subname)).Pairwise (· < ·) := by
  unfold matchDatasets
  dsimp only
  generalize ((a.map (·.datasets)).getD []) = da
  generalize ((b.map (·.datasets)).getD []) = db
  generalize ((da ++ db).map (·.subname)) = all
  -- the sorted names have no repeats, so they increase strictly; the pairs keep a sublist of them
  have ordered : (all.eraseDups.mergeSort fun x y => decide (x ≤ y)).Pairwise
      fun x y => decide (x ≤ y) :=
    List.pairwise_mergeSort (fun x y z => by simpa using le_trans) (fun x y => by simpa using le_total x y)
      all.eraseDups
  have unique := (List.mergeSort_perm all.eraseDups fun x y : String => decide (x ≤ y)).nodup_iff.2
    (nodup_eraseDups_of_lawful all)
  refine ((ordered.and unique).imp fun ⟨le, ne⟩ => lt_of_le_of_ne (by simpa using le) ne).sublist
    (map_filterMap_sublist _ fun n item paired => Paired.subname_of_ofPair?
      (fun d found => subname_of_lastNamed found) (fun d found => subname_of_lastNamed found) paired)

theorem Paired.a?_of_ofPair? {α : Type} {x y : Option α} {item : Paired α}
    (paired : Paired.ofPair? x y = some item) : item.a? = x := by
  cases x <;> cases y <;> cases paired <;> rfl

theorem Paired.b?_of_ofPair? {α : Type} {x y : Option α} {item : Paired α}
    (paired : Paired.ofPair? x y = some item) : item.b? = y := by
  cases x <;> cases y <;> cases paired <;> rfl

/-- The dataset that pairing by relative name takes for `n`: the last one of that relative name. -/
def Pool.datasetAt (p : Pool) (n : String) : Option Dataset :=
  (p.datasets.filter (·.subname == n)).getLast?

theorem Pool.mem_matchDatasets {a b : Pool} {item : Paired Dataset} :
    item ∈ matchDatasets (some a) (some b) ↔
      ∃ n ∈ (a.datasets ++ b.datasets).map (·.subname),
        Paired.ofPair? (a.datasetAt n) (b.datasetAt n) = some item := by
  unfold matchDatasets datasetAt
  simp only [Option.map_some, Option.getD_some, List.mem_filterMap, List.mem_mergeSort,
    List.mem_eraseDups]

theorem Pool.datasetAt_map (p : Pool) (f : Dataset → Dataset)
    (keeps : ∀ d, (f d).subname = d.subname) (n : String) :
    ({ p with datasets := p.datasets.map f } : Pool).datasetAt n = (p.datasetAt n).map f := by
  unfold datasetAt
  rw [List.filter_map, ← List.getLast?_map]
  congr 2
  exact List.filter_congr fun d _ => by simp [keeps]

theorem mem_datasets_of_matchDatasets {a : Pool} {b : Option Pool} {item : Paired Dataset}
    (member : item ∈ matchDatasets (some a) b) {d : Dataset} (found : item.a? = some d) :
    d ∈ a.datasets := by
  unfold matchDatasets at member
  obtain ⟨n, -, paired⟩ := List.mem_filterMap.1 member
  rw [Paired.a?_of_ofPair? paired] at found
  exact List.mem_of_mem_filter (List.mem_of_getLast? found)

theorem matchDatasets_inj {a b : Option Pool} {item item' : Paired Dataset}
    (member : item ∈ matchDatasets a b) (member' : item' ∈ matchDatasets a b)
    (same : item.item.subname = item'.item.subname) : item = item' :=
  List.inj_on_of_nodup_map ((matchDatasets_sorted a b).imp ne_of_lt) member member' same

/-- The pair with its side `a` changed by `f`. -/
def Paired.mapA {α : Type} (f : α → α) : Paired α → Paired α
  | .onlyA x => .onlyA (f x)
  | .onlyB y => .onlyB y
  | .both x y => .both (f x) y

theorem Paired.ofPair?_map {α : Type} (f : α → α) (x y : Option α) :
    Paired.ofPair? (x.map f) y = (Paired.ofPair? x y).map (Paired.mapA f) := by
  cases x <;> cases y <;> rfl

/-- Changing the datasets of side `a` without changing their relative names changes the pairs
alike. -/
theorem matchDatasets_map (a b : Pool) (f : Dataset → Dataset)
    (keeps : ∀ d, (f d).subname = d.subname) :
    matchDatasets (some { a with datasets := a.datasets.map f }) (some b) =
      (matchDatasets (some a) (some b)).map (Paired.mapA f) := by
  have subnames : (a.datasets.map f ++ b.datasets).map (·.subname) =
      (a.datasets ++ b.datasets).map (·.subname) := by
    simp only [List.map_append, List.map_map]
    congr 2
    funext d
    exact keeps d
  have last : ∀ n, ((a.datasets.map f).filter (·.subname == n)).getLast? =
      ((a.datasets.filter (·.subname == n)).getLast?).map f :=
    Pool.datasetAt_map a f keeps
  unfold matchDatasets
  simp only [Option.map_some, Option.getD_some, subnames, List.map_filterMap, last,
    Paired.ofPair?_map]

/-! ## The chains of a dataset pair -/

@[simp] theorem Snapshot.named (s : Snapshot) : Named.name s = s.name := rfl

/-- The snapshots of a dataset that replication compares: all of them in creation order, or under
tagging only the marked ones. -/
def Dataset.chain (d : Dataset) (tagging : Bool) : List Snapshot :=
  if tagging then d.snapshots.filter Snapshot.isMarked else d.snapshots

theorem Dataset.chain_subset (d : Dataset) (tagging : Bool) : d.chain tagging ⊆ d.snapshots := by
  cases tagging
  · exact List.Subset.refl _
  · exact List.filter_sublist.subset

theorem Dataset.nodup_chain {d : Dataset} (unique : (Chain.names d.snapshots).Nodup) (tagging : Bool) :
    (Chain.names (d.chain tagging)).Nodup := by
  cases tagging
  · exact unique
  · exact unique.sublist (List.filter_sublist.map _)

namespace DatasetComparison

theorem prepare_fst (d : Option Dataset) (tagging : Bool) :
    (prepare d tagging).1 = (d.map (·.chain tagging)).getD [] := by
  cases d with
  | none => cases tagging <;> simp [prepare, Chain.squash_kept]
  | some d => cases tagging <;> simp [prepare, Dataset.chain, Chain.squash_kept]

/-- Comparing a pair aligns the chains of its two sides. -/
theorem ofPair_eq_ok {item : Paired Dataset} {tagging : Bool} {c : DatasetComparison} :
    ofPair item tagging = .ok c ↔
      ∃ merged, Chain.align ((item.a?.map (·.chain tagging)).getD [])
          ((item.b?.map (·.chain tagging)).getD []) = .ok merged ∧
        c = ⟨item.a?, item.b?, merged, (prepare item.a? tagging).2,
          (prepare item.b? tagging).2⟩ := by
  rw [← prepare_fst, ← prepare_fst]
  unfold ofPair
  cases aligned : Chain.align (prepare item.a? tagging).1 (prepare item.b? tagging).1 with
  | error e => simp [aligned]
  | ok merged => simp [aligned, eq_comm]

end DatasetComparison

/-! ## Sample pools -/

/-- The source `tank` with the marked snapshots `a` to `d`. -/
def Pool.sourceAhead : Pool := Fixture.pool .source Fixture.config [("", ["a", "b", "c", "d"])]

/-- The target `backup` with the marked snapshots `a` to `c`. -/
def Pool.targetBehind : Pool := Fixture.pool .target Fixture.config [("", ["a", "b", "c"])]

end ZfsReplication
