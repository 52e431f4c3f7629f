import Mathlib
import ZfsReplication.Proofs.Plan.Transfer
import ZfsReplication.Proofs.Pool.Listing

/-!
# Planning again after the transfers

The target takes in what a transfer plan sends: each transfer's snapshot becomes the newest of the
target dataset named by joining the target root and the relative name of its source dataset, which
is created when missing (`Pool.afterTransfers`). Planning again from the same source against the
target so changed sends nothing (`Pool.backupPlan_afterTransfers_empty`), and a second transfer run
plans just the target property transactions (`Pool.backupTransactions_afterTransfers`), provided
every relative name sent under reaches the datasets that pairing sees under it: joined to the root
it reads back as itself, and in the target just the datasets of the joined name have it.

A relative name with a blank at an end fails the first: the joined name loses the blank and is
paired under another relative name, so the next run sends the same snapshot again
(`Pool.backupTransactions_resends_padded`). A target holding `backup` beside `backup/`, both of relative
name empty, fails the second.

The argument goes relative name by relative name. After receiving, the dataset that pairing takes
under a name has received exactly what was sent under it (`Pool.datasetAt_receiveAll`): the head
the first plan found for that pair. A target chain that received the head in place of its snapshots
of the same names leaves nothing newer in the source (`Chain.align_after_receiving`).
-/

set_option autoImplicit false

namespace ZfsReplication

open Chain Shell

/-! ## What a transfer delivers -/

theorem Field.rank_inj {f g : Field} (same : f.rank = g.rank) : f = g := by
  cases f <;> cases g <;> simp [Field.rank] at same ⊢

namespace Details

theorem lookup_insertField (f g : Field) (v : PropertyValue)
    (fields : List (Field × PropertyValue)) :
    (insertField g v fields).lookup f = if f = g then some v else fields.lookup f := by
  induction fields with
  | nil => by_cases same : f = g <;> simp [insertField, List.lookup_cons, same, beq_false_of_ne]
  | cons entry rest ih =>
    obtain ⟨h, w⟩ := entry
    unfold insertField
    split
    · by_cases same : f = g <;> simp [List.lookup_cons, same, beq_false_of_ne]
    · split
      · next _ equal =>
        obtain rfl : g = h := Field.rank_inj (by simpa using equal)
        by_cases same : f = g <;> simp [List.lookup_cons, same, beq_false_of_ne]
      · next _ unequal =>
        have differ : g ≠ h := fun same => by simp [same] at unequal
        by_cases atH : f = h
        · subst atH
          simp [Ne.symm differ]
        · simp [List.lookup_cons, atH, ih, beq_false_of_ne]

theorem get?_set (d : Details) {f g : Field} (v : PropertyValue) (notKind : g ≠ .kind) :
    (d.set g v).get? f = if f = g then some v else d.get? f := by
  unfold set get?
  by_cases kindF : f = .kind
  · subst kindF
    simp [Ne.symm notKind, notKind]
  · simp [notKind, kindF, lookup_insertField]

theorem kind_set (d : Details) (g : Field) (v : PropertyValue) : (d.set g v).kind = d.kind := by
  unfold set
  split <;> rfl

end Details

namespace Snapshot

theorem received?_backupTransaction {s : Snapshot} {ancestor : Option Snapshot} {n : Nat}
    {config : Config} {t : Transaction} (sent : s.backupTransaction ancestor n config = .ok t) :
    t.received? = some (s.subparent, s.name) := by
  unfold backupTransaction at sent
  obtain ⟨⟨⟩, -, built⟩ := except_bind_eq_ok.1 sent
  cases built
  unfold Transaction.received? Transaction.snapshot? Transaction.new
  dsimp only
  -- whether incremental, tagged or with an amount written, the two names read back as set
  split <;> split <;> split <;>
    simp [Details.get?_set, Details.kind_set, Details.ofKind,
      TransactionKind.isTransfer, PropertyValue.text?]

theorem received?_tagTransaction {s : Snapshot} {config : Config} {t : Transaction}
    (tagged : s.tagTransaction config = .ok t) : t.received? = none := by
  unfold tagTransaction at tagged
  obtain ⟨⟨⟩, -, built⟩ := except_bind_eq_ok.1 tagged
  cases built
  simp [Transaction.received?, Transaction.new, Details.kind_set, Details.ofKind,
    TransactionKind.isTransfer]

end Snapshot

theorem Pool.targetPropertyTransactions_received (p : Pool) :
    p.targetPropertyTransactions.filterMap Transaction.received? = [] := by
  unfold Pool.targetPropertyTransactions
  cases p.config.compatibility.targetSambaNoshare <;>
    cases p.config.compatibility.targetAutosnapshotIgnore <;>
    simp [Transaction.received?, Transaction.new, Details.kind_set, Details.ofKind,
      TransactionKind.isTransfer]

theorem Dataset.received?_sendPlan {d : Dataset} {config : Config} {s : Snapshot}
    {planned : List Transaction} (sent : d.sendPlan config s = .ok planned) :
    planned.filterMap Transaction.received? = [(s.subparent, s.name)] := by
  unfold Dataset.sendPlan at sent
  obtain ⟨backup, backedUp, sent⟩ := except_bind_eq_ok.1 sent
  have first := Snapshot.received?_backupTransaction backedUp
  split at sent
  · obtain ⟨tag, tagged, done⟩ := except_bind_eq_ok.1 sent
    cases done
    simp [first, Snapshot.received?_tagTransaction tagged]
  · cases sent
    simp [first]

theorem Dataset.received?_mapM_sendPlan {d : Dataset} {config : Config} {head : List Snapshot}
    {planned : List (List Transaction)} (all : head.mapM (d.sendPlan config) = .ok planned) :
    planned.flatten.filterMap Transaction.received? = head.map fun s => (s.subparent, s.name) := by
  induction head generalizing planned with
  | nil =>
    cases all
    rfl
  | cons s rest ih =>
    rw [List.mapM_cons] at all
    obtain ⟨first, sent, all⟩ := except_bind_eq_ok.1 all
    obtain ⟨later, others, done⟩ := except_bind_eq_ok.1 all
    cases done
    rw [List.flatten_cons, List.filterMap_append, Dataset.received?_sendPlan sent, ih others]
    rfl

/-! ## Receiving on the target -/

namespace Dataset

/-- The copy that receiving the snapshot `name` leaves in this dataset, marked under tagging. -/
def received (d : Dataset) (config : Config) (name : String) : Snapshot :=
  ⟨name, d.name, d.subname,
    if config.compatibility.tagging then
      [⟨markerProperty, some (.text markerValue), some (.text "local")⟩]
    else [],
    .target⟩

/-- This dataset once it received the snapshot `name`, which becomes its newest. -/
def receive (d : Dataset) (config : Config) (name : String) : Dataset :=
  { d with snapshots := d.snapshots.filter (·.name != name) ++ [d.received config name] }

/-- This dataset once it received the snapshots `ns` in order. -/
def receiveAll (d : Dataset) (config : Config) (ns : List String) : Dataset :=
  ns.foldl (fun d n => d.receive config n) d

/-- The empty dataset that receiving into the relative name `sub` creates on the target. -/
def created (config : Config) (sub : String) : Dataset :=
  ⟨Name.join (config.root .target) sub, sub, [], [], .target⟩

@[simp] theorem name_receive (d : Dataset) (config : Config) (name : String) :
    (d.receive config name).name = d.name := rfl

@[simp] theorem subname_receive (d : Dataset) (config : Config) (name : String) :
    (d.receive config name).subname = d.subname := rfl

@[simp] theorem subname_created (config : Config) (sub : String) :
    (created config sub).subname = sub := rfl

theorem received_isMarked (d : Dataset) {config : Config}
    (tagging : config.compatibility.tagging = true) (name : String) : (d.received config name).isMarked = true := by
  simp [received, tagging, Snapshot.isMarked, Snapshot.get?, lookupProperty, Property.text?,
    PropertyValue.text?]

theorem chain_receive (d : Dataset) (config : Config) (name : String) :
    (d.receive config name).chain config.compatibility.tagging =
      (d.chain config.compatibility.tagging).filter (·.name != name) ++
        [d.received config name] := by
  cases tagging : config.compatibility.tagging with
  | false => simp [chain, receive]
  | true =>
    simp only [chain, receive, ↓reduceIte, List.filter_append, List.filter_filter,
      received_isMarked d tagging, List.filter_cons_of_pos, List.filter_nil]
    congr 1
    exact List.filter_congr fun s _ => Bool.and_comm _ _

theorem chain_receiveAll (d : Dataset) (config : Config) {ns : List String} (unique : ns.Nodup) :
    (d.receiveAll config ns).chain config.compatibility.tagging =
      (d.chain config.compatibility.tagging).filter (·.name ∉ ns) ++
        ns.map (d.received config) := by
  induction ns generalizing d with
  | nil => simp [receiveAll]
  | cons n rest ih =>
    rw [List.nodup_cons] at unique
    have kept : [d.received config n].filter (·.name ∉ rest) = [d.received config n] := by
      simp [received, unique.1]
    have sameCopies : (d.receive config n).received config = d.received config := rfl
    rw [receiveAll, List.foldl_cons, ← receiveAll, ih _ unique.2, chain_receive, List.filter_append,
      List.filter_filter, kept, sameCopies, List.append_assoc, List.singleton_append, List.map_cons]
    congr 1
    refine List.filter_congr fun s _ => ?_
    by_cases named : s.name = n <;> simp [named, Bool.and_comm]

end Dataset

/-- The relative name `sub`, joined to the target root, reads back as itself. -/
def Config.ReadsBack (config : Config) (sub : String) : Prop :=
  Name.relative (config.root .target) (Name.join (config.root .target) sub) = some sub

instance (config : Config) (sub : String) : Decidable (config.ReadsBack sub) :=
  inferInstanceAs (Decidable (_ = _))

/-- Just the datasets named by joining the target root and `sub` have the relative name `sub`. -/
def Pool.Unaliased (p : Pool) (config : Config) (sub : String) : Prop :=
  ∀ u ∈ p.datasets, u.subname = sub ↔ u.name = Name.join (config.root .target) sub

instance (p : Pool) (config : Config) (sub : String) : Decidable (p.Unaliased config sub) :=
  inferInstanceAs (Decidable (∀ u ∈ p.datasets, _))

namespace Pool

theorem datasetAt_snoc (p : Pool) (x : Dataset) (n : String) :
    ({ p with datasets := p.datasets ++ [x] } : Pool).datasetAt n =
      if x.subname = n then some x else p.datasetAt n := by
  unfold datasetAt
  by_cases named : x.subname = n <;> simp [named]

/-- The target once the snapshot `name` of the source dataset of relative name `sub` is received
into the dataset named by joining the target root and `sub`: that dataset takes it as newest
snapshot, and a pool without a dataset of that name gains one, with the relative name a listing
gives it (none when the name does not lie below the root). -/
def receive (p : Pool) (config : Config) (sub name : String) : Pool :=
  let root := config.root .target
  let target := Name.join root sub
  if p.datasets.any (·.name == target) then
    { p with
      datasets := p.datasets.map fun d => if d.name == target then d.receive config name else d }
  else
    { p with datasets := p.datasets ++
        ((Dataset.ofRows target [] [] .target root).map (·.receive config name)).toList }

/-- The target once it received the snapshots `received`, each given by the relative name of its
source dataset and its own name, in order. -/
def receiveAll (p : Pool) (config : Config) (received : List (String × String)) : Pool :=
  received.foldl (fun q r => q.receive config r.1 r.2) p

/-- The target once the transfers among `txs` took effect. -/
def afterTransfers (p : Pool) (config : Config) (txs : List Transaction) : Pool :=
  p.receiveAll config (txs.filterMap Transaction.received?)

theorem side_receive (p : Pool) (config : Config) (sub name : String) :
    (p.receive config sub name).side = p.side := by
  unfold receive
  dsimp only
  split <;> rfl

theorem side_receiveAll (p : Pool) (config : Config) (received : List (String × String)) :
    (p.receiveAll config received).side = p.side := by
  induction received generalizing p with
  | nil => rfl
  | cons r rest ih => rw [receiveAll, List.foldl_cons, ← receiveAll, ih, side_receive]

section Receiving

variable {config : Config} {sub : String}

theorem ofRows_created
    (roundTrip : config.ReadsBack sub) :
    Dataset.ofRows (Name.join (config.root .target) sub) [] [] .target (config.root .target) =
      some (Dataset.created config sub) := by
  unfold Config.ReadsBack at roundTrip
  simp [Dataset.ofRows, roundTrip, Dataset.created]

theorem datasetAt_receive {p : Pool} (name : String) (roundTrip : config.ReadsBack sub)
    (unaliased : p.Unaliased config sub) (n : String) :
    (p.receive config sub name).datasetAt n =
      if n = sub then
        some (((p.datasetAt sub).getD (Dataset.created config sub)).receive config name)
      else p.datasetAt n := by
  unfold receive
  dsimp only
  split
  · next present =>
    obtain ⟨u, member, named⟩ := List.any_eq_true.1 present
    rw [datasetAt_map p _ fun d => by split <;> rfl]
    cases last : p.datasetAt n with
    | none =>
      have differ : n ≠ sub := by
        rintro rfl
        have taken : u ∈ p.datasets.filter (·.subname == n) :=
          List.mem_filter.2 ⟨member, by simpa using (unaliased u member).2 (by simpa using named)⟩
        unfold datasetAt at last
        rw [List.getLast?_eq_none_iff] at last
        rw [last] at taken
        cases taken
      rw [if_neg differ]
      rfl
    | some v =>
      have vNamed : v.subname = n := subname_of_lastNamed last
      have inPool : v ∈ p.datasets := List.mem_of_mem_filter (List.mem_of_getLast? last)
      by_cases atSub : n = sub
      · subst atSub
        rw [if_pos rfl, Option.map_some, last, Option.getD_some,
          if_pos (beq_iff_eq.2 ((unaliased v inPool).1 vNamed))]
      · rw [if_neg atSub, Option.map_some,
          if_neg fun same => atSub (vNamed ▸ (unaliased v inPool).2 (beq_iff_eq.1 same))]
  · next absent =>
    rw [ofRows_created roundTrip, Option.map_some, Option.toList_some, datasetAt_snoc,
      Dataset.subname_receive, Dataset.subname_created]
    by_cases atSub : n = sub
    · subst atSub
      have none : p.datasetAt n = none := by
        cases taken : p.datasetAt n with
        | none => rfl
        | some v =>
          have inPool : v ∈ p.datasets := List.mem_of_mem_filter (List.mem_of_getLast? taken)
          simp only [List.any_eq_true, beq_iff_eq, not_exists, not_and] at absent
          exact absurd ((unaliased v inPool).1 (subname_of_lastNamed taken)) (absent v inPool)
      rw [if_pos rfl, if_pos rfl, none]
      rfl
    · rw [if_neg (Ne.symm atSub), if_neg atSub]

theorem unaliased_receive {p : Pool} {name other : String}
    (roundTrip : config.ReadsBack sub)
    (roundTrip' : config.ReadsBack other) (unaliased : p.Unaliased config other) :
    (p.receive config sub name).Unaliased config other := by
  unfold receive
  dsimp only
  split
  · intro u member
    obtain ⟨w, inPool, rfl⟩ := List.mem_map.1 member
    split
    · exact unaliased w inPool
    · exact unaliased w inPool
  · intro u member
    rw [ofRows_created roundTrip] at member
    rcases List.mem_append.1 member with inPool | added
    · exact unaliased u inPool
    · -- the created dataset: two relative names that read back alike are one
      obtain rfl : u = (Dataset.created config sub).receive config name := by simpa using added
      simp only [Dataset.subname_receive, Dataset.name_receive, Dataset.created]
      constructor
      · rintro rfl
        rfl
      · intro same
        unfold Config.ReadsBack at roundTrip roundTrip'
        rw [same] at roundTrip
        exact Option.some.inj (roundTrip.symm.trans roundTrip')

/-- After receiving a list of snapshots, the dataset pairing takes for `n` is the one it took
before (or the created one) having received, in order, the snapshots sent under `n`; nothing
changes for a relative name nothing was sent under. -/
theorem datasetAt_receiveAll (received : List (String × String))
    (roundTrip : ∀ r ∈ received, config.ReadsBack r.1)
    {p : Pool} (unaliased : ∀ r ∈ received, p.Unaliased config r.1) (n : String) :
    (p.receiveAll config received).datasetAt n =
      if n ∈ received.map Prod.fst then
        some (((p.datasetAt n).getD (Dataset.created config n)).receiveAll config
          ((received.filter (·.1 == n)).map Prod.snd))
      else p.datasetAt n := by
  -- one receive at a time, the relative names still reaching their datasets afterwards
  induction received generalizing p with
  | nil => simp [receiveAll]
  | cons r rest ih =>
    have first := datasetAt_receive r.2 (roundTrip r List.mem_cons_self)
      (unaliased r List.mem_cons_self)
    have later := ih (fun r' member => roundTrip r' (List.mem_cons_of_mem r member))
      (p := p.receive config r.1 r.2) (fun r' member => unaliased_receive
        (roundTrip r List.mem_cons_self) (roundTrip r' (List.mem_cons_of_mem r member))
        (unaliased r' (List.mem_cons_of_mem r member)))
    rw [receiveAll, List.foldl_cons, ← receiveAll, later, first]
    by_cases atR : n = r.1
    · subst atR
      by_cases again : r.1 ∈ rest.map Prod.fst
      · simp [again, Dataset.receiveAll]
      · have none : rest.filter (·.1 == r.1) = [] := List.filter_eq_nil_iff.2 fun x member same =>
          again (List.mem_map.2 ⟨x, member, beq_iff_eq.1 same⟩)
        simp [again, none, Dataset.receiveAll]
    · simp only [List.map_cons, List.mem_cons, atR, false_or, List.filter_cons,
        beq_false_of_ne (Ne.symm atR), Bool.false_eq_true, ↓reduceIte]

theorem chain_datasetAt_receiveAll (received : List (String × String))
    (roundTrip : ∀ r ∈ received, config.ReadsBack r.1)
    {p : Pool} (unaliased : ∀ r ∈ received, p.Unaliased config r.1) {n : String}
    (unique : ((received.filter (·.1 == n)).map Prod.snd).Nodup) :
    (((p.receiveAll config received).datasetAt n).map
        (·.chain config.compatibility.tagging)).getD [] =
      (((p.datasetAt n).map (·.chain config.compatibility.tagging)).getD []).filter
          (·.name ∉ (received.filter (·.1 == n)).map Prod.snd) ++
        ((received.filter (·.1 == n)).map Prod.snd).map
          (((p.datasetAt n).getD (Dataset.created config n)).received config) := by
  rw [datasetAt_receiveAll received roundTrip unaliased n]
  split
  · rw [Option.map_some, Option.getD_some, Dataset.chain_receiveAll _ _ unique]
    cases p.datasetAt n with
    | none => cases config.compatibility.tagging <;> rfl
    | some v => rfl
  · next absent =>
    have none : received.filter (·.1 == n) = [] := List.filter_eq_nil_iff.2 fun r member same =>
      absent (List.mem_map.2 ⟨r, member, beq_iff_eq.1 same⟩)
    simp [none]

end Receiving

end Pool

/-! ## Planning again -/

theorem filter_flatMap_keyed {β : Type} {items : List β} (key : β → String)
    (f : β → List (String × String)) (keyed : ∀ x ∈ items, ∀ r ∈ f x, r.1 = key x)
    (distinct : (items.map key).Nodup) {x : β} (member : x ∈ items) :
    (items.flatMap f).filter (·.1 == key x) = f x := by
  induction items with
  | nil => cases member
  | cons y rest ih =>
    rw [List.map_cons, List.nodup_cons] at distinct
    have others : ∀ z ∈ rest, key z ≠ key y := fun z inRest same =>
      distinct.1 (same ▸ List.mem_map_of_mem inRest)
    rw [List.flatMap_cons, List.filter_append]
    rcases List.mem_cons.1 member with rfl | inRest
    · have kept : (f x).filter (·.1 == key x) = f x := List.filter_eq_self.2 fun r inF => by
        simp [keyed x List.mem_cons_self r inF]
      have dropped : (rest.flatMap f).filter (·.1 == key x) = [] :=
        List.filter_eq_nil_iff.2 fun r inRest' => by
          obtain ⟨z, inRest, inF⟩ := List.mem_flatMap.1 inRest'
          simp [keyed z (List.mem_cons_of_mem _ inRest) r inF, others z inRest]
      rw [kept, dropped, List.append_nil]
    · have dropped : (f y).filter (·.1 == key x) = [] := List.filter_eq_nil_iff.2 fun r inF => by
        simp [keyed y List.mem_cons_self r inF, Ne.symm (others x inRest)]
      rw [dropped, List.nil_append,
        ih (fun z inRest r inF => keyed z (List.mem_cons_of_mem _ inRest) r inF) distinct.2 inRest]

namespace Pool

theorem backupStep_of_absent {p : Pool} {item : Paired Dataset} (absent : item.a? = none) :
    p.backupStep item = .ok none := by
  unfold backupStep
  split
  · rfl
  · rw [absent]

theorem backupStep_of_ignored {p : Pool} {item : Paired Dataset}
    (ignored : p.config.ignores item.item.subname = true) : p.backupStep item = .ok none := by
  unfold backupStep
  rw [if_pos ignored]

theorem backupStep_delivers {p : Pool} {item : Paired Dataset} {d : Dataset}
    {step : Option (List Transaction)} (found : item.a? = some d)
    (ignored : p.config.ignores d.subname = false) (planned : p.backupStep item = .ok step) :
    ∃ head, disjointHead ((d.chain p.config.compatibility.tagging).map some)
        (((item.b?.map (·.chain p.config.compatibility.tagging)).getD []).map some) = .ok head ∧
      (step.getD []).filterMap Transaction.received? = head.map fun s => (s.subparent, s.name) := by
  have aligned : ∃ merged, align (d.chain p.config.compatibility.tagging)
      ((item.b?.map (·.chain p.config.compatibility.tagging)).getD []) = .ok merged := by
    unfold backupStep at planned
    rw [Chain.item_of_a? found] at planned
    simp only [ignored, found, Bool.false_eq_true, ↓reduceIte] at planned
    obtain ⟨c, compared, -⟩ := except_bind_eq_ok.1 planned
    obtain ⟨merged, aligned, -⟩ :=
      DatasetComparison.ofPair_eq_ok.1 (except_mapError_eq_ok.1 compared)
    exact ⟨merged, by simpa [found] using aligned⟩
  obtain ⟨merged, aligned⟩ := aligned
  rw [backupStep_of_aligned found ignored aligned] at planned
  obtain ⟨head, headOf, planned⟩ := except_bind_eq_ok.1 planned
  refine ⟨head, except_mapError_eq_ok.1 headOf, ?_⟩
  split at planned
  · next empty =>
    cases planned
    simp [List.isEmpty_iff.1 empty]
  · obtain ⟨sends, all, done⟩ := except_bind_eq_ok.1 planned
    cases done
    exact Dataset.received?_mapM_sendPlan all

/-- A pair present on the source and not ignored has nothing left to send once its target chain
received the head it sent, in place of its snapshots of the same names. -/
theorem backupStep_after_receiving {p : Pool} {item : Paired Dataset} {d : Dataset}
    {sent head copies : List Snapshot} (found : item.a? = some d)
    (ignored : p.config.ignores d.subname = false)
    (headOf : disjointHead ((d.chain p.config.compatibility.tagging).map some) (sent.map some) =
      .ok head)
    (copied : names copies = names head)
    (received : (item.b?.map (·.chain p.config.compatibility.tagging)).getD [] =
      sent.filter (fun b => b.name ∉ names head) ++ copies) :
    p.backupStep item = .ok none := by
  obtain ⟨⟨merged, aligned⟩, quiet⟩ := align_after_receiving headOf copied
  simp only [Snapshot.named] at aligned quiet
  rw [← received] at aligned quiet
  rw [backupStep_of_aligned found ignored aligned, quiet]
  rfl

theorem backupStep_received {S other : Pool} (listed : S.Listed) {item : Paired Dataset}
    (member : item ∈ matchDatasets (some S) (some other)) {step : Option (List Transaction)}
    (planned : S.backupStep item = .ok step) :
    ∀ r ∈ (step.getD []).filterMap Transaction.received?, r.1 = item.item.subname := by
  cases found : item.a? with
  | none =>
    rw [backupStep_of_absent found] at planned
    cases planned
    simp
  | some d =>
    rw [Chain.item_of_a? found]
    cases ignored : S.config.ignores d.subname with
    | true =>
      rw [backupStep_of_ignored (by rw [Chain.item_of_a? found, ignored])] at planned
      cases planned
      simp
    | false =>
      obtain ⟨head, headOf, delivered⟩ := backupStep_delivers found ignored planned
      rw [delivered]
      intro r member'
      obtain ⟨s, inHead, rfl⟩ := List.mem_map.1 member'
      exact listed.subparent d (mem_datasets_of_matchDatasets member found) s
        (Dataset.chain_subset d _ ((disjointHead_suffix headOf).subset inHead))

theorem received_filter_subname {S T : Pool} (listed : S.Listed)
    {steps : List (Option (List Transaction))}
    (all : (matchDatasets (some S) (some T)).mapM S.backupStep = .ok steps)
    {item : Paired Dataset} (member : item ∈ matchDatasets (some S) (some T))
    {step : Option (List Transaction)} (stepped : S.backupStep item = .ok step) :
    ((steps.filterMap id).flatten.filterMap Transaction.received?).filter
        (·.1 == item.item.subname) = (step.getD []).filterMap Transaction.received? := by
  have distinct : ((matchDatasets (some S) (some T)).map (·.item.subname)).Nodup :=
    (matchDatasets_sorted _ _).imp ne_of_lt
  let block : Paired Dataset → List Transaction := fun item =>
    ((S.backupStep item).toOption.bind id).getD []
  have blockOf : ∀ item step, S.backupStep item = .ok step → block item = step.getD [] := by
    intro item step stepped
    simp [block, stepped, Except.toOption]
  have keyed : ∀ item ∈ matchDatasets (some S) (some T),
      ∀ r ∈ (block item).filterMap Transaction.received?, r.1 = item.item.subname := by
    intro item member
    obtain ⟨step, stepped⟩ := mapM_ok_of_mem _ all member
    rw [blockOf item step stepped]
    exact backupStep_received listed member stepped
  rw [flatten_of_mapM _ block all fun item _ step stepped => (blockOf item step stepped).symm,
    List.filterMap_flatMap, filter_flatMap_keyed _ _ keyed distinct member,
    blockOf item step stepped]

/-- Once the target received what a successful transfer plan sent, planning again against it sends
nothing, provided every relative name sent under reaches the datasets that pairing sees under it:
its joined name reads back as itself, and in the target just the datasets of that name have it. -/
theorem backupPlan_afterTransfers_empty {S T : Pool} (listed : S.Listed) {prog : Progress}
    {txs : List Transaction} (planned : S.backupPlan T = .ok prog)
    (collected : prog.collect = .ok txs)
    (roundTrip : ∀ r ∈ txs.filterMap Transaction.received?, S.config.ReadsBack r.1)
    (unaliased : ∀ r ∈ txs.filterMap Transaction.received?, T.Unaliased S.config r.1) :
    ∃ prog', S.backupPlan (T.afterTransfers S.config txs) = .ok prog' ∧ prog'.collect = .ok [] := by
  obtain ⟨sideS, sideT, rfl⟩ := backupPlan_eq_ok.1 planned
  obtain ⟨steps, all, rfl⟩ := collect_eq_ok _ collected
  refine ⟨_, backupPlan_eq_ok.2 ⟨sideS, (side_receiveAll _ _ _).trans sideT, rfl⟩,
    collect_quiet _ fun item' member => ?_⟩
  obtain ⟨n, -, paired⟩ := mem_matchDatasets.1 member
  cases foundS : S.datasetAt n with
  | none => exact backupStep_of_absent (by rw [Paired.a?_of_ofPair? paired, foundS])
  | some d =>
    have found : item'.a? = some d := by rw [Paired.a?_of_ofPair? paired, foundS]
    cases ignored : S.config.ignores d.subname with
    | true => exact backupStep_of_ignored (by rw [Chain.item_of_a? found, ignored])
    | false =>
      -- the pair of relative name `n` in the first run, and the head it sent
      have named : d.subname = n := subname_of_lastNamed foundS
      have inS : d ∈ S.datasets := List.mem_of_mem_filter (List.mem_of_getLast? foundS)
      obtain ⟨item, paired0⟩ : ∃ item, Paired.ofPair? (some d) (T.datasetAt n) = some item := by
        cases T.datasetAt n <;> exact ⟨_, rfl⟩
      have inItems : item ∈ matchDatasets (some S) (some T) := mem_matchDatasets.2
        ⟨n, List.mem_map.2 ⟨d, List.mem_append_left _ inS, named⟩, by rw [foundS]; exact paired0⟩
      obtain ⟨step, stepped⟩ := mapM_ok_of_mem _ all inItems
      have found0 : item.a? = some d := Paired.a?_of_ofPair? paired0
      obtain ⟨head, headOf, delivered⟩ := backupStep_delivers found0 ignored stepped
      rw [Paired.b?_of_ofPair? paired0] at headOf
      have receivedAt : (((steps.filterMap id).flatten.filterMap Transaction.received?).filter
          (·.1 == n)).map Prod.snd = names head := by
        have key : item.item.subname = n := by rw [Chain.item_of_a? found0, named]
        rw [← key, received_filter_subname listed all inItems stepped, delivered, List.map_map]
        rfl
      have uniqueHead : (names head).Nodup := ((disjointHead_suffix headOf).map _).nodup
        (disjointHead_eq_ok (consecutive_map_some _) (consecutive_map_some _) headOf).1
      have view := chain_datasetAt_receiveAll _ roundTrip unaliased (n := n)
        (by rw [receivedAt]; exact uniqueHead)
      rw [receivedAt] at view
      have sideB : item'.b? = (T.receiveAll S.config
          ((steps.filterMap id).flatten.filterMap Transaction.received?)).datasetAt n :=
        Paired.b?_of_ofPair? paired
      rw [← sideB] at view
      refine backupStep_after_receiving found ignored headOf ?_ view
      simp [names, Function.comp_def, Dataset.received]

/-- Once the target received what a successful transfer run sent, a second run against it sends
nothing: just the target property transactions remain. This holds provided every relative name sent
under reaches the datasets that pairing sees under it, as for `backupPlan_afterTransfers_empty`. -/
theorem backupTransactions_afterTransfers {S T : Pool} (listed : S.Listed) {txs : List Transaction}
    (planned : S.backupTransactions T = .ok txs)
    (roundTrip : ∀ r ∈ txs.filterMap Transaction.received?, S.config.ReadsBack r.1)
    (unaliased : ∀ r ∈ txs.filterMap Transaction.received?, T.Unaliased S.config r.1) :
    S.backupTransactions (T.afterTransfers S.config txs) = .ok S.targetPropertyTransactions := by
  obtain ⟨prog, transfers, stepped, collected, rfl⟩ := backupTransactions_eq_ok.1 planned
  have delivered : (transfers ++ S.targetPropertyTransactions).filterMap Transaction.received? =
      transfers.filterMap Transaction.received? := by
    rw [List.filterMap_append, targetPropertyTransactions_received, List.append_nil]
  rw [delivered] at roundTrip unaliased
  obtain ⟨prog', replanned, quiet⟩ :=
    backupPlan_afterTransfers_empty listed stepped collected roundTrip unaliased
  rw [afterTransfers, delivered, ← afterTransfers]
  exact backupTransactions_eq_ok.2 ⟨prog', [], replanned, quiet, rfl⟩

/-- The source `tank` with the marked snapshots `a` to `c`, and `tank/data` with the marked
snapshot `x`. -/
def catchingUpSource : Pool :=
  Fixture.pool .source Fixture.config [("", ["a", "b", "c"]), ("data", ["x"])]

/-- The target `backup` with the marked snapshot `a`. -/
def targetOldest : Pool := Fixture.pool .target Fixture.config [("", ["a"])]

/-- From `tank` with `a` to `c` and `tank/data` with `x` to the target holding `a`, the run sends
`b`, `c` and `x`; once received, into `backup` and a new `backup/data`, nothing is left to send. -/
theorem backupTransactions_afterTransfers_catchingUp :
    ∃ txs, catchingUpSource.Listed ∧
      catchingUpSource.backupTransactions targetOldest = .ok txs ∧
      txs.filterMap Transaction.received? = [("", "b"), ("", "c"), ("data", "x")] ∧
      (∀ r ∈ txs.filterMap Transaction.received?, catchingUpSource.config.ReadsBack r.1) ∧
      (∀ r ∈ txs.filterMap Transaction.received?,
        targetOldest.Unaliased catchingUpSource.config r.1) ∧
      catchingUpSource.backupTransactions (targetOldest.afterTransfers catchingUpSource.config txs) =
        .ok catchingUpSource.targetPropertyTransactions := by
  have sent : (catchingUpSource.backupTransactions targetOldest).toOption.map
      (·.filterMap Transaction.received?) = some [("", "b"), ("", "c"), ("data", "x")] := by
    simp only [catchingUpSource, targetOldest, Fixture.pool, ofRows_eq_insertionSort, ofEntities,
      ownSnapshots_eq_insertionSort, backupTransactions, backupPlan, matchDatasets,
      mergeSort_string_eq_insertionSort]
    decide
  have listed : catchingUpSource.Listed := ofRows_listed _ _ _
  obtain ⟨txs, planned, sent⟩ := ok_of_toOption sent
  have roundTrip : ∀ r ∈ txs.filterMap Transaction.received?,
      catchingUpSource.config.ReadsBack r.1 := by
    rw [sent]
    decide
  have unaliased : ∀ r ∈ txs.filterMap Transaction.received?,
      targetOldest.Unaliased catchingUpSource.config r.1 := by
    rw [sent]
    simp only [targetOldest, Fixture.pool, ofRows_eq_insertionSort, ofEntities,
      ownSnapshots_eq_insertionSort]
    decide
  exact ⟨txs, listed, planned, sent, roundTrip, unaliased,
    backupTransactions_afterTransfers listed planned roundTrip unaliased⟩

/-- The listing rows of `tank` and of `tank/ a` (its relative name starting with a blank) with the
marked snapshot `1`. -/
def paddedRows : List Row :=
  Fixture.datasetRows "tank" [""] ++
    [⟨"tank/ a", "type", "filesystem", "-"⟩, ⟨"tank/ a", "mountpoint", "/tank/ a", "default"⟩] ++
    Fixture.snapshotRows "tank/ a" ["1"]

/-- The target `backup` with no snapshot. -/
def targetEmpty : Pool := Fixture.pool .target Fixture.config [("", [])]

/-- A source dataset whose relative name starts with a blank is received into the dataset of the
trimmed name, which pairing sees under the trimmed relative name: the next run sends the same
snapshot again. -/
theorem backupTransactions_resends_padded :
    ∃ txs txs', (ofRows paddedRows .source Fixture.config).backupTransactions targetEmpty = .ok txs ∧
      txs.filterMap Transaction.received? = [(" a", "1")] ∧
      (ofRows paddedRows .source Fixture.config).backupTransactions
          (targetEmpty.afterTransfers Fixture.config txs) = .ok txs' ∧
      txs'.filterMap Transaction.received? = [(" a", "1")] := by
  have first : ((ofRows paddedRows .source Fixture.config).backupTransactions
      targetEmpty).toOption.map (·.filterMap Transaction.received?) = some [(" a", "1")] := by
    simp only [targetEmpty, Fixture.pool, ofRows_eq_insertionSort, ofEntities,
      ownSnapshots_eq_insertionSort, backupTransactions, backupPlan, matchDatasets,
      mergeSort_string_eq_insertionSort]
    decide
  have again : ((ofRows paddedRows .source Fixture.config).backupTransactions
      (targetEmpty.receiveAll Fixture.config [(" a", "1")])).toOption.map
        (·.filterMap Transaction.received?) = some [(" a", "1")] := by
    simp only [targetEmpty, Fixture.pool, ofRows_eq_insertionSort, ofEntities,
      ownSnapshots_eq_insertionSort, backupTransactions, backupPlan, matchDatasets,
      mergeSort_string_eq_insertionSort]
    decide
  obtain ⟨txs, planned, sent⟩ := ok_of_toOption first
  have after : targetEmpty.afterTransfers Fixture.config txs =
      targetEmpty.receiveAll Fixture.config [(" a", "1")] := by
    rw [afterTransfers, sent]
  rw [← after] at again
  obtain ⟨txs', planned', sent'⟩ := ok_of_toOption again
  exact ⟨txs, txs', planned, sent, planned', sent'⟩

end Pool

end ZfsReplication
