import Mathlib
import ZfsReplication.Proofs.Plan.Retention
import ZfsReplication.Proofs.Plan.Transfer

/-!
# Pruning the source before a transfer

Retention on the source removes, per matched pair, the oldest snapshots of the source chain that
the target chain also holds, all but the newest `keep_snapshots` of them (`Pool.sourceExpired`).
When it keeps at least one, removing them never changes what transfer planning does next
(`Pool.backupPlan_without_expired`):

* the pool listed without the removed snapshots' rows is the pool less those snapshots
  (`Pool.ofRows_filter`), and each matched dataset loses exactly the snapshots removed from its own
  pair, since a full name tells a snapshot apart (`Pool.filter_expiredAgainst`);
* dropping fewer of a source chain's oldest snapshots than it shares with the target keeps its
  alignment and its head, and every snapshot of the head keeps its ancestor and the unmarked
  snapshots folded into it (`Pool.backupStep_withoutOldest`).
-/

set_option autoImplicit false

namespace ZfsReplication

open Chain

/-! ## A dataset without some snapshots -/

/-- The dataset without its snapshots named like one of `gone`. -/
def Dataset.without (d : Dataset) (gone : List Snapshot) : Dataset :=
  { d with snapshots := d.snapshots.filter fun x => !(names gone).contains x.name }

/-- The dataset without the snapshots named like the `r` oldest of its chain. -/
def Dataset.withoutOldest (d : Dataset) (tagging : Bool) (r : Nat) : Dataset :=
  d.without ((d.chain tagging).take r)

namespace Dataset

variable (d : Dataset) (tagging : Bool) (r : Nat)

theorem without_nil : d.without [] = d := by
  cases d
  simp [without]

theorem chain_withoutOldest (unique : (names (d.chain tagging)).Nodup) :
    (d.withoutOldest tagging r).chain tagging = (d.chain tagging).drop r := by
  have kept : (d.withoutOldest tagging r).chain tagging =
      (d.chain tagging).filter fun x => !(names ((d.chain tagging).take r)).contains x.name := by
    cases tagging <;> simp [chain, withoutOldest, without, List.filter_filter, Bool.and_comm]
  rw [kept]
  conv_lhs => rw [← List.take_append_drop r (d.chain tagging)]
  rw [List.filter_append, List.filter_eq_nil_iff.2 fun x member => ?_, List.nil_append]
  · -- the later snapshots are named apart from the dropped ones
    refine List.filter_eq_self.2 fun x member => ?_
    have absent : x.name ∉ names ((d.chain tagging).take r) := fun named => by
      obtain ⟨y, early, same⟩ := List.mem_map.1 named
      exact name_ne_of_mem_take_drop unique le_rfl early member same
    simpa using absent
  · have named : Named.name x ∈ names ((d.chain tagging).take r) := List.mem_map_of_mem member
    simpa using named

theorem ancestorOf_withoutOldest (unique : (names (d.chain tagging)).Nodup) {s : Snapshot}
    (later : s ∈ (d.chain tagging).drop (r + 1)) :
    (d.withoutOldest tagging r).ancestorOf s tagging = d.ancestorOf s tagging := by
  obtain ⟨front, back, split⟩ := List.append_of_mem later
  have parts : d.chain tagging = ((d.chain tagging).take (r + 1) ++ front) ++ s :: back := by
    rw [List.append_assoc, ← split, List.take_append_drop]
  have long : r < ((d.chain tagging).take (r + 1) ++ front).length := by
    have := List.length_pos_of_mem later
    simp only [List.length_drop] at this
    simp only [List.length_append, List.length_take]
    omega
  have partsDrop : (d.withoutOldest tagging r).chain tagging =
      ((d.chain tagging).take (r + 1) ++ front).drop r ++ s :: back := by
    rw [chain_withoutOldest d tagging r unique]
    conv_lhs => rw [parts]
    rw [List.drop_append_of_le_length long.le]
  have uniqueDrop : (names ((d.withoutOldest tagging r).chain tagging)).Nodup := by
    rw [chain_withoutOldest d tagging r unique, names_drop]
    exact unique.sublist (List.drop_sublist _ _)
  rw [ancestorOf_eq, ancestorOf_eq, Snapshot.ancestorIn_of_parts uniqueDrop partsDrop,
    Snapshot.ancestorIn_of_parts unique parts, List.getLast?_drop, if_neg (by omega)]

theorem snapshots_split (short : r < (d.chain true).length) :
    ∃ pre post, d.snapshots = pre ++ (d.chain true)[r] :: post ∧
      pre.filter Snapshot.isMarked = (d.chain true).take r ∧
      post.filter Snapshot.isMarked = (d.chain true).drop (r + 1) := by
  have split : d.snapshots.filter Snapshot.isMarked =
      (d.chain true).take r ++ (d.chain true)[r] :: (d.chain true).drop (r + 1) := by
    rw [← List.drop_eq_getElem_cons short, List.take_append_drop]
    rfl
  obtain ⟨l₁, l₂, whole, first, rest⟩ := List.filter_eq_append_iff.1 split
  obtain ⟨m, post, rfl, unmarked, -, after⟩ := List.filter_eq_cons_iff.1 rest
  refine ⟨l₁ ++ m, post, by rw [whole, List.append_assoc], ?_, after⟩
  rw [List.filter_append, first, List.filter_eq_nil_iff.2 unmarked, List.append_nil]

theorem withoutOldest_snapshots (unique : (names d.snapshots).Nodup)
    (short : r < (d.chain true).length) {pre post : List Snapshot}
    (whole : d.snapshots = pre ++ (d.chain true)[r] :: post)
    (before : pre.filter Snapshot.isMarked = (d.chain true).take r) :
    (d.withoutOldest true r).snapshots =
      pre.filter (fun x => !(names ((d.chain true).take r)).contains x.name) ++
        (d.chain true)[r] :: post := by
  -- the dropped snapshots all stand before the split, and names do not repeat across it
  have fresh : ∀ z ∈ (d.chain true)[r] :: post,
      (!(names ((d.chain true).take r)).contains z.name) = true := by
    intro z late
    have apart := List.disjoint_of_nodup_append (by rwa [whole, names_append] at unique)
    have absent : z.name ∉ names ((d.chain true).take r) := fun named => by
      obtain ⟨x, early, same⟩ := List.mem_map.1 named
      have inPre : x ∈ pre := List.mem_of_mem_filter (before ▸ early)
      exact apart (List.mem_map_of_mem inPre) (same ▸ List.mem_map_of_mem late)
    simpa using absent
  unfold withoutOldest without
  dsimp only
  rw [whole, List.filter_append, List.filter_eq_self.2 fresh]

theorem foldedInto_withoutOldest (unique : (names d.snapshots).Nodup) {s : Snapshot}
    (later : s ∈ (d.chain true).drop (r + 1)) :
    foldedInto Snapshot.isMarked (d.withoutOldest true r).snapshots s.name =
      foldedInto Snapshot.isMarked d.snapshots s.name := by
  have uniqueChain := nodup_chain unique true
  have short : r < (d.chain true).length := by
    have := List.length_pos_of_mem later
    simp only [List.length_drop] at this
    omega
  obtain ⟨pre, post, whole, before, -⟩ := snapshots_split d r short
  have markedY : (d.chain true)[r].isMarked = true :=
    (List.mem_filter.1 (List.getElem_mem short)).2
  have differ : (d.chain true)[r].name ≠ s.name := by
    have uniqueLate : (names ((d.chain true).drop r)).Nodup := by
      rw [names_drop]
      exact uniqueChain.sublist (List.drop_sublist _ _)
    rw [List.drop_eq_getElem_cons short, names_cons, List.nodup_cons] at uniqueLate
    exact fun same => uniqueLate.1 (by
      rw [show Named.name (d.chain true)[r] = Named.name s from same]
      exact List.mem_map_of_mem later)
  -- a marked snapshot before the split is a dropped one, named apart from `s`
  have earlier : ∀ x ∈ pre, x.isMarked = true → x.name ≠ s.name := fun x member marked =>
    name_ne_of_mem_take_drop uniqueChain (Nat.le_succ r)
      (before ▸ List.mem_filter.2 ⟨member, marked⟩) later
  rw [withoutOldest_snapshots d r unique short whole before, whole,
    foldedInto_append_cons _ markedY differ earlier,
    foldedInto_append_cons _ markedY differ fun x member => earlier x (List.mem_of_mem_filter member)]

theorem sendPlan_withoutOldest (config : Config) (unique : (names d.snapshots).Nodup)
    {s : Snapshot} (later : s ∈ (d.chain config.compatibility.tagging).drop (r + 1)) :
    (d.withoutOldest config.compatibility.tagging r).sendPlan config s = d.sendPlan config s := by
  unfold sendPlan
  rw [ancestorOf_withoutOldest d _ r (nodup_chain unique _) later]
  cases tagging : config.compatibility.tagging with
  | false =>
    rw [Snapshot.backupTransaction_untagged tagging _
      (foldedInto Snapshot.isMarked d.snapshots s.name).length]
  | true =>
    rw [tagging] at later
    rw [foldedInto_withoutOldest d r unique later]

end Dataset

namespace Pool

/-! ## One pair -/

/-- Dropping fewer of a source dataset's oldest snapshots than its chain shares with the target
leaves the pair's transfers as they were. -/
theorem backupStep_withoutOldest {p : Pool} {d u : Dataset} {r : Nat}
    {merged : List (Paired Snapshot)} (unique : (names d.snapshots).Nodup)
    (ignored : p.config.ignores d.subname = false)
    (aligned : align (d.chain p.config.compatibility.tagging)
      (u.chain p.config.compatibility.tagging) = .ok merged)
    (block : names (oldestShared (d.chain p.config.compatibility.tagging)
      (u.chain p.config.compatibility.tagging)) <:+: names (u.chain p.config.compatibility.tagging))
    (short : r < (oldestShared (d.chain p.config.compatibility.tagging)
      (u.chain p.config.compatibility.tagging)).length) :
    p.backupStep (.both (d.withoutOldest p.config.compatibility.tagging r) u) =
      p.backupStep (.both d u) := by
  have chain :=
    Dataset.chain_withoutOldest d p.config.compatibility.tagging r (align_nodup aligned).1
  obtain ⟨merged', aligned'⟩ := align_drop_shared aligned block short
  rw [backupStep_of_aligned (d := d.withoutOldest p.config.compatibility.tagging r) rfl ignored
      (by simpa [chain] using aligned'),
    backupStep_of_aligned (show (Paired.both d u).a? = some d from rfl) ignored aligned]
  simp only [chain, Paired.b?_both, Option.map_some, Option.getD_some,
    disjointHead_drop_shared aligned block short]
  cases headOf : disjointHead ((d.chain p.config.compatibility.tagging).map some)
      ((u.chain p.config.compatibility.tagging).map some) with
  | error e => rfl
  | ok head =>
    simp only [except_mapError_ok, except_ok_bind]
    split
    · rfl
    · rw [mapM_congr fun s member => Dataset.sendPlan_withoutOldest d r p.config unique
        ((disjointHead_past_shared aligned block short headOf).subset member)]

/-! ## The whole source -/

/-- The source snapshots that retention against the target pool `other` removes, pair after
pair. -/
def expiredAgainst (p other : Pool) : List Snapshot :=
  (matchDatasets (some p) (some other)).flatMap p.sourceExpired

theorem fullName_mem_expiredAgainst {p other : Pool} (listed : p.Listed) {item : Paired Dataset}
    (member : item ∈ matchDatasets (some p) (some other)) {d : Dataset} (found : item.a? = some d)
    {x : Snapshot} (inD : x ∈ d.snapshots) :
    x.fullName ∈ (p.expiredAgainst other).map Snapshot.fullName ↔
      x.name ∈ names (p.sourceExpired item) := by
  have dIn := mem_datasets_of_matchDatasets member found
  obtain ⟨xParent, xAt⟩ := listed.parent d dIn x inD
  constructor
  · intro removed
    obtain ⟨e, expired, same⟩ := List.mem_map.1 removed
    obtain ⟨item', member', inItem'⟩ := List.mem_flatMap.1 expired
    obtain ⟨d', found', inD'⟩ := mem_sourceExpired p inItem'
    have d'In := mem_datasets_of_matchDatasets member' found'
    obtain ⟨eParent, eAt⟩ := listed.parent d' d'In e inD'
    obtain ⟨parents, named⟩ := Snapshot.fullName_inj eAt xAt same
    -- one full name, one parent: the same dataset, hence the same pair
    have sameDataset : d' = d :=
      List.inj_on_of_nodup_map listed.distinct d'In dIn (by rw [← eParent, ← xParent, parents])
    subst sameDataset
    have sameItem : item' = item :=
      matchDatasets_inj member' member (by rw [item_of_a? found', item_of_a? found])
    subst sameItem
    exact named ▸ List.mem_map_of_mem inItem'
  · intro named
    obtain ⟨e, expired, same⟩ := List.mem_map.1 named
    obtain ⟨d', found', inD'⟩ := mem_sourceExpired p expired
    rw [found] at found'
    cases found'
    have full : e.fullName = x.fullName := by
      rw [Snapshot.fullName, Snapshot.fullName, (listed.parent d dIn e inD').1, xParent]
      exact congrArg _ same
    exact List.mem_map.2 ⟨e, List.mem_flatMap.2 ⟨item, member, expired⟩, full⟩

theorem filter_expiredAgainst {p other : Pool} (listed : p.Listed) {item : Paired Dataset}
    (member : item ∈ matchDatasets (some p) (some other)) {d : Dataset} (found : item.a? = some d) :
    { d with snapshots := d.snapshots.filter fun x =>
        !((p.expiredAgainst other).map Snapshot.fullName).contains x.fullName } =
      d.without (p.sourceExpired item) := by
  unfold Dataset.without
  congr 1
  refine List.filter_congr fun x inD => ?_
  congr 1
  rw [Bool.eq_iff_iff, List.contains_iff_mem, List.contains_iff_mem]
  exact fullName_mem_expiredAgainst listed member found inD

/-- A listed source pool on which retention succeeds plans the same transfers, the same failure
included, without the snapshots that retention removes. -/
theorem backupPlan_filterSnapshots_expired {S T : Pool} (listed : S.Listed)
    (onSource : S.side = .source) (keeping : 1 ≤ S.config.keepSnapshots)
    (cleaned : ∀ item ∈ matchDatasets (some S) (some T), ∃ step, S.cleanupStep item = .ok step) :
    (S.filterSnapshots fun e =>
        !((S.expiredAgainst T).map Snapshot.fullName).contains e).backupPlan T =
      S.backupPlan T := by
  -- every pair plans as before, its source dataset without its own removed snapshots
  have same : ∀ item ∈ matchDatasets (some S) (some T),
      S.backupStep (item.mapA fun d => { d with snapshots := d.snapshots.filter fun x =>
        !((S.expiredAgainst T).map Snapshot.fullName).contains x.fullName }) =
        S.backupStep item := by
    intro item member
    obtain ⟨step, stepped⟩ := cleaned item member
    cases item with
    | onlyB u => rfl
    | onlyA d =>
      rw [Paired.mapA, filter_expiredAgainst listed member rfl]
      simp [sourceExpired, Dataset.without_nil]
    | both d u =>
      rw [Paired.mapA, filter_expiredAgainst listed member rfl]
      cases ignored : S.config.ignores d.subname with
      | true => simp [sourceExpired, ignored, Dataset.without_nil]
      | false =>
        obtain ⟨merged, aligned⟩ := cleanupStep_both_aligned stepped ignored
        obtain ⟨-, -, block⟩ := (cleanupStep_source_eq_ok onSource stepped).2 d u rfl ignored
        rw [sourceExpired_both ignored]
        rcases Nat.eq_zero_or_pos (oldestShared (d.chain S.config.compatibility.tagging)
          (u.chain S.config.compatibility.tagging)).length with none | some
        · rw [none, Nat.zero_sub, List.take_zero, Dataset.without_nil]
        · exact backupStep_withoutOldest (listed.named d (mem_datasets_of_matchDatasets member rfl))
            ignored aligned block (by omega)
  have sameStep : (S.filterSnapshots fun e =>
      !((S.expiredAgainst T).map Snapshot.fullName).contains e).backupStep = S.backupStep :=
    backupStep_congr rfl
  unfold backupPlan
  rw [sameStep]
  dsimp only [filterSnapshots]
  rw [matchDatasets_map S T (fun d => { d with snapshots := d.snapshots.filter fun x =>
      !((S.expiredAgainst T).map Snapshot.fullName).contains x.fullName }) fun d => rfl,
    progress_map S.backupStep S.backupStep _ same]

/-- Retention on the source never changes the next transfers: it removes exactly the snapshots of
`expiredAgainst`, and transfer planning from the source listed without their rows makes the same
progress, the same failure included, as from the whole source. -/
theorem backupPlan_without_expired (rows : List Row) (config : Config) (T : Pool) (prog : Progress)
    (txs : List Transaction) (keeping : 1 ≤ config.keepSnapshots)
    (planned : (ofRows rows .source config).cleanupPlan T = .ok prog)
    (collected : prog.collect = .ok txs) :
    txs = ((ofRows rows .source config).expiredAgainst T).map (·.cleanupTransaction config) ∧
      (ofRows (rows.filter fun row => !(((ofRows rows .source config).expiredAgainst T).map
          Snapshot.fullName).contains row.entity) .source config).backupPlan T =
        (ofRows rows .source config).backupPlan T := by
  have onSource : (ofRows rows .source config).side = .source := rfl
  rw [cleanupPlan_eq_progress (by simp [onSource]) planned] at collected
  obtain ⟨steps, all, rfl⟩ := collect_eq_ok _ collected
  refine ⟨?_, ?_⟩
  · rw [expiredAgainst, List.map_flatMap]
    exact flatten_of_mapM _ _ all fun item _ step stepped =>
      (cleanupStep_source_eq_ok onSource stepped).1
  · -- only snapshots are left out of the listing
    have onlySnapshots : ∀ e, (!(((ofRows rows .source config).expiredAgainst T).map
        Snapshot.fullName).contains e) = false → '@' ∈ e.toList := by
      intro e removed
      simp only [Bool.not_eq_false', List.contains_iff_mem, List.mem_map] at removed
      obtain ⟨s, -, rfl⟩ := removed
      simp [Snapshot.fullName]
    rw [ofRows_filter rows .source config _ onlySnapshots]
    exact backupPlan_filterSnapshots_expired (ofRows_listed rows .source config) onSource keeping
      fun item member => mapM_ok_of_mem _ all member

/-- The listing rows of `tank` with the marked snapshots `a` to `d`. -/
def sourceAheadRows : List Row :=
  Fixture.datasetRows "tank" [""] ++ Fixture.snapshotRows "tank" ["a", "b", "c", "d"]

/-- Against the target holding `a` to `c`, retention removes `a` and `b` from `tank`, and the
source without them plans the transfers of the whole source. -/
theorem backupPlan_without_expired_ahead :
    ∃ prog txs, 1 ≤ Fixture.config.keepSnapshots ∧
      (ofRows sourceAheadRows .source Fixture.config).cleanupPlan targetBehind = .ok prog ∧
      prog.collect = .ok txs ∧ txs.length = 2 ∧
      (txs = ((ofRows sourceAheadRows .source Fixture.config).expiredAgainst targetBehind).map
          (·.cleanupTransaction Fixture.config) ∧
        (ofRows (sourceAheadRows.filter fun row =>
            !(((ofRows sourceAheadRows .source Fixture.config).expiredAgainst targetBehind).map
              Snapshot.fullName).contains row.entity) .source Fixture.config).backupPlan
            targetBehind =
          (ofRows sourceAheadRows .source Fixture.config).backupPlan targetBehind) := by
  have removed : (((ofRows sourceAheadRows .source Fixture.config).cleanupPlan
      targetBehind).toOption.bind (·.collect.toOption)).map List.length = some 2 := by
    simp only [targetBehind, Fixture.pool, ofRows_eq_insertionSort, ofEntities,
      ownSnapshots_eq_insertionSort, cleanupPlan, matchDatasets, mergeSort_string_eq_insertionSort]
    decide
  obtain ⟨prog, txs, planned, collected, removed⟩ := collected_of_toOption removed
  exact ⟨prog, txs, by decide, planned, collected, removed,
    backupPlan_without_expired _ _ _ _ _ (by decide) planned collected⟩

end Pool

end ZfsReplication
