import Mathlib
import ZfsReplication.Proofs.Pool.Listing

/-!
# What a pool listed from rows holds

A pool listed from discovery rows holds one dataset for each entity without `@` below the side's
root (less the root itself when the configuration leaves it out), in strictly increasing name order.
Each dataset holds exactly the snapshot entities `dataset@name` of the rows, split at the first
`@`, each once, in creation order: by creation transaction group, then creation time, each an
integer or absent (absent first), then the position of the entity's first row among the entities
(`creationBefore`). Every property is the one the entity's last row for that property gives
(`lastProperty`). The main statement is `Pool.ofRows_contents`.
-/

set_option autoImplicit false

namespace ZfsReplication

/-! ## Entities and their properties -/

/-- Entities come in the order of their first rows. -/
theorem entityOrder_eq_eraseDups (rows : List Row) :
    entityOrder rows = (rows.map (·.entity)).eraseDups := by
  induction rows using List.reverseRecOn with
  | nil => rfl
  | append_singleton rows r ih =>
    have seen : r.entity ∈ entityOrder rows ↔ r.entity ∈ rows.map (·.entity) := by
      rw [mem_entityOrder, List.mem_map]
    rw [entityOrder_append_singleton, List.map_append, List.eraseDups_append, ← ih]
    by_cases present : r.entity ∈ entityOrder rows
    · have gone : [r.entity].removeAll (rows.map (·.entity)) = [] := by
        simpa [List.removeAll] using seen.1 present
      simp [present, gone]
    · have kept : [r.entity].removeAll (rows.map (·.entity)) = [r.entity] := by
        simpa [List.removeAll] using mt seen.2 present
      simp [present, kept, List.eraseDups_cons]

/-- The property `n` of the entity `e`, as the last row of `e` for `n` gives it. -/
def lastProperty (rows : List Row) (e n : String) : Option Property :=
  ((rows.filter fun r => r.entity == e && r.property == n).getLast?).map
    fun r => Property.ofTexts r.property r.value r.source

/-- Of the properties read from rows, the last one of a name counts. -/
theorem lookupProperty_ofTexts (rows : List Row) (n : String) :
    lookupProperty (rows.map fun r => Property.ofTexts r.property r.value r.source) n =
      ((rows.filter (·.property == n)).getLast?).map
        fun r => Property.ofTexts r.property r.value r.source := by
  unfold lookupProperty
  rw [← List.map_reverse, List.find?_map, ← List.head?_reverse, ← List.filter_reverse,
    List.head?_filter]
  rfl

/-- The properties of an entity read from all its rows. -/
theorem lookupProperty_entity (rows : List Row) (e n : String) :
    lookupProperty ((rows.filter (·.entity == e)).map
      fun r => Property.ofTexts r.property r.value r.source) n = lastProperty rows e n := by
  rw [lookupProperty_ofTexts, List.filter_filter, lastProperty]
  congr 3
  funext r
  exact Bool.and_comm _ _

/-! ## Splitting a snapshot's name -/

/-- A snapshot entity of a dataset name without `@` splits right after that name. -/
theorem Snapshot.ofRows_split {name : String} (noAt : '@' ∉ name.toList) (rest : String)
    (rows : List Row) (side : Side) (root : String) :
    Snapshot.ofRows (name ++ "@" ++ rest) rows side root =
      (Name.relative root name).map fun subparent =>
        { name := rest, parent := name, subparent,
          properties := rows.map fun r => Property.ofTexts r.property r.value r.source, side } := by
  have passes : ∀ c ∈ name.toList, (c != '@') = true := by
    intro c member
    simp only [bne_iff_ne, ne_eq]
    rintro rfl
    exact noAt member
  have whole : (name ++ "@" ++ rest).toList = name.toList ++ '@' :: rest.toList := by simp
  have taken : (name ++ "@" ++ rest).toList.takeWhile (· != '@') = name.toList := by
    rw [whole, List.takeWhile_append_of_pos passes]
    simp
  have dropped : (name ++ "@" ++ rest).toList.dropWhile (· != '@') = '@' :: rest.toList := by
    rw [whole, List.dropWhile_append_of_pos passes]
    simp
  unfold Snapshot.ofRows
  simp only [taken, dropped, String.ofList_toList]

theorem Snapshot.ofRows_properties {fullName : String} {rows : List Row} {side : Side}
    {root : String} {s : Snapshot} (built : Snapshot.ofRows fullName rows side root = some s) :
    s.properties = rows.map fun r => Property.ofTexts r.property r.value r.source := by
  unfold Snapshot.ofRows at built
  split at built
  · cases built
  · obtain ⟨subparent, -, rfl⟩ := Option.map_eq_some_iff.1 built
    rfl

/-! ## Creation order -/

/-- Where a snapshot listed from `rows` stands in creation order: its creation transaction group and
its creation time, each an integer or absent, then the position of its first row among the entities
of `rows`. -/
def creationKey (rows : List Row) (s : Snapshot) : Option Int × Option Int × Nat :=
  ((s.property "createtxg").integer?, (s.property "creation").integer?,
    (rows.map (·.entity)).eraseDups.idxOf s.fullName)

/-- `s` comes before `t` in creation order: their keys compare lexicographically, an absent value
before any integer. -/
def creationBefore (rows : List Row) (s t : Snapshot) : Prop :=
  Prod.Lex (· < ·) (Prod.Lex (· < ·) (· < ·)) (creationKey rows s) (creationKey rows t)

theorem lt_of_optionLe {x y : Option Int} (le : optionLe x y) (differ : x ≠ y) : x < y := by
  cases x <;> cases y <;> simp_all [optionLe]
  omega

/-- Two places in creation order at different positions of discovery compare strictly. -/
theorem SnapshotOrder.lex_of_le {a b : SnapshotOrder} (le : a.le b) (apart : a.position ≠ b.position) :
    Prod.Lex (· < ·) (Prod.Lex (· < ·) (· < ·)) (a.createtxg, a.creation, a.position)
      (b.createtxg, b.creation, b.position) := by
  unfold SnapshotOrder.le at le
  by_cases txg : a.createtxg = b.createtxg
  · by_cases made : a.creation = b.creation
    · simp only [txg, made, bne_self_eq_false, Bool.false_eq_true, ↓reduceIte,
        decide_eq_true_eq] at le
      rw [txg, made]
      exact .right _ (.right _ (by omega))
    · simp only [txg, bne_self_eq_false, Bool.false_eq_true, ↓reduceIte, made,
        bne_iff_ne, ne_eq, not_false_eq_true] at le
      rw [txg]
      exact .right _ (.left _ _ (lt_of_optionLe le made))
  · simp only [txg, bne_iff_ne, ne_eq, not_false_eq_true, ↓reduceIte] at le
    exact .left _ _ (lt_of_optionLe le txg)

/-! ## Pools from entities -/

/-- Whether the entity `n` is listed as a dataset of `side`: a name without `@` below the side's
root, other than the root itself when the configuration leaves the root out. -/
def Config.ListsDataset (config : Config) (side : Side) (n : String) : Prop :=
  '@' ∉ n.toList ∧ (Name.relative (config.root side) n).isSome ∧
    (config.includeRoot = true ∨ n ≠ config.root side)

instance (config : Config) (side : Side) : DecidablePred (config.ListsDataset side) :=
  fun _ => inferInstanceAs (Decidable (_ ∧ _ ∧ _))

namespace Pool

section Entities

variable (side : Side) (root : String) (config : Config) (pos : String → Nat)
  (rs : String → List Row)

/-- The datasets built from entities are the entities listed as datasets, in order. -/
theorem ofEntities_names (L : List String) :
    (ofEntities (L.map fun e => (e, pos e, rs e)) side config).datasets.map (·.name) =
      L.filter fun n => config.ListsDataset side n := by
  unfold ofEntities
  simp only [List.filterMap_map, List.map_filterMap]
  rw [← List.filterMap_eq_filter]
  refine List.filterMap_congr fun e _ => ?_
  have condition : (e.toList.contains '@' || (!config.includeRoot && e == config.root side)) = true ↔
      '@' ∈ e.toList ∨ (config.includeRoot = false ∧ e = config.root side) := by
    simp
  rw [Function.comp_apply, Option.guard]
  by_cases leftOut : '@' ∈ e.toList ∨ (config.includeRoot = false ∧ e = config.root side)
  · have unlisted : ¬ config.ListsDataset side e := by
      rintro ⟨noAt, -, kept⟩
      rcases leftOut with atSign | ⟨excluded, isRoot⟩
      · exact noAt atSign
      · rcases kept with included | other
        · simp [excluded] at included
        · exact other isRoot
    rw [if_pos (condition.2 leftOut)]
    simp [unlisted]
  · rw [if_neg fun built => leftOut (condition.1 built)]
    have kept : config.includeRoot = true ∨ e ≠ config.root side := by
      cases included : config.includeRoot <;> simp_all
    cases relative : Name.relative (config.root side) e with
    | none =>
      have unlisted : ¬ config.ListsDataset side e := fun listed => by
        simpa [relative] using listed.2.1
      simp [Dataset.ofRows, relative, unlisted]
    | some subname =>
      have listed : config.ListsDataset side e :=
        ⟨fun atSign => leftOut (.inl atSign), by simp [relative], kept⟩
      simp [Dataset.ofRows, relative, listed]

theorem mem_ofEntities_fields {L : List String} {d : Dataset}
    (member : d ∈ (ofEntities (L.map fun e => (e, pos e, rs e)) side config).datasets) :
    d.name ∈ L ∧ Name.relative (config.root side) d.name = some d.subname ∧
      d.properties = (rs d.name).map (fun r => Property.ofTexts r.property r.value r.source) ∧
      d.snapshots = ownSnapshots (snapshotEntries (L.map fun e => (e, pos e, rs e)) side
        (config.root side)) d.name := by
  unfold ofEntities at member
  simp only [List.filterMap_map] at member
  obtain ⟨e, inL, built⟩ := List.mem_filterMap.1 member
  simp only [Function.comp_apply] at built
  split at built
  · cases built
  · obtain ⟨subname, below, rfl⟩ := Option.map_eq_some_iff.1 built
    exact ⟨inL, below, rfl, rfl⟩

theorem entryOf_order {e : String} {p : Nat} {x : Snapshot × SnapshotOrder}
    (found : entryOf side root rs e p = some x) :
    x.2 = ⟨(x.1.property "createtxg").integer?, (x.1.property "creation").integer?, p⟩ := by
  unfold entryOf at found
  split at found
  · obtain ⟨s, -, rfl⟩ := Option.map_eq_some_iff.1 found
    rfl
  · cases found

/-- Each snapshot entry comes from an entity, its full name, and stands at that entity's position
with its creation transaction group and creation time. -/
theorem order_of_mem_snapshotEntries {L : List String} {x : Snapshot × SnapshotOrder}
    (member : x ∈ snapshotEntries (L.map fun e => (e, pos e, rs e)) side root) :
    x.1.fullName ∈ L ∧ x.2 = ⟨(x.1.property "createtxg").integer?,
      (x.1.property "creation").integer?, pos x.1.fullName⟩ := by
  rw [snapshotEntries_map] at member
  obtain ⟨e, inL, found⟩ := List.mem_filterMap.1 member
  obtain ⟨named, -⟩ := entryOf_eq_some side root rs found
  rw [entryOf_order side root rs found, named]
  exact ⟨inL, rfl⟩

/-- The snapshots of a dataset whose name has no `@` are the entities of its name followed by `@`. -/
theorem fullName_mem_ownSnapshots_iff {L : List String} {name : String}
    (noAt : '@' ∉ name.toList) (below : (Name.relative root name).isSome) (e : String) :
    e ∈ (ownSnapshots (snapshotEntries (L.map fun e => (e, pos e, rs e)) side root) name).map
        (·.fullName) ↔ e ∈ L ∧ ∃ rest, e = name ++ "@" ++ rest := by
  constructor
  · intro member
    obtain ⟨s, own, rfl⟩ := List.mem_map.1 member
    obtain ⟨x, chosen, rfl⟩ := List.mem_map.1 own
    obtain ⟨inEntries, parent⟩ := List.mem_filter.1 (List.mem_mergeSort.1 chosen)
    refine ⟨(order_of_mem_snapshotEntries side root pos rs inEntries).1, x.1.name, ?_⟩
    simp [Snapshot.fullName, beq_iff_eq.1 parent]
  · rintro ⟨inL, rest, rfl⟩
    obtain ⟨subparent, relative⟩ := Option.isSome_iff_exists.1 below
    have built : Snapshot.ofRows (name ++ "@" ++ rest) (rs (name ++ "@" ++ rest)) side root =
        some ⟨rest, name, subparent, (rs (name ++ "@" ++ rest)).map
          fun r => Property.ofTexts r.property r.value r.source, side⟩ := by
      rw [Snapshot.ofRows_split noAt, relative]
      rfl
    have atSign : (name ++ "@" ++ rest).toList.contains '@' = true := by simp
    have found : entryOf side root rs (name ++ "@" ++ rest) (pos (name ++ "@" ++ rest)) =
        (Snapshot.ofRows (name ++ "@" ++ rest) (rs (name ++ "@" ++ rest)) side root).map fun s =>
          (s, SnapshotOrder.mk (s.property "createtxg").integer? (s.property "creation").integer?
            (pos (name ++ "@" ++ rest))) := by
      rw [entryOf, if_pos atSign]
    rw [built, Option.map_some] at found
    have inEntries := (List.mem_filterMap (f := fun e => entryOf side root rs e (pos e))).2
      ⟨_, inL, found⟩
    rw [← snapshotEntries_map] at inEntries
    exact List.mem_map.2 ⟨_, List.mem_map.2 ⟨_, List.mem_mergeSort.2
      (List.mem_filter.2 ⟨inEntries, by simp⟩), rfl⟩, rfl⟩

theorem nodup_fullNames_ownSnapshots {L : List String} (unique : L.Nodup) (name : String) :
    ((ownSnapshots (snapshotEntries (L.map fun e => (e, pos e, rs e)) side root) name).map
      (·.fullName)).Nodup := by
  have full := nodup_snapshotEntries side root pos rs unique
  unfold ownSnapshots
  rw [List.map_map]
  exact ((List.mergeSort_perm _ _).map _).nodup_iff.2 (full.sublist (List.filter_sublist.map _))

/-- The snapshots of a dataset come in creation order, strictly, when entities stand at distinct
positions. -/
theorem ownSnapshots_creation_sorted {L : List String} (unique : L.Nodup)
    (injective : ∀ x ∈ L, ∀ y ∈ L, pos x = pos y → x = y) (name : String) :
    (ownSnapshots (snapshotEntries (L.map fun e => (e, pos e, rs e)) side root) name).Pairwise
      fun s t => Prod.Lex (· < ·) (Prod.Lex (· < ·) (· < ·))
        ((s.property "createtxg").integer?, (s.property "creation").integer?, pos s.fullName)
        ((t.property "createtxg").integer?, (t.property "creation").integer?, pos t.fullName) := by
  let entries := snapshotEntries (L.map fun e => (e, pos e, rs e)) side root
  let own := (entries.filter (·.1.parent == name)).mergeSort
    fun (a b : Snapshot × SnapshotOrder) => a.2.le b.2
  have trans : ∀ a b c : Snapshot × SnapshotOrder, a.2.le b.2 → b.2.le c.2 → a.2.le c.2 :=
    fun _ _ _ => SnapshotOrder.le_trans
  have total : ∀ a b : Snapshot × SnapshotOrder, a.2.le b.2 || b.2.le a.2 :=
    fun a b => SnapshotOrder.le_total a.2 b.2
  have ordered : own.Pairwise fun a b => a.2.le b.2 = true := List.pairwise_mergeSort trans total _
  have apart : own.Pairwise fun a b => a.1.fullName ≠ b.1.fullName := by
    have distinct := nodup_fullNames_ownSnapshots side root pos rs unique name
    unfold ownSnapshots at distinct
    rw [List.map_map] at distinct
    exact List.pairwise_map.1 distinct
  have fromEntries : ∀ x ∈ own, x ∈ entries := fun x member =>
    List.mem_of_mem_filter (List.mem_mergeSort.1 member)
  unfold ownSnapshots
  rw [List.pairwise_map]
  refine (ordered.and apart).imp_of_mem ?_
  intro a b memA memB related
  obtain ⟨le, differ⟩ := related
  obtain ⟨inA, orderA⟩ := order_of_mem_snapshotEntries side root pos rs (fromEntries a memA)
  obtain ⟨inB, orderB⟩ := order_of_mem_snapshotEntries side root pos rs (fromEntries b memB)
  have positions : pos a.1.fullName ≠ pos b.1.fullName :=
    fun same => differ (injective _ inA _ inB same)
  rw [orderA, orderB] at le
  exact SnapshotOrder.lex_of_le le positions

end Entities

/-- The entities of `rows` in name order, each once. -/
theorem increasing_entities (rows : List Row) :
    ((entityOrder rows).mergeSort fun a b => decide (a ≤ b)).Pairwise (· < ·) := by
  have ordered : ((entityOrder rows).mergeSort fun a b => decide (a ≤ b)).Pairwise
      fun a b => decide (a ≤ b) = true :=
    List.pairwise_mergeSort (fun a b c => by simpa using le_trans)
      (fun a b => by simpa using le_total a b) _
  have unique := (List.mergeSort_perm (entityOrder rows) fun a b => decide (a ≤ b)).nodup_iff.2
    (nodup_entityOrder rows)
  exact (ordered.and unique).imp fun ⟨le, differ⟩ => lt_of_le_of_ne (by simpa using le) differ

/-- The datasets of a pool listed from rows are its entities listed as datasets, in name order. -/
theorem ofRows_names (rows : List Row) (side : Side) (config : Config) :
    (ofRows rows side config).datasets.map (·.name) =
      ((entityOrder rows).mergeSort fun a b => decide (a ≤ b)).filter
        fun n => config.ListsDataset side n := by
  rw [ofRows_eq_ofEntities]
  exact ofEntities_names side config (entityOrder rows).idxOf
    (fun e => rows.filter (·.entity == e)) _

theorem ofRows_names_increasing (rows : List Row) (side : Side) (config : Config) :
    ((ofRows rows side config).datasets.map (·.name)).Pairwise (· < ·) := by
  rw [ofRows_names]
  exact (increasing_entities rows).filter _

/-- What a pool listed from rows holds. Its datasets, in strictly increasing name order, are the
entities of the rows listed as datasets; each lies below the root under its relative name and takes
each property from the entity's last row for it. The snapshots of a dataset are the entities of the
rows named like the dataset followed by `@`, each once and so with distinct names, strictly in
creation order; each names the dataset as its parent, so that no snapshot stands without a dataset
listed from rows of its own, and takes each property from its entity's last row for it. -/
theorem ofRows_contents (rows : List Row) (side : Side) (config : Config) :
    ((ofRows rows side config).datasets.map (·.name)).Pairwise (· < ·) ∧
      (∀ n, n ∈ (ofRows rows side config).datasets.map (·.name) ↔
        (∃ r ∈ rows, r.entity = n) ∧ config.ListsDataset side n) ∧
      ∀ d ∈ (ofRows rows side config).datasets,
        Name.relative (config.root side) d.name = some d.subname ∧
        (∀ n, d.get? n = lastProperty rows d.name n) ∧
        (∀ e, e ∈ d.snapshots.map (·.fullName) ↔
          (∃ r ∈ rows, r.entity = e) ∧ ∃ rest, e = d.name ++ "@" ++ rest) ∧
        (d.snapshots.map (·.fullName)).Nodup ∧ (Chain.names d.snapshots).Nodup ∧
        d.snapshots.Pairwise (creationBefore rows) ∧
        ∀ s ∈ d.snapshots, s.parent = d.name ∧ s.subparent = d.subname ∧
          (∃ r ∈ rows, r.entity = s.parent) ∧ config.ListsDataset side s.parent ∧
          ∀ n, s.get? n = lastProperty rows s.fullName n := by
  let E := entityOrder rows
  let L := E.mergeSort fun a b => decide (a ≤ b)
  let rs := fun e => rows.filter (·.entity == e)
  have members : ∀ x, x ∈ L ↔ ∃ r ∈ rows, r.entity = x := fun x =>
    List.mem_mergeSort.trans mem_entityOrder
  have unique : L.Nodup := (List.mergeSort_perm _ _).nodup_iff.2 (nodup_entityOrder rows)
  have injective : ∀ x ∈ L, ∀ y ∈ L, E.idxOf x = E.idxOf y → x = y := fun x memX _ _ same =>
    (List.idxOf_inj (List.mem_mergeSort.1 memX)).1 same
  have named : ∀ n, n ∈ (ofRows rows side config).datasets.map (·.name) ↔
      (∃ r ∈ rows, r.entity = n) ∧ config.ListsDataset side n := by
    intro n
    rw [ofRows_names, List.mem_filter, members, decide_eq_true_iff]
  have listed := ofRows_listed rows side config
  refine ⟨ofRows_names_increasing rows side config, named, fun d member => ?_⟩
  have datasetListed := (named d.name).1 (List.mem_map_of_mem member)
  have member' := member
  rw [ofRows_eq_ofEntities] at member'
  obtain ⟨-, below, properties, snapshots⟩ := mem_ofEntities_fields side config E.idxOf rs member'
  refine ⟨below, fun n => ?_, fun e => ?_, ?_, listed.named d member, ?_, fun s inD => ?_⟩
  · rw [Dataset.get?, properties, lookupProperty_entity]
  · rw [snapshots, fullName_mem_ownSnapshots_iff side _ E.idxOf rs datasetListed.2.1
      (by rw [below]; rfl) e, members]
  · rw [snapshots]
    exact nodup_fullNames_ownSnapshots side _ E.idxOf rs unique d.name
  · -- positions of discovery are the positions among entities in order of first rows
    have sorted := ownSnapshots_creation_sorted side (config.root side) E.idxOf rs unique injective
      d.name
    rw [snapshots]
    refine sorted.imp fun {s t} before => ?_
    rw [creationBefore, creationKey, creationKey, ← entityOrder_eq_eraseDups]
    exact before
  · obtain ⟨parent, -⟩ := listed.parent d member s inD
    have subparent := listed.subparent d member s inD
    rw [snapshots] at inD
    obtain ⟨-, e, built⟩ := mem_ownSnapshots side _ E.idxOf rs inD
    have full := (Snapshot.ofRows_eq_some built).1
    refine ⟨parent, subparent, parent ▸ datasetListed.1, parent ▸ datasetListed.2, fun n => ?_⟩
    rw [Snapshot.get?, Snapshot.ofRows_properties built, ← full, lookupProperty_entity]

end Pool

end ZfsReplication
