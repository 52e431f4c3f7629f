import Mathlib
import ZfsReplication.Proofs.Plan.Items

/-!
# Pairing two pools by relative name

`matchDatasets` goes through the relative names of both pools once each, in increasing order, and
pairs under each name the last dataset of that name on either side (`matchDatasets_filter_subname`).
Pairing keeps one dataset per relative name and side: a dataset followed in its pool by another of
the same relative name, as `tank` is followed by `tank/`, is in no pair (`exists_pair_a?_iff`).
-/

set_option autoImplicit false

namespace ZfsReplication

/-- The dataset pairing takes from a pool that may be missing, by its relative name. -/
theorem lastNamed_eq_bind_datasetAt (a : Option Pool) (n : String) :
    (((a.map (·.datasets)).getD []).filter (·.subname == n)).getLast? = a.bind (·.datasetAt n) := by
  cases a <;> rfl

theorem filter_beq_of_nodup {l : List String} (unique : l.Nodup) (n : String) :
    l.filter (· == n) = if n ∈ l then [n] else [] := by
  rw [List.filter_beq]
  split
  · next member => rw [List.count_eq_one_of_mem unique member, List.replicate_one]
  · next absent => rw [List.count_eq_zero_of_not_mem absent, List.replicate_zero]

/-- A pool that has no dataset of relative name `n` gives none to pair under it. -/
theorem bind_datasetAt_eq_none {a : Option Pool} {n : String}
    (absent : n ∉ ((a.map (·.datasets)).getD []).map (·.subname)) : a.bind (·.datasetAt n) = none := by
  rw [← lastNamed_eq_bind_datasetAt, List.getLast?_eq_none_iff, List.filter_eq_nil_iff]
  intro d member same
  exact absent (List.mem_map.2 ⟨d, member, by simpa using same⟩)

/-- The pairs of one relative name: exactly one, of the last datasets of that name on either side,
when either pool has a dataset of that name, and none otherwise. -/
theorem matchDatasets_filter_subname (a b : Option Pool) (n : String) :
    (matchDatasets a b).filter (·.item.subname == n) =
      (Paired.ofPair? (a.bind (·.datasetAt n)) (b.bind (·.datasetAt n))).toList := by
  unfold matchDatasets
  dsimp only
  simp only [lastNamed_eq_bind_datasetAt]
  generalize hall : ((a.map (·.datasets)).getD [] ++ (b.map (·.datasets)).getD []).map (·.subname) = all
  let pair := fun k => Paired.ofPair? (a.bind (·.datasetAt k)) (b.bind (·.datasetAt k))
  -- a pair formed under a name carries that name, so choosing the pairs of `n` chooses the name
  have named : ∀ k, (pair k).filter (·.item.subname == n) = if k == n then pair k else none := by
    intro k
    cases paired : pair k with
    | none => simp
    | some item =>
      have subname := Paired.subname_of_ofPair?
        (fun d found => subname_of_lastNamed ((lastNamed_eq_bind_datasetAt a k).trans found))
        (fun d found => subname_of_lastNamed ((lastNamed_eq_bind_datasetAt b k).trans found)) paired
      by_cases same : k = n <;> simp [Option.filter, subname, same]
  have unique := (List.mergeSort_perm all.eraseDups fun x y : String => decide (x ≤ y)).nodup_iff.2
    (nodup_eraseDups_of_lawful all)
  rw [List.filter_filterMap, List.filterMap_congr fun k _ => named k, ← List.filterMap_filter,
    filter_beq_of_nodup unique]
  split
  · rfl
  · next absent =>
    -- a name of neither pool has no dataset on either side
    have missing : n ∉ all := fun member => absent (List.mem_mergeSort.2 (List.mem_eraseDups.2 member))
    rw [← hall, List.map_append, List.mem_append, not_or] at missing
    simp [bind_datasetAt_eq_none missing.1, bind_datasetAt_eq_none missing.2, Paired.ofPair?]

theorem Paired.exists_ofPair?_some_left {α : Type} (x : α) (y : Option α) :
    ∃ item, Paired.ofPair? (some x) y = some item := by
  cases y with
  | none => exact ⟨_, rfl⟩
  | some y => exact ⟨_, rfl⟩

theorem Paired.exists_ofPair?_some_right {α : Type} (x : Option α) (y : α) :
    ∃ item, Paired.ofPair? x (some y) = some item := by
  cases x with
  | none => exact ⟨_, rfl⟩
  | some x => exact ⟨_, rfl⟩

theorem mem_matchDatasets_of_ofPair? {a b : Option Pool} {n : String} {item : Paired Dataset}
    (paired : Paired.ofPair? (a.bind (·.datasetAt n)) (b.bind (·.datasetAt n)) = some item) :
    item ∈ matchDatasets a b := by
  have chosen : item ∈ (matchDatasets a b).filter (·.item.subname == n) := by
    rw [matchDatasets_filter_subname, paired]
    exact List.mem_singleton_self item
  exact List.mem_of_mem_filter chosen

theorem exists_ofPair?_of_mem_matchDatasets {a b : Option Pool} {item : Paired Dataset}
    (member : item ∈ matchDatasets a b) :
    ∃ n, Paired.ofPair? (a.bind (·.datasetAt n)) (b.bind (·.datasetAt n)) = some item := by
  unfold matchDatasets at member
  obtain ⟨n, -, paired⟩ := List.mem_filterMap.1 member
  simp only [lastNamed_eq_bind_datasetAt] at paired
  exact ⟨n, paired⟩

/-- A dataset of side `a` is in a pair exactly when it is the last of its relative name in its
pool. -/
theorem exists_pair_a?_iff {a b : Option Pool} {p : Pool} (present : a = some p) (d : Dataset) :
    (∃ item ∈ matchDatasets a b, item.a? = some d) ↔ p.datasetAt d.subname = some d := by
  subst present
  constructor
  · rintro ⟨item, inPairs, held⟩
    obtain ⟨n, paired⟩ := exists_ofPair?_of_mem_matchDatasets inPairs
    rw [Paired.a?_of_ofPair? paired] at held
    have named : d.subname = n := subname_of_lastNamed ((lastNamed_eq_bind_datasetAt _ n).trans held)
    rw [named]
    exact held
  · intro last
    obtain ⟨item, paired⟩ := Paired.exists_ofPair?_some_left d (b.bind (·.datasetAt d.subname))
    have found : Paired.ofPair? ((some p).bind (·.datasetAt d.subname))
        (b.bind (·.datasetAt d.subname)) = some item := by
      rw [Option.bind_some, last, paired]
    exact ⟨item, mem_matchDatasets_of_ofPair? found, Paired.a?_of_ofPair? paired⟩

/-- A dataset of side `b` is in a pair exactly when it is the last of its relative name in its
pool. -/
theorem exists_pair_b?_iff {a b : Option Pool} {p : Pool} (present : b = some p) (d : Dataset) :
    (∃ item ∈ matchDatasets a b, item.b? = some d) ↔ p.datasetAt d.subname = some d := by
  subst present
  constructor
  · rintro ⟨item, inPairs, held⟩
    obtain ⟨n, paired⟩ := exists_ofPair?_of_mem_matchDatasets inPairs
    rw [Paired.b?_of_ofPair? paired] at held
    have named : d.subname = n := subname_of_lastNamed ((lastNamed_eq_bind_datasetAt _ n).trans held)
    rw [named]
    exact held
  · intro last
    obtain ⟨item, paired⟩ := Paired.exists_ofPair?_some_right (a.bind (·.datasetAt d.subname)) d
    have found : Paired.ofPair? (a.bind (·.datasetAt d.subname))
        ((some p).bind (·.datasetAt d.subname)) = some item := by
      rw [Option.bind_some, last, paired]
    exact ⟨item, mem_matchDatasets_of_ofPair? found, Paired.b?_of_ofPair? paired⟩

/-- Pairing two pools, either of which may be missing: the pairs come in strictly increasing order
of relative name, one for each relative name of either pool, pairing the last datasets of that
name on the two sides (both when both pools have one, else the one there is). A dataset is in a
pair, and then in exactly one, when no later dataset of its pool has its relative name; otherwise
it is in none. -/
theorem matchDatasets_pairs_last (a b : Option Pool) :
    ((matchDatasets a b).map (·.item.subname)).Pairwise (· < ·) ∧
      (∀ n, (matchDatasets a b).filter (·.item.subname == n) =
        (Paired.ofPair? (a.bind (·.datasetAt n)) (b.bind (·.datasetAt n))).toList) ∧
      (∀ p ∈ a, ∀ d ∈ p.datasets,
        (∃ item ∈ matchDatasets a b, item.a? = some d) ↔ p.datasetAt d.subname = some d) ∧
      ∀ p ∈ b, ∀ d ∈ p.datasets,
        (∃ item ∈ matchDatasets a b, item.b? = some d) ↔ p.datasetAt d.subname = some d :=
  ⟨matchDatasets_sorted a b, matchDatasets_filter_subname a b,
    fun _ present d _ => exists_pair_a?_iff present d,
    fun _ present d _ => exists_pair_b?_iff present d⟩

/-- The listing rows of `tank` and `tank/`, which both have the relative name `""`. -/
def shadowedRows : List Row :=
  [⟨"tank", "type", "filesystem", "-"⟩, ⟨"tank/", "type", "filesystem", "-"⟩]

/-- Listed from rows, `tank` comes before `tank/`, and pairing takes only `tank/`: the dataset
`tank` is in no pair. -/
theorem matchDatasets_drops_shadowed :
    ∃ d ∈ (Pool.ofRows shadowedRows .source Fixture.config).datasets,
      ∀ item ∈ matchDatasets (some (Pool.ofRows shadowedRows .source Fixture.config)) none,
        item.a? ≠ some d := by
  have listed : (Pool.ofRows shadowedRows .source Fixture.config).datasets.map (·.name) =
      ["tank", "tank/"] := by
    simp only [Pool.ofRows_eq_insertionSort, Pool.ofEntities, Pool.ownSnapshots_eq_insertionSort]
    decide
  have paired : (matchDatasets (some (Pool.ofRows shadowedRows .source Fixture.config)) none).map
      (·.a?.map (·.name)) = [some "tank/"] := by
    simp only [Pool.ofRows_eq_insertionSort, Pool.ofEntities, Pool.ownSnapshots_eq_insertionSort,
      matchDatasets, mergeSort_string_eq_insertionSort]
    decide
  obtain ⟨d, member, named⟩ : ∃ d ∈ (Pool.ofRows shadowedRows .source Fixture.config).datasets,
      d.name = "tank" := List.mem_map.1 (listed ▸ List.mem_cons_self)
  refine ⟨d, member, fun item inPairs held => ?_⟩
  have shown : some "tank" ∈ [some "tank/"] := by
    rw [← paired, ← named]
    exact List.mem_map.2 ⟨item, inPairs, by rw [held]; rfl⟩
  simp at shown

end ZfsReplication
