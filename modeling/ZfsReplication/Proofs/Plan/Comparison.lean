import ZfsReplication.Proofs.Plan.Transfer
import ZfsReplication.Proofs.Chain.Folding
import ZfsReplication.Proofs.Chain.Refusal

/-!
# Comparing a dataset pair: folded snapshots and the other side

Under tagging a comparison aligns only the marked snapshots of each side, and folds the foreign
ones into the next marked snapshot (`Chain.Folded`). A transfer of a marked snapshot is sent from
the marked snapshot before it (`Dataset.ancestorOf`), and reports as folded into it exactly what
lies between the two in the dataset (`tagged_chain_folding`): two separate walks over the chain,
one at comparison and one at planning, agree.

Comparing a pair from the other side, as target cleanup does with the pairs backup planning
compares, gives the same comparison with its sides swapped (`alignment_symmetric`).
-/

set_option autoImplicit false

namespace ZfsReplication

open Chain

/-! ## Folded snapshots of a tagged transfer -/

namespace Dataset

variable (d : Dataset) {pre between post : List Snapshot} {s : Snapshot}

theorem filter_getLast?_of_endsMarked {pre : List Snapshot}
    (endsMarked : ∀ x ∈ pre.getLast?, x.isMarked = true) :
    (pre.filter Snapshot.isMarked).getLast? = pre.getLast? := by
  cases pre using List.reverseRecOn with
  | nil => rfl
  | append_singleton pre z => simp [List.filter_append, endsMarked z (by simp)]

/-- Under tagging a marked snapshot is sent from the marked snapshot before it. -/
theorem ancestorOf_tagged_of_parts (unique : (names d.snapshots).Nodup)
    (parts : d.snapshots = pre ++ between ++ s :: post) (marked : s.isMarked = true)
    (unmarked : ∀ x ∈ between, x.isMarked = false)
    (endsMarked : ∀ x ∈ pre.getLast?, x.isMarked = true) :
    d.ancestorOf s true = pre.getLast? := by
  have kept : d.chain true = pre.filter Snapshot.isMarked ++ s :: post.filter Snapshot.isMarked := by
    have skipped : between.filter Snapshot.isMarked = [] :=
      List.filter_eq_nil_iff.2 fun x member => by simp [unmarked x member]
    simp [Dataset.chain, parts, List.filter_append, skipped, marked]
  rw [ancestorOf_eq, Snapshot.ancestorIn_of_parts (nodup_chain unique true) kept,
    filter_getLast?_of_endsMarked endsMarked]

/-- Under tagging a comparison files under a marked snapshot of side `a` the snapshots between it
and the marked snapshot before it. -/
theorem aIntermediates_of_parts {item : Paired Dataset} {c : DatasetComparison}
    (side : item.a? = some d) (compared : DatasetComparison.ofPair item true = .ok c)
    (unique : (names d.snapshots).Nodup) (parts : d.snapshots = pre ++ between ++ s :: post)
    (marked : s.isMarked = true) (unmarked : ∀ x ∈ between, x.isMarked = false)
    (endsMarked : ∀ x ∈ pre.getLast?, x.isMarked = true) :
    c.aIntermediates s.name = between := by
  obtain ⟨merged, -, rfl⟩ := DatasetComparison.ofPair_eq_ok.1 compared
  have filed := (squash_folded Snapshot.isMarked d.snapshots unique).intermediates parts marked
    unmarked endsMarked
  simp only [Snapshot.named] at filed
  simp only [DatasetComparison.aIntermediates, side, DatasetComparison.prepare, Option.map_some,
    Option.getD_some, ↓reduceIte, filed]
  split
  · next empty => exact empty.symm
  · rfl

end Dataset

/-- Folding keeps the marked items of a chain without repeated names and files the runs of
unmarked items between them under the next marked one, giving the chain back when put together.
For a dataset whose chain is split at a marked snapshot `s`, behind a run `between` of unmarked
snapshots that starts the chain or follows a marked one, a tagged transfer of `s` is sent from the
snapshot before the run, and the comparison reports `between` as folded into `s`. -/
theorem tagged_chain_folding :
    (∀ {α : Type} [Named α] (isMarked : α → Bool) (xs : List α), (names xs).Nodup →
        Folded isMarked xs (squash isMarked xs)) ∧
      ∀ (d : Dataset), (names d.snapshots).Nodup →
        ∀ {pre between post : List Snapshot} {s : Snapshot},
          d.snapshots = pre ++ between ++ s :: post → s.isMarked = true →
          (∀ x ∈ between, x.isMarked = false) → (∀ x ∈ pre.getLast?, x.isMarked = true) →
          d.ancestorOf s true = pre.getLast? ∧
            ∀ (item : Paired Dataset) (c : DatasetComparison), item.a? = some d →
              DatasetComparison.ofPair item true = .ok c → c.aIntermediates s.name = between := by
  refine ⟨fun isMarked xs unique => squash_folded isMarked xs unique, ?_⟩
  intro d unique pre between post s parts marked unmarked endsMarked
  exact ⟨d.ancestorOf_tagged_of_parts unique parts marked unmarked endsMarked,
    fun item c side compared =>
      d.aIntermediates_of_parts side compared unique parts marked unmarked endsMarked⟩

/-- A snapshot of `tank/a`, marked or foreign. -/
def sampleSnapshot (name : String) (marked : Bool) : Snapshot :=
  ⟨name, "tank/a", "a",
    if marked then [⟨Shell.markerProperty, some (.text Shell.markerValue), some (.text "local")⟩]
    else [],
    .source⟩

/-- A dataset with foreign snapshots before, between and after its two marked ones. -/
def foldingSample : Dataset :=
  ⟨"tank/a", "a", [],
    [sampleSnapshot "auto1" false, sampleSnapshot "b1" true, sampleSnapshot "auto2" false,
      sampleSnapshot "auto3" false, sampleSnapshot "b2" true, sampleSnapshot "auto4" false],
    .source⟩

theorem tagged_chain_folding_sample :
    Folded (fun n : String => n.startsWith "b") ["auto1", "b1", "auto2", "b2"]
        (squash (fun n : String => n.startsWith "b") ["auto1", "b1", "auto2", "b2"]) ∧
      foldingSample.ancestorOf (sampleSnapshot "b2" true) true = some (sampleSnapshot "b1" true) ∧
      ∃ c, DatasetComparison.ofPair (.onlyA foldingSample) true = .ok c ∧
        c.aIntermediates "b2" = [sampleSnapshot "auto2" false, sampleSnapshot "auto3" false] := by
  have parts : foldingSample.snapshots =
      [sampleSnapshot "auto1" false, sampleSnapshot "b1" true] ++
        [sampleSnapshot "auto2" false, sampleSnapshot "auto3" false] ++
        sampleSnapshot "b2" true :: [sampleSnapshot "auto4" false] := rfl
  have sample := tagged_chain_folding.2 foldingSample (by decide) parts (by decide) (by decide)
    (by decide)
  exact ⟨tagged_chain_folding.1 _ _ (by decide), sample.1, _, rfl,
    sample.2 (.onlyA foldingSample) _ rfl rfl⟩

/-! ## The other side -/

/-- Chains align in one order exactly when they align in the other, and then in the other order
every position is the same with its sides swapped. So a dataset pair compared from the other side,
as target cleanup compares the pairs backup planning compares, gives the same comparison with its
sides swapped. -/
theorem alignment_symmetric :
    (∀ {α : Type} [Named α] (as bs : List α),
        ((∃ m, align as bs = .ok m) ↔ ∃ m, align bs as = .ok m) ∧
          ∀ m, align as bs = .ok m → align bs as = .ok (m.map Paired.swap)) ∧
      ∀ (item : Paired Dataset) (tagging : Bool) (c : DatasetComparison),
        DatasetComparison.ofPair item tagging = .ok c →
          DatasetComparison.ofPair item.swap tagging =
            .ok ⟨c.b, c.a, c.merged.map Paired.swap, c.intermediatesB, c.intermediatesA⟩ := by
  refine ⟨fun as bs => ⟨?_, fun m accepted => align_swap_of_ok accepted⟩, ?_⟩
  · constructor
    · rintro ⟨m, accepted⟩
      exact ⟨_, align_swap_of_ok accepted⟩
    · rintro ⟨m, accepted⟩
      exact ⟨_, align_swap_of_ok accepted⟩
  · intro item tagging c compared
    obtain ⟨merged, aligned, rfl⟩ := DatasetComparison.ofPair_eq_ok.1 compared
    exact DatasetComparison.ofPair_eq_ok.2
      ⟨_, by simpa using align_swap_of_ok aligned, by simp⟩

theorem alignment_symmetric_sample :
    align ["s1", "s2", "s3"] ["s2", "s3", "s4", "s5"] =
        .ok [.onlyA "s1", .both "s2" "s2", .both "s3" "s3", .onlyB "s4", .onlyB "s5"] ∧
      align ["s2", "s3", "s4", "s5"] ["s1", "s2", "s3"] =
        .ok [.onlyB "s1", .both "s2" "s2", .both "s3" "s3", .onlyA "s4", .onlyA "s5"] ∧
      ∃ c, DatasetComparison.ofPair (.onlyA foldingSample) true = .ok c ∧
        DatasetComparison.ofPair (.onlyB foldingSample) true =
          .ok ⟨c.b, c.a, c.merged.map Paired.swap, c.intermediatesB, c.intermediatesA⟩ := by
  have accepted : align ["s1", "s2", "s3"] ["s2", "s3", "s4", "s5"] =
      .ok [.onlyA "s1", .both "s2" "s2", .both "s3" "s3", .onlyB "s4", .onlyB "s5"] := rfl
  exact ⟨accepted, (alignment_symmetric.1 _ _).2 _ accepted, _, rfl,
    alignment_symmetric.2 (.onlyA foldingSample) true _ rfl⟩

end ZfsReplication
