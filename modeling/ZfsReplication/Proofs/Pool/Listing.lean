import Mathlib
import ZfsReplication.Pool.Basic

/-!
# Listing a pool

A pool is listed from discovery rows: the rows are grouped by entity in order of first appearance
(`groupRows_eq`), the entities sorted by name, and each dataset's snapshots ordered by creation
(`SnapshotOrder.le`, a lexicographic order in which discovery order breaks ties).

Leaving the rows of some snapshots out of a listing gives the pool listed from all rows less those
snapshots (`Pool.ofRows_filter`): the remaining entities keep their order of discovery among
themselves, so every dataset keeps the order of its remaining snapshots. A listed pool names its
datasets apart, each snapshot lists its dataset as parent, and the snapshots of a dataset are named
apart (`Pool.ofRows_listed`), so a full name tells its snapshot apart (`Snapshot.fullName_inj`).

Merge sort is stable, so under a total preorder it agrees with insertion sort
(`mergeSort_eq_insertionSort_of_preorder`); insertion sort recurses structurally, and a pool
listed from sample rows evaluates by `decide` once its sorts are written so
(`Pool.ofRows_eq_insertionSort`).
-/

set_option autoImplicit false

namespace ZfsReplication

theorem map_filterMap_sublist {α γ : Type} {f : α → Option γ} {g : γ → α} (l : List α)
    (inverse : ∀ x y, f x = some y → g y = x) : List.Sublist ((l.filterMap f).map g) l := by
  induction l with
  | nil => simp
  | cons x rest ih =>
    rw [List.filterMap_cons]
    cases found : f x with
    | none => exact ih.cons x
    | some y =>
      rw [List.map_cons, inverse x y found]
      exact ih.cons_cons x

/-! ## Splitting a snapshot's name -/

namespace Snapshot

/-- A snapshot is listed under its full name, and its dataset's name has no `@`. -/
theorem ofRows_eq_some {fullName : String} {rows : List Row} {side : Side} {root : String}
    {s : Snapshot} (built : ofRows fullName rows side root = some s) :
    s.fullName = fullName ∧ '@' ∉ s.parent.toList := by
  unfold ofRows at built
  split at built
  · cases built
  · next c name split =>
    obtain ⟨subparent, -, rfl⟩ := Option.map_eq_some_iff.1 built
    have atSign : c = '@' := by
      have := List.head_dropWhile_not (fun c => c != '@') (l := fullName.toList) (by simp [split])
      simpa [split] using this
    subst atSign
    have whole : fullName.toList = fullName.toList.takeWhile (· != '@') ++ '@' :: name := by
      rw [← split, List.takeWhile_append_dropWhile]
    refine ⟨?_, fun member => ?_⟩
    · apply String.toList_injective
      simp [Snapshot.fullName]
      exact whole.symm
    · have := List.mem_takeWhile_imp (by simpa using member)
      simp at this

theorem ofRows_subparent {fullName : String} {rows : List Row} {side : Side} {root : String}
    {s : Snapshot} (built : ofRows fullName rows side root = some s) :
    Name.relative root s.parent = some s.subparent := by
  unfold ofRows at built
  split at built
  · cases built
  · obtain ⟨subparent, below, rfl⟩ := Option.map_eq_some_iff.1 built
    exact below

/-- Full names tell apart snapshots whose parents hold no `@`: the first `@` ends the parent. -/
theorem fullName_inj {a b : Snapshot} (atA : '@' ∉ a.parent.toList)
    (atB : '@' ∉ b.parent.toList) (same : a.fullName = b.fullName) :
    a.parent = b.parent ∧ a.name = b.name := by
  have parentOf : ∀ s : Snapshot, '@' ∉ s.parent.toList →
      s.fullName.toList.takeWhile (· != '@') = s.parent.toList := by
    intro s noAt
    rw [fullName, String.toList_append, String.toList_append, List.append_assoc,
      List.takeWhile_append_of_pos fun c member => by
        simp only [bne_iff_ne, ne_eq]
        rintro rfl
        exact noAt member]
    simp
  have parents : a.parent = b.parent :=
    String.ext (by rw [← parentOf a atA, ← parentOf b atB, same])
  refine ⟨parents, String.ext ?_⟩
  have whole := congrArg String.toList same
  simp only [fullName, String.toList_append, parents, List.append_assoc] at whole
  exact List.append_cancel_left (List.append_cancel_left whole)

end Snapshot

/-! ## Grouping rows by entity -/

/-- The entities of discovery rows in order of first appearance. -/
def entityOrder (rows : List Row) : List String := (groupRows rows).map (·.1)

theorem groupRows_append_singleton (rows : List Row) (r : Row) :
    groupRows (rows ++ [r]) =
      if (groupRows rows).any (·.1 == r.entity) then
        (groupRows rows).map fun g => if g.1 == r.entity then (g.1, g.2.1, g.2.2 ++ [r]) else g
      else groupRows rows ++ [(r.entity, (groupRows rows).length, [r])] := by
  unfold groupRows
  rw [List.foldl_append]
  rfl

theorem entityOrder_append_singleton (rows : List Row) (r : Row) :
    entityOrder (rows ++ [r]) =
      if r.entity ∈ entityOrder rows then entityOrder rows else entityOrder rows ++ [r.entity] := by
  have seen : (groupRows rows).any (·.1 == r.entity) = decide (r.entity ∈ entityOrder rows) := by
    rw [Bool.eq_iff_iff, List.any_eq_true, decide_eq_true_iff]
    simp [entityOrder]
  rw [entityOrder, groupRows_append_singleton, seen]
  by_cases present : r.entity ∈ entityOrder rows
  · simp only [present, decide_true, ↓reduceIte, List.map_map]
    rw [entityOrder]
    congr 1
    funext g
    simp only [Function.comp_apply]
    split <;> rfl
  · have absent : decide (r.entity ∈ entityOrder rows) = false := by simpa using present
    rw [absent, entityOrder] at *
    simp [present]

theorem mem_entityOrder {rows : List Row} {e : String} :
    e ∈ entityOrder rows ↔ ∃ r ∈ rows, r.entity = e := by
  induction rows using List.reverseRecOn with
  | nil => simp [entityOrder, groupRows]
  | append_singleton rows r ih =>
    rw [entityOrder_append_singleton]
    split
    · next seen =>
      constructor
      · intro member
        obtain ⟨r', mem, named⟩ := ih.1 member
        exact ⟨r', List.mem_append_left _ mem, named⟩
      · rintro ⟨r', mem, rfl⟩
        rcases List.mem_append.1 mem with mem | last
        · exact ih.2 ⟨r', mem, rfl⟩
        · simp only [List.mem_singleton] at last
          subst last
          exact seen
    · simp [ih, or_comm, eq_comm]

theorem nodup_entityOrder (rows : List Row) : (entityOrder rows).Nodup := by
  induction rows using List.reverseRecOn with
  | nil => simp [entityOrder, groupRows]
  | append_singleton rows r ih =>
    rw [entityOrder_append_singleton]
    split
    · exact ih
    · next fresh =>
      refine List.nodup_append.2 ⟨ih, List.nodup_singleton _, ?_⟩
      intro e member e' last same
      simp only [List.mem_singleton] at last
      exact fresh (last ▸ same ▸ member)

/-- Each entity's group holds its position of first appearance and all its rows, in order. -/
theorem groupRows_eq (rows : List Row) :
    groupRows rows = (entityOrder rows).map fun e =>
      (e, (entityOrder rows).idxOf e, rows.filter (·.entity == e)) := by
  induction rows using List.reverseRecOn with
  | nil => rfl
  | append_singleton rows r ih =>
    have seen : (groupRows rows).any (·.1 == r.entity) = decide (r.entity ∈ entityOrder rows) := by
      rw [Bool.eq_iff_iff, List.any_eq_true, decide_eq_true_iff]
      simp [entityOrder]
    rw [groupRows_append_singleton, entityOrder_append_singleton, seen]
    by_cases present : r.entity ∈ entityOrder rows
    · -- the row joins the group of its entity
      simp only [present, decide_true, ↓reduceIte]
      rw [ih, List.map_map]
      refine List.map_congr_left fun e _ => ?_
      by_cases same : e = r.entity
      · subst same
        simp
      · simp [same, Ne.symm same]
    · -- the row opens a new group at the end
      have none : rows.filter (·.entity == r.entity) = [] := by
        refine List.filter_eq_nil_iff.2 fun r' member same => present ?_
        exact mem_entityOrder.2 ⟨r', member, by simpa using same⟩
      simp only [present, decide_false, Bool.false_eq_true, ↓reduceIte, List.map_append,
        List.map_cons, List.map_nil]
      rw [ih, List.length_map]
      congr 1
      · refine List.map_congr_left fun e member => ?_
        have differ : r.entity ≠ e := fun same => present (same ▸ member)
        simp [List.idxOf_append_of_mem member, differ]
      · rw [List.idxOf_append_of_notMem present, List.filter_append, none]
        simp [entityOrder]

theorem entityOrder_filter (rows : List Row) (keep : String → Bool) :
    entityOrder (rows.filter (keep ·.entity)) = (entityOrder rows).filter keep := by
  induction rows using List.reverseRecOn with
  | nil => rfl
  | append_singleton rows r ih =>
    rw [List.filter_append, entityOrder_append_singleton]
    cases kept : keep r.entity with
    | false =>
      simp only [List.filter_singleton, kept, cond_false, List.append_nil, ih]
      split <;> simp [kept]
    | true =>
      simp only [List.filter_singleton, kept, cond_true, entityOrder_append_singleton, ih,
        List.mem_filter, and_true]
      split <;> simp [kept]

/-- Filtering keeps the order of positions of the items it keeps. -/
theorem idxOf_filter_le_iff {l : List String} (keep : String → Bool) {x y : String}
    (memX : x ∈ l) (memY : y ∈ l) (keptX : keep x) (keptY : keep y) :
    (l.filter keep).idxOf x ≤ (l.filter keep).idxOf y ↔ l.idxOf x ≤ l.idxOf y := by
  induction l with
  | nil => cases memX
  | cons z l ih =>
    by_cases sameX : z = x
    · subst sameX
      simp [keptX]
    · by_cases sameY : z = y
      · subst sameY
        simp [keptY, sameX]
      · have laterX : x ∈ l := (List.mem_cons.1 memX).resolve_left (Ne.symm sameX)
        have laterY : y ∈ l := (List.mem_cons.1 memY).resolve_left (Ne.symm sameY)
        have shifted := ih laterX laterY
        cases kept : keep z <;> simp [kept, sameX, sameY, shifted]

/-! ## Creation order -/

section OptionOrder

variable {x y z : Option Int}

theorem optionLe_trans (first : optionLe x y) (second : optionLe y z) : optionLe x z := by
  cases x <;> cases y <;> cases z <;> simp_all [optionLe]
  omega

theorem optionLe_total (x y : Option Int) : optionLe x y || optionLe y x := by
  cases x <;> cases y <;> simp [optionLe]
  omega

theorem optionLe_antisymm (first : optionLe x y) (second : optionLe y x) : x = y := by
  cases x <;> cases y <;> simp_all [optionLe]
  omega

/-- One component of a lexicographic comparison: optional integers that differ decide it, and
equal ones leave it to the rest. -/
def lexLe (x y : Option Int) (rest : Bool) : Bool := if x != y then optionLe x y else rest

theorem lexLe_trans {r₁ r₂ r₃ : Bool} (first : lexLe x y r₁) (second : lexLe y z r₂)
    (rest : x = y → y = z → r₁ → r₂ → r₃) : lexLe x z r₃ := by
  unfold lexLe at *
  by_cases sameXY : x = y
  · subst sameXY
    by_cases sameYZ : x = z
    · subst sameYZ
      simp_all
    · simp_all
  · by_cases sameYZ : y = z
    · subst sameYZ
      simp_all
    · -- both steps go up strictly, so the ends differ
      have up : optionLe x z := optionLe_trans (by simpa [sameXY] using first)
        (by simpa [sameYZ] using second)
      have differ : x ≠ z := by
        rintro rfl
        exact sameXY (optionLe_antisymm (by simpa [sameXY] using first) (by simpa [sameYZ] using second))
      simp [differ, up]

theorem lexLe_total {r r' : Bool} (rest : x = y → r || r') : lexLe x y r || lexLe y x r' := by
  unfold lexLe
  by_cases same : x = y
  · subst same
    simpa using rest rfl
  · have other : y ≠ x := Ne.symm same
    simpa [same, other] using optionLe_total x y

theorem lexLe_antisymm {r r' : Bool} (first : lexLe x y r) (second : lexLe y x r') :
    x = y ∧ r ∧ r' := by
  unfold lexLe at *
  by_cases same : x = y
  · subst same
    simp_all
  · have other : y ≠ x := Ne.symm same
    exact absurd (optionLe_antisymm (by simpa [same] using first) (by simpa [other] using second)) same

end OptionOrder

namespace SnapshotOrder

theorem le_eq_lexLe (a b : SnapshotOrder) :
    a.le b = lexLe a.createtxg b.createtxg (lexLe a.creation b.creation (decide (a.position ≤ b.position))) := rfl

theorem le_trans {a b c : SnapshotOrder} (first : a.le b) (second : b.le c) : a.le c := by
  rw [le_eq_lexLe] at *
  refine lexLe_trans first second fun _ _ first second => lexLe_trans first second fun _ _ first second => ?_
  simp only [decide_eq_true_eq] at *
  omega

theorem le_total (a b : SnapshotOrder) : a.le b || b.le a := by
  rw [le_eq_lexLe, le_eq_lexLe]
  refine lexLe_total fun _ => lexLe_total fun _ => ?_
  simp only [Bool.or_eq_true, decide_eq_true_eq]
  omega

/-- Two places that compare both ways agree in every component. -/
theorem eq_of_le_of_le {a b : SnapshotOrder} (first : a.le b) (second : b.le a) : a = b := by
  rw [le_eq_lexLe] at first second
  obtain ⟨txg, first, second⟩ := lexLe_antisymm first second
  obtain ⟨cr, first, second⟩ := lexLe_antisymm first second
  simp only [decide_eq_true_eq] at first second
  cases a
  cases b
  simp_all only [mk.injEq, true_and]
  omega

/-- Moving two places in discovery order, keeping their order, keeps how they compare. -/
theorem le_reposition (a b : SnapshotOrder) {p q : Nat} (kept : p ≤ q ↔ a.position ≤ b.position) :
    SnapshotOrder.le { a with position := p } { b with position := q } = a.le b := by
  simp [le, kept]

end SnapshotOrder

/-! ## Sorting part of a list -/

section Sorting

variable {α : Type} (le : α → α → Bool)

/-- Sorting keeps a filter when no two items compare both ways. -/
theorem mergeSort_filter (trans : ∀ a b c, le a b → le b c → le a c)
    (total : ∀ a b, le a b || le b a) (p : α → Bool) {l : List α}
    (antisymm : ∀ a ∈ l, ∀ b ∈ l, le a b → le b a → a = b) :
    (l.filter p).mergeSort le = (l.mergeSort le).filter p := by
  refine List.Perm.eq_of_pairwise (fun a b first second => ?_) (List.pairwise_mergeSort trans total _)
    ((List.pairwise_mergeSort trans total _).filter p) ?_
  · exact antisymm a (List.mem_of_mem_filter (List.mem_mergeSort.1 first))
      b (List.mem_mergeSort.1 (List.mem_filter.1 second).1)
  · exact (List.mergeSort_perm _ _).trans ((List.mergeSort_perm _ _).symm.filter p)

theorem orderedInsert_after {a : α} {l₁ l₂ : List α}
    (sorted : (l₁ ++ a :: l₂).Pairwise (le · ·)) (before : ∀ b ∈ l₁, (!le a b) = true) :
    (l₁ ++ l₂).orderedInsert (le · ·) a = l₁ ++ a :: l₂ := by
  induction l₁ with
  | nil =>
    cases l₂ with
    | nil => rfl
    | cons c l₂ =>
      have first : le a c := (List.pairwise_cons.1 sorted).1 c List.mem_cons_self
      simp [List.orderedInsert_cons, first]
  | cons b l₁ ih =>
    have later : le a b = false := by simpa using before b List.mem_cons_self
    rw [List.cons_append, List.orderedInsert_cons, if_neg (by simp [later]),
      ih (List.pairwise_cons.1 sorted).2 fun x member => before x (List.mem_cons_of_mem b member)]
    rfl

/-- Merge sort is stable, so under a total preorder it agrees with insertion sort, whose
recursion is structural: a sort of sample rows then evaluates by `decide`. -/
theorem mergeSort_eq_insertionSort_of_preorder (trans : ∀ a b c, le a b → le b c → le a c)
    (total : ∀ a b, le a b || le b a) (l : List α) :
    l.mergeSort le = l.insertionSort (le · ·) := by
  induction l with
  | nil => simp
  | cons a l ih =>
    -- `a` lands after the sorted items it must follow and before all others
    obtain ⟨l₁, l₂, sortedCons, sortedRest, before⟩ := List.mergeSort_cons trans total a l
    have sorted := List.pairwise_mergeSort trans total (a :: l)
    rw [sortedCons] at sorted
    rw [List.insertionSort_cons, ← ih, sortedRest, sortedCons, orderedInsert_after le sorted before]

end Sorting

theorem mergeSort_string_eq_insertionSort (l : List String) :
    l.mergeSort (fun x y => decide (x ≤ y)) = l.insertionSort fun x y => decide (x ≤ y) :=
  mergeSort_eq_insertionSort_of_preorder _
    (fun a b c first second => by simpa using String.le_trans (by simpa using first) (by simpa using second))
    (fun a b => by simpa using String.le_total a b) l

/-! ## Pools from entities -/

theorem Dataset.ofRows_filter (side : Side) (root : String) (name : String) (rows : List Row) (snapshots : List Snapshot)
    (keep : Snapshot → Bool) :
    Dataset.ofRows name rows (snapshots.filter keep) side root =
      (Dataset.ofRows name rows snapshots side root).map
        fun d => { d with snapshots := d.snapshots.filter keep } := by
  unfold Dataset.ofRows
  rw [Option.map_map]
  rfl

namespace Pool

/-- The pool with only the snapshots whose full names `keep` accepts. -/
def filterSnapshots (p : Pool) (keep : String → Bool) : Pool :=
  { p with datasets := p.datasets.map fun d => { d with snapshots := d.snapshots.filter (keep ·.fullName) } }

/-- What listing guarantees of a pool: its datasets have distinct names, each snapshot of a
dataset names that dataset as its parent, a name without `@`, and its relative name as
subparent, and no two snapshots of a dataset share a name. -/
structure Listed (p : Pool) : Prop where
  distinct : (p.datasets.map (·.name)).Nodup
  parent : ∀ d ∈ p.datasets, ∀ s ∈ d.snapshots, s.parent = d.name ∧ '@' ∉ s.parent.toList
  subparent : ∀ d ∈ p.datasets, ∀ s ∈ d.snapshots, s.subparent = d.subname
  named : ∀ d ∈ p.datasets, (Chain.names d.snapshots).Nodup

section Entities

variable (side : Side) (root : String) (pos pos' : String → Nat) (rs : String → List Row)
  (keep : String → Bool)

/-- The snapshot entry of one entity at a position of discovery. -/
def entryOf (e : String) (position : Nat) : Option (Snapshot × SnapshotOrder) :=
  if e.toList.contains '@' then
    (Snapshot.ofRows e (rs e) side root).map fun s =>
      (s, SnapshotOrder.mk (s.property "createtxg").integer? (s.property "creation").integer? position)
  else none

theorem snapshotEntries_map (L : List String) :
    snapshotEntries (L.map fun e => (e, pos e, rs e)) side root = L.filterMap fun e => entryOf side root rs e (pos e) := by
  simp only [snapshotEntries, List.filterMap_map]
  rfl

theorem entryOf_eq_some {e : String} {p : Nat} {x : Snapshot × SnapshotOrder} (found : entryOf side root rs e p = some x) :
    x.1.fullName = e ∧ x.2.position = p := by
  unfold entryOf at found
  split at found
  · obtain ⟨s, built, rfl⟩ := Option.map_eq_some_iff.1 found
    exact ⟨(Snapshot.ofRows_eq_some built).1, rfl⟩
  · cases found

theorem entryOf_reposition (e : String) (p p' : Nat) :
    (entryOf side root rs e p).map (fun x => (x.1, { x.2 with position := p' })) = entryOf side root rs e p' := by
  unfold entryOf
  split
  · rw [Option.map_map]
    rfl
  · rfl

/-- Entries of the kept entities, repositioned. -/
theorem snapshotEntries_filter (L : List String) :
    snapshotEntries ((L.filter keep).map fun e => (e, pos' e, rs e)) side root =
      ((snapshotEntries (L.map fun e => (e, pos e, rs e)) side root).filter (keep ·.1.fullName)).map
        fun x => (x.1, { x.2 with position := pos' x.1.fullName }) := by
  rw [snapshotEntries_map, snapshotEntries_map, List.filterMap_filter, List.filter_filterMap, List.map_filterMap]
  refine List.filterMap_congr fun e _ => ?_
  cases found : entryOf side root rs e (pos e) with
  | none =>
    have none' : entryOf side root rs e (pos' e) = none := by
      rw [← entryOf_reposition side root rs e (pos e) (pos' e), found]
      rfl
    simp [none']
  | some x =>
    obtain ⟨named, -⟩ := entryOf_eq_some side root rs found
    have moved := entryOf_reposition side root rs e (pos e) (pos' e)
    rw [found] at moved
    cases kept : keep e with
    | false => simp [named, kept]
    | true =>
      rw [← moved]
      simp only [kept, ↓reduceIte, Option.map_some, Option.filter_some, named]

/-- The own snapshots of a dataset among kept, repositioned entries are its own snapshots that are
kept, when repositioning keeps the order of kept entries and no two entries compare both ways. -/
theorem ownSnapshots_filter (entries : List (Snapshot × SnapshotOrder)) (newPos : Snapshot → Nat)
    (name : String)
    (ordered : ∀ a ∈ entries, ∀ b ∈ entries, keep a.1.fullName → keep b.1.fullName →
      (newPos a.1 ≤ newPos b.1 ↔ a.2.position ≤ b.2.position))
    (distinct : ∀ a ∈ entries, ∀ b ∈ entries, a.2.le b.2 → b.2.le a.2 → a = b) :
    ownSnapshots ((entries.filter (keep ·.1.fullName)).map
        fun x => (x.1, { x.2 with position := newPos x.1 })) name =
      (ownSnapshots entries name).filter (keep ·.fullName) := by
  let reposition := fun x : Snapshot × SnapshotOrder => (x.1, { x.2 with position := newPos x.1 })
  let own := entries.filter (·.1.parent == name)
  have trans : ∀ a b c : Snapshot × SnapshotOrder, a.2.le b.2 → b.2.le c.2 → a.2.le c.2 :=
    fun _ _ _ => SnapshotOrder.le_trans
  have total : ∀ a b : Snapshot × SnapshotOrder, a.2.le b.2 || b.2.le a.2 :=
    fun a b => SnapshotOrder.le_total a.2 b.2
  -- repositioning commutes with choosing the dataset's entries, then with sorting them
  have chosen : ((entries.filter (keep ·.1.fullName)).map reposition).filter (·.1.parent == name) =
      (own.filter (keep ·.1.fullName)).map reposition := by
    rw [List.filter_map, List.filter_filter, List.filter_filter]
    congr 2
    funext x
    exact Bool.and_comm _ _
  have sorted : ((own.filter (keep ·.1.fullName)).map reposition).mergeSort (fun a b => a.2.le b.2) =
      ((own.filter (keep ·.1.fullName)).mergeSort (fun a b => a.2.le b.2)).map reposition := by
    refine (List.map_mergeSort fun a memA b memB => ?_).symm
    obtain ⟨inOwn, keptA⟩ := List.mem_filter.1 memA
    obtain ⟨inOwn', keptB⟩ := List.mem_filter.1 memB
    exact (SnapshotOrder.le_reposition a.2 b.2 (ordered a (List.mem_of_mem_filter inOwn)
      b (List.mem_of_mem_filter inOwn') keptA keptB)).symm
  unfold ownSnapshots
  rw [chosen, sorted, mergeSort_filter _ trans total _
    fun a memA b memB => distinct a (List.mem_of_mem_filter memA) b (List.mem_of_mem_filter memB),
    List.map_map, List.filter_map]
  rfl

theorem ownSnapshots_eq_insertionSort (entries : List (Snapshot × SnapshotOrder)) (name : String) :
    ownSnapshots entries name =
      ((entries.filter (·.1.parent == name)).insertionSort fun a b => a.2.le b.2).map (·.1) := by
  unfold ownSnapshots
  rw [mergeSort_eq_insertionSort_of_preorder (fun a b : Snapshot × SnapshotOrder => a.2.le b.2)
    (fun a b c => SnapshotOrder.le_trans) (fun a b => SnapshotOrder.le_total a.2 b.2)]

theorem mem_snapshotEntries {L : List String} {x : Snapshot × SnapshotOrder}
    (member : x ∈ snapshotEntries (L.map fun e => (e, pos e, rs e)) side root) :
    x.1.fullName ∈ L ∧ x.2.position = pos x.1.fullName := by
  rw [snapshotEntries_map] at member
  obtain ⟨e, inL, found⟩ := List.mem_filterMap.1 member
  obtain ⟨named, position⟩ := entryOf_eq_some side root rs found
  exact ⟨named ▸ inL, named ▸ position⟩

theorem nodup_snapshotEntries {L : List String} (unique : L.Nodup) :
    ((snapshotEntries (L.map fun e => (e, pos e, rs e)) side root).map (·.1.fullName)).Nodup := by
  rw [snapshotEntries_map]
  exact (map_filterMap_sublist L fun e x found => (entryOf_eq_some side root rs found).1).nodup unique

theorem nodup_ownSnapshots {entries : List (Snapshot × SnapshotOrder)}
    (unique : (entries.map (·.1.fullName)).Nodup) (name : String) :
    (Chain.names (ownSnapshots entries name)).Nodup := by
  let own := (entries.filter (·.1.parent == name)).mergeSort fun a b => a.2.le b.2
  have full : (own.map (·.1.fullName)).Nodup :=
    ((List.mergeSort_perm _ _).map _).nodup_iff.2 (unique.sublist (List.filter_sublist.map _))
  have named : own.map (·.1.fullName) = (own.map (·.1.name)).map fun n => name ++ "@" ++ n := by
    rw [List.map_map]
    refine List.map_congr_left fun x member => ?_
    have parent := (List.mem_filter.1 (List.mem_mergeSort.1 member)).2
    simp only [Function.comp_apply, Snapshot.fullName, beq_iff_eq.1 parent]
  have names_own : Chain.names (ownSnapshots entries name) = own.map (·.1.name) := by
    simp only [ownSnapshots, Chain.names, List.map_map]
    rfl
  rw [names_own]
  exact (named ▸ full).of_map _

/-- A pool built from the kept entities, repositioned in order, is the pool built from all of them
less the snapshots not kept, when only snapshots are left out. -/
theorem ofEntities_filter (config : Config) {L : List String} (unique : L.Nodup)
    (injective : ∀ x ∈ L, ∀ y ∈ L, pos x = pos y → x = y)
    (ordered : ∀ x ∈ L, ∀ y ∈ L, keep x → keep y → (pos' x ≤ pos' y ↔ pos x ≤ pos y))
    (onlySnapshots : ∀ e, keep e = false → '@' ∈ e.toList) :
    ofEntities ((L.filter keep).map fun e => (e, pos' e, rs e)) side config =
      (ofEntities (L.map fun e => (e, pos e, rs e)) side config).filterSnapshots keep := by
  let entries := snapshotEntries (L.map fun e => (e, pos e, rs e)) side (config.root side)
  have own : ∀ name, ownSnapshots (snapshotEntries ((L.filter keep).map fun e => (e, pos' e, rs e))
      side (config.root side)) name = (ownSnapshots entries name).filter (keep ·.fullName) := by
    intro name
    rw [snapshotEntries_filter]
    refine ownSnapshots_filter keep entries (fun s => pos' s.fullName) name
      (fun a memA b memB keptA keptB => ?_) (fun a memA b memB first second => ?_)
    · obtain ⟨inA, positionA⟩ := mem_snapshotEntries side _ pos rs memA
      obtain ⟨inB, positionB⟩ := mem_snapshotEntries side _ pos rs memB
      rw [positionA, positionB]
      exact ordered _ inA _ inB keptA keptB
    · obtain ⟨inA, positionA⟩ := mem_snapshotEntries side _ pos rs memA
      obtain ⟨inB, positionB⟩ := mem_snapshotEntries side _ pos rs memB
      have samePlace := SnapshotOrder.eq_of_le_of_le first second
      have sameName := injective _ inA _ inB (by rw [← positionA, ← positionB, samePlace])
      exact List.inj_on_of_nodup_map (nodup_snapshotEntries side _ pos rs unique) memA memB sameName
  unfold ofEntities filterSnapshots
  simp only [List.filterMap_map, List.filterMap_filter, List.map_filterMap, Pool.mk.injEq, and_true]
  refine List.filterMap_congr fun e _ => ?_
  cases kept : keep e with
  | false =>
    have atSign : e.toList.contains '@' = true := by simpa using onlySnapshots e kept
    simp only [Function.comp_apply, atSign, Bool.true_or, Bool.false_eq_true, ↓reduceIte,
      Option.map_none]
  | true =>
    simp only [Function.comp_apply, ↓reduceIte]
    split
    · rfl
    · rw [own, Dataset.ofRows_filter]

theorem mem_ofEntities (config : Config) {L : List String} {d : Dataset}
    (member : d ∈ (ofEntities (L.map fun e => (e, pos e, rs e)) side config).datasets) :
    Name.relative (config.root side) d.name = some d.subname ∧
      d.snapshots = ownSnapshots (snapshotEntries (L.map fun e => (e, pos e, rs e)) side
        (config.root side)) d.name := by
  unfold ofEntities at member
  simp only [List.filterMap_map] at member
  obtain ⟨e, -, built⟩ := List.mem_filterMap.1 member
  simp only [Function.comp_apply] at built
  split at built
  · cases built
  · obtain ⟨subname, below, rfl⟩ := Option.map_eq_some_iff.1 built
    exact ⟨below, rfl⟩

theorem mem_ownSnapshots {L : List String} {name : String} {s : Snapshot}
    (member : s ∈ ownSnapshots (snapshotEntries (L.map fun e => (e, pos e, rs e)) side root) name) :
    s.parent = name ∧ ∃ e, Snapshot.ofRows e (rs e) side root = some s := by
  obtain ⟨x, chosen, rfl⟩ := List.mem_map.1 member
  obtain ⟨inEntries, parent⟩ := List.mem_filter.1 (List.mem_mergeSort.1 chosen)
  rw [snapshotEntries_map] at inEntries
  obtain ⟨e, -, found⟩ := List.mem_filterMap.1 inEntries
  unfold entryOf at found
  split at found
  · obtain ⟨s, built, rfl⟩ := Option.map_eq_some_iff.1 found
    exact ⟨by simpa using parent, e, built⟩
  · cases found

theorem ofEntities_listed (config : Config) {L : List String} (unique : L.Nodup) :
    (ofEntities (L.map fun e => (e, pos e, rs e)) side config).Listed := by
  constructor
  · unfold ofEntities
    simp only [List.filterMap_map]
    refine (map_filterMap_sublist L fun e d built => ?_).nodup unique
    simp only [Function.comp_apply] at built
    split at built
    · cases built
    · obtain ⟨subname, -, rfl⟩ := Option.map_eq_some_iff.1 built
      rfl
  · intro d member s inD
    obtain ⟨-, own⟩ := mem_ofEntities side pos rs config member
    rw [own] at inD
    obtain ⟨parent, e, built⟩ := mem_ownSnapshots side _ pos rs inD
    exact ⟨parent, (Snapshot.ofRows_eq_some built).2⟩
  · intro d member s inD
    obtain ⟨below, own⟩ := mem_ofEntities side pos rs config member
    rw [own] at inD
    obtain ⟨parent, e, built⟩ := mem_ownSnapshots side _ pos rs inD
    have relative := Snapshot.ofRows_subparent built
    rw [parent, below] at relative
    exact (Option.some.inj relative).symm
  · intro d member
    obtain ⟨-, own⟩ := mem_ofEntities side pos rs config member
    rw [own]
    exact nodup_ownSnapshots (nodup_snapshotEntries side _ pos rs unique) d.name

end Entities

/-- A listed pool is built from its entities in name order, each at its position of first
appearance and with all its rows. -/
theorem ofRows_eq_ofEntities (rows : List Row) (side : Side) (config : Config) :
    ofRows rows side config = ofEntities (((entityOrder rows).mergeSort fun a b => decide (a ≤ b)).map
      fun e => (e, (entityOrder rows).idxOf e, rows.filter (·.entity == e))) side config := by
  have sorted : ((entityOrder rows).mergeSort fun a b => decide (a ≤ b)).map
      (fun e => (e, (entityOrder rows).idxOf e, rows.filter (·.entity == e))) =
      ((entityOrder rows).map fun e => (e, (entityOrder rows).idxOf e,
        rows.filter (·.entity == e))).mergeSort fun a b => decide (a.1 ≤ b.1) :=
    List.map_mergeSort fun _ _ _ _ => rfl
  rw [sorted, ← groupRows_eq]
  rfl

/-- A listing with its sorts done by insertion, the form in which listings of sample rows
evaluate. -/
theorem ofRows_eq_insertionSort (rows : List Row) (side : Side) (config : Config) :
    ofRows rows side config =
      ofEntities ((groupRows rows).insertionSort fun a b => decide (a.1 ≤ b.1)) side config := by
  rw [ofRows, mergeSort_eq_insertionSort_of_preorder _
    (fun a b c first second => by simpa using String.le_trans (by simpa using first) (by simpa using second))
    (fun a b => by simpa using String.le_total a.1 b.1)]

theorem ofRows_listed (rows : List Row) (side : Side) (config : Config) :
    (ofRows rows side config).Listed := by
  rw [ofRows_eq_ofEntities]
  exact ofEntities_listed side _ _ config
    ((List.mergeSort_perm _ _).nodup_iff.2 (nodup_entityOrder rows))

/-- Listing a pool without the rows of some snapshots gives the pool without those snapshots. -/
theorem ofRows_filter (rows : List Row) (side : Side) (config : Config) (keep : String → Bool)
    (onlySnapshots : ∀ e, keep e = false → '@' ∈ e.toList) :
    ofRows (rows.filter (keep ·.entity)) side config =
      (ofRows rows side config).filterSnapshots keep := by
  let E := entityOrder rows
  have trans : ∀ a b c : String, decide (a ≤ b) → decide (b ≤ c) → decide (a ≤ c) := by
    simpa using fun a b c => @le_trans String _ a b c
  have total : ∀ a b : String, decide (a ≤ b) || decide (b ≤ a) := by
    simpa using fun a b => le_total a b
  -- a kept entity keeps all its rows
  have sameRows : ∀ e ∈ (E.mergeSort fun a b => decide (a ≤ b)).filter keep,
      (e, (E.filter keep).idxOf e, (rows.filter (keep ·.entity)).filter (·.entity == e)) =
        (e, (E.filter keep).idxOf e, rows.filter (·.entity == e)) := by
    intro e member
    have keptE := (List.mem_filter.1 member).2
    rw [List.filter_filter]
    congr 2
    refine List.filter_congr fun r _ => ?_
    by_cases same : r.entity = e
    · simp [same, keptE]
    · simp [same]
  have sameMembers : ∀ x, x ∈ E.mergeSort (fun a b => decide (a ≤ b)) ↔ x ∈ E := fun x =>
    List.mem_mergeSort
  rw [ofRows_eq_ofEntities, ofRows_eq_ofEntities, entityOrder_filter,
    mergeSort_filter _ trans total _ fun a _ b _ first second =>
      le_antisymm (of_decide_eq_true first) (of_decide_eq_true second),
    List.map_congr_left sameRows]
  exact ofEntities_filter side E.idxOf (E.filter keep).idxOf _ keep config
    ((List.mergeSort_perm _ _).nodup_iff.2 (nodup_entityOrder rows))
    (fun x memX y _ same => (List.idxOf_inj ((sameMembers x).1 memX)).1 same)
    (fun x memX y memY keptX keptY =>
      idxOf_filter_le_iff keep ((sameMembers x).1 memX) ((sameMembers y).1 memY) keptX keptY)
    onlySnapshots

end Pool

end ZfsReplication
