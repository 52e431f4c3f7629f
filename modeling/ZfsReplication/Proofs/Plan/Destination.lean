import Mathlib
import ZfsReplication.Proofs.Pool.Pairing

/-!
# Where a transfer lands

A source snapshot is received into the target root joined with the snapshot's relative dataset,
and its marker is set on the snapshot of its own name there (`Snapshot.transfer_lands_at_join`).
Listing the target reads that dataset back relative to the root. Joining trims slashes and blanks
from the ends of each part while reading back strips the root as it stands, so the relative name
comes back exactly when it has no slash or blank at an end and the root is not empty, or the
relative name is empty (`Name.relative_join_iff`). A source dataset `tank/ a`, of relative name
` a`, is received into `backup/a`, which the target lists under `a`
(`Name.relative_join_padded`).
-/

set_option autoImplicit false

namespace ZfsReplication

namespace Text

variable {p : Char → Bool} {cs : List Char}

theorem trimBy_eq_rdropWhile : trimBy p cs = (cs.dropWhile p).rdropWhile p := rfl

theorem head?_trimBy : ∀ c ∈ (trimBy p cs).head?, p c = false := by
  intro c first
  obtain ⟨rest, whole⟩ : trimBy p cs <+: cs.dropWhile p := List.rdropWhile_prefix _ _
  have kept := List.head?_dropWhile_not p cs
  rw [← whole, List.head?_append, Option.mem_def.1 first] at kept
  exact kept

theorem getLast?_trimBy : ∀ c ∈ (trimBy p cs).getLast?, p c = false := by
  intro c last
  have nonempty : trimBy p cs ≠ [] := by
    intro empty
    simp [empty] at last
  rw [List.getLast?_eq_some_getLast nonempty, Option.mem_def, Option.some.injEq] at last
  subst last
  exact Bool.eq_false_iff.2 (List.rdropWhile_last_not p (cs.dropWhile p) nonempty)

/-- Text that starts and ends with characters that are kept is left as it is. -/
theorem trimBy_eq_self (first : ∀ c ∈ cs.head?, p c = false)
    (last : ∀ c ∈ cs.getLast?, p c = false) : trimBy p cs = cs := by
  have dropped : cs.dropWhile p = cs := by
    rw [List.dropWhile_eq_self_iff]
    intro nonempty
    cases cs with
    | nil => cases nonempty
    | cons c rest => simpa using first c rfl
  rw [trimBy_eq_rdropWhile, dropped, List.rdropWhile_eq_self_iff]
  intro nonempty
  simpa using last _ (List.getLast?_eq_some_getLast nonempty)

@[simp] theorem trimBy_trimBy : trimBy p (trimBy p cs) = trimBy p cs :=
  trimBy_eq_self head?_trimBy getLast?_trimBy

end Text

namespace Name

open Text

/-- A name part without a slash or a blank at either end, which joining leaves as it is. -/
def Trimmed (s : String) : Prop := trimBy isEdge s.toList = s.toList

instance (s : String) : Decidable (Trimmed s) := inferInstanceAs (Decidable (_ = _))

theorem join_toList (a b : String) :
    (join a b).toList =
      let x := trimBy isEdge a.toList
      let y := trimBy isEdge b.toList
      if x = [] then y else if y = [] then x else x ++ '/' :: y := by
  simp only [join, List.map_cons, List.map_nil, String.toList_ofList]
  by_cases emptyA : trimBy isEdge a.toList = [] <;> by_cases emptyB : trimBy isEdge b.toList = [] <;>
    simp [emptyA, emptyB]

/-- A joined name, the root of a side among them, has no slash or blank at either end. -/
theorem join_trimmed (a b : String) : Trimmed (join a b) := by
  unfold Trimmed
  rw [join_toList]
  dsimp only
  split
  · exact trimBy_trimBy
  · split
    · exact trimBy_trimBy
    · next emptyA emptyB =>
      -- the first part gives the first character and the second part the last
      apply trimBy_eq_self
      · intro c first
        rw [List.head?_append_of_ne_nil _ emptyA] at first
        exact head?_trimBy c first
      · intro c last
        rw [← List.singleton_append, ← List.append_assoc, List.getLast?_append_of_ne_nil _ emptyB]
          at last
        exact getLast?_trimBy c last

theorem join_of_trimmed {root : String} (trimmed : Trimmed root) (rest : String) :
    (join root rest).toList =
      if root = "" then trimBy isEdge rest.toList
      else if trimBy isEdge rest.toList = [] then root.toList
      else root.toList ++ '/' :: trimBy isEdge rest.toList := by
  unfold Trimmed at trimmed
  rw [join_toList]
  simp only [trimmed, String.toList_eq_nil_iff]

@[simp] theorem relative_self (root : String) : relative root root = some "" := by
  simp [relative, ← String.length_toList]

theorem relative_append_slash (root : String) (rest : List Char) :
    relative root (String.ofList (root.toList ++ '/' :: rest)) = some (String.ofList rest) := by
  simp [relative, String.length_toList]

theorem relative_empty_root {rest : List Char} (unslashed : ∀ c ∈ rest.head?, c ≠ '/') :
    relative "" (String.ofList rest) = if rest = [] then some "" else none := by
  cases rest with
  | nil => simp [relative]
  | cons c more =>
    have notSlash := unslashed c rfl
    simp only [relative, String.toList_ofList, List.cons_ne_nil, if_false]
    split <;> simp_all

/-- Stripping the root from a name joined to it gives the relative part back exactly when that part
has no slash or blank at its ends and, unless it is empty, the root is not empty: joining trims
the part, and a name below the empty root would have to start with a slash. -/
theorem relative_join_iff {root : String} (trimmed : Trimmed root) (rest : String) :
    relative root (join root rest) = some rest ↔ Trimmed rest ∧ (root ≠ "" ∨ rest = "") := by
  have unslashed : ∀ c ∈ (trimBy isEdge rest.toList).head?, c ≠ '/' := by
    intro c first slash
    simpa [slash, isEdge] using head?_trimBy c first
  have emptyRest : Trimmed rest → trimBy isEdge rest.toList = [] → rest = "" := by
    intro same empty
    rw [← String.toList_eq_nil_iff, ← same, empty]
  rw [← String.ofList_toList (s := join root rest), join_of_trimmed trimmed]
  by_cases emptyRoot : root = ""
  · -- below the empty root only the empty name reads back
    subst emptyRoot
    simp only [if_true, relative_empty_root unslashed, ne_eq, not_true_eq_false, false_or]
    split
    · next empty =>
      constructor
      · rintro ⟨⟩
        exact ⟨by simp [Trimmed, trimBy], rfl⟩
      · rintro ⟨-, rfl⟩
        rfl
    · next nonempty =>
      simp only [reduceCtorEq, false_iff, not_and]
      rintro same rfl
      exact nonempty (by simp [trimBy])
  · simp only [emptyRoot, if_false, ne_eq, not_false_eq_true, true_or, and_true]
    split
    · next empty =>
      rw [String.ofList_toList, relative_self, Option.some.injEq]
      exact ⟨fun same => by subst same; simp [Trimmed, trimBy], fun same => (emptyRest same empty).symm⟩
    · next nonempty =>
      rw [relative_append_slash, Option.some.injEq, Trimmed]
      constructor
      · intro read
        rw [← read, String.toList_ofList, trimBy_trimBy]
      · intro same
        rw [same, String.ofList_toList]

/-- The source dataset `tank/ a` has the relative name ` a`; joined to the target root it becomes
`backup/a`, which reads back as `a`. -/
theorem relative_join_padded :
    relative (Fixture.config.root .source) "tank/ a" = some " a" ∧
      relative (Fixture.config.root .target) (join (Fixture.config.root .target) " a") ≠
        some " a" := by
  decide

end Name

/-- Every dataset of a listed pool lies below the side's root under its relative name. -/
theorem Pool.relative_of_mem_ofRows {rows : List Row} {side : Side} {config : Config} {d : Dataset}
    (member : d ∈ (Pool.ofRows rows side config).datasets) :
    Name.relative (config.root side) d.name = some d.subname := by
  rw [Pool.ofRows_eq_ofEntities] at member
  exact (Pool.mem_ofEntities side _ _ config member).1

/-- Pairing takes the last datasets of one relative name on the two sides together. -/
theorem both_mem_matchDatasets {a b : Pool} {n : String} {x y : Dataset}
    (lastA : a.datasetAt n = some x) (lastB : b.datasetAt n = some y) :
    Paired.both x y ∈ matchDatasets (some a) (some b) := by
  have chosen : Paired.both x y ∈ (matchDatasets (some a) (some b)).filter (·.item.subname == n) := by
    rw [matchDatasets_filter_subname]
    simp [lastA, lastB, Paired.ofPair?]
  exact List.mem_of_mem_filter chosen

namespace Snapshot

open Shell

variable {s : Snapshot} (config : Config)

/-- A source snapshot is sent by a pipeline from the source into a receiving side on the target,
whose last stage receives into the target root joined with the snapshot's relative dataset. -/
theorem backupTransaction_receives (source : s.side = .source) (ancestor : Option Snapshot)
    (n : Nat) :
    ∃ t, s.backupTransaction ancestor n config = .ok t ∧
      ∃ send receive : Command,
        t.command = (send.forSide .source config).pipe (receive.forSide .target config) ∧
        receive.stages.getLast? =
          some ["zfs", "receive", Name.join (config.root .target) s.subparent] := by
  have side : requireSide .source s.side = .ok () := by simp [requireSide, source]
  simp only [backupTransaction, side, except_ok_bind, pure, Except.pure, Except.ok.injEq,
    exists_eq_left', Transaction.new]
  refine ⟨_, _, rfl, ?_⟩
  -- with or without processing before it, the last stage receives
  split <;> rfl

/-- A source snapshot is marked on the target under its own name, in the target root joined with
its relative dataset. -/
theorem tagTransaction_marks (source : s.side = .source) :
    ∃ t, s.tagTransaction config = .ok t ∧
      t.command = (zfsSet markerProperty markerValue
        (Name.join (config.root .target) s.subparent ++ "@" ++ s.name)).forSide .target config := by
  have side : requireSide .source s.side = .ok () := by simp [requireSide, source]
  simp only [tagTransaction, side, except_ok_bind, pure, Except.pure, Except.ok.injEq,
    exists_eq_left', Transaction.new]

/-- Where the copy of a source snapshot lands on the target, and how listing the target sees it:
the transfer receives into the target root joined with the snapshot's relative dataset and the
marker is set on the snapshot of its name there; that dataset reads back under the snapshot's
relative dataset exactly when that name has no slash or blank at an end and the target root is
not empty, or the name is empty; a target listed from any rows gives a dataset of the joined name
that relative name under the same condition, and then pairing takes it together with the source
dataset of that relative name when each is the last of that name in its pool. -/
structure Destination (s : Snapshot) : Prop where
  receives : ∀ ancestor n, ∃ t, s.backupTransaction ancestor n config = .ok t ∧
    ∃ send receive : Command,
      t.command = (send.forSide .source config).pipe (receive.forSide .target config) ∧
      receive.stages.getLast? = some ["zfs", "receive", Name.join (config.root .target) s.subparent]
  marks : ∃ t, s.tagTransaction config = .ok t ∧
    t.command = (zfsSet markerProperty markerValue
      (Name.join (config.root .target) s.subparent ++ "@" ++ s.name)).forSide .target config
  readsBack : Name.relative (config.root .target) (Name.join (config.root .target) s.subparent) =
      some s.subparent ↔
    Name.Trimmed s.subparent ∧ (config.root .target ≠ "" ∨ s.subparent = "")
  listed : ∀ rows, ∀ u ∈ (Pool.ofRows rows .target config).datasets,
    u.name = Name.join (config.root .target) s.subparent →
      (u.subname = s.subparent ↔
        Name.Trimmed s.subparent ∧ (config.root .target ≠ "" ∨ s.subparent = "")) ∧
      ∀ (source : Pool) (d : Dataset), source.datasetAt s.subparent = some d →
        (Pool.ofRows rows .target config).datasetAt u.subname = some u →
        Name.Trimmed s.subparent → (config.root .target ≠ "" ∨ s.subparent = "") →
        Paired.both d u ∈ matchDatasets (some source) (some (Pool.ofRows rows .target config))

/-- Every source snapshot lands where `Destination` says. -/
theorem transfer_lands_at_join (source : s.side = .source) : s.Destination config := by
  have rootTrimmed : Name.Trimmed (config.root .target) := Name.join_trimmed _ _
  have readsBack := Name.relative_join_iff rootTrimmed s.subparent
  refine ⟨backupTransaction_receives config source, tagTransaction_marks config source, readsBack,
    fun rows u member named => ⟨?_, fun S d lastSource lastTarget trimmed rooted => ?_⟩⟩
  · -- listing reads the joined name back relative to the root
    have listed := Pool.relative_of_mem_ofRows member
    rw [named] at listed
    rw [← readsBack, listed, Option.some.injEq]
  · have subname : u.subname = s.subparent := by
      have listed := Pool.relative_of_mem_ofRows member
      rw [named, readsBack.2 ⟨trimmed, rooted⟩, Option.some.injEq] at listed
      exact listed.symm
    rw [subname] at lastTarget
    exact both_mem_matchDatasets lastSource lastTarget

theorem transfer_lands_at_join_sample :
    (⟨"1", "tank/a", "a", [], .source⟩ : Snapshot).side = .source ∧
      (⟨"1", "tank/a", "a", [], .source⟩ : Snapshot).Destination Fixture.config :=
  ⟨rfl, transfer_lands_at_join Fixture.config rfl⟩

end Snapshot

end ZfsReplication
