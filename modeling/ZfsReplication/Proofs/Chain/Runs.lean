import Mathlib
import ZfsReplication.Chain

/-!
# Single runs of present items

`Chain.checkSingleRun` scans a side of an alignment once, counting the changes between absent and
present items and remembering the name of the last present item it passed; it refuses at the third
change. The count and the presence flag only ever take three values together, and these are the
three phases of the scan: before the first present item, inside the first block, and after it.
Each phase gets its lemmas below, and together they give `checkSingleRun_spec`: the scan accepts
exactly the sides whose present items form one block (`OneBlock`), and refuses every other side with
a gap after the last item of its first block (`GapAfter`).
-/

set_option autoImplicit false

namespace ZfsReplication

namespace Chain

variable {α : Type}

/-! ## Sides with one block, and sides with a gap

Read from the front, a side keeps its shape under an absent item, and a present item either joins
the first block or, with absent items after it, becomes a first block of its own. -/

/-- The present items of `xs` form one block: absent items, then present ones, then absent ones. -/
def OneBlock (xs : List (Option α)) : Prop :=
  ∃ (k : Nat) (ys : List α) (r : Nat),
    xs = List.replicate k none ++ ys.map some ++ List.replicate r none

/-- The first block of present items of `xs` ends in `y`, and after at least one absent item another
present item follows. -/
def GapAfter (xs : List (Option α)) (y : α) : Prop :=
  ∃ (k : Nat) (ys : List α) (m : Nat) (rest : List (Option α)),
    xs = List.replicate k none ++ (ys ++ [y]).map some ++ List.replicate (m + 1) none ++ rest ∧
      ∃ z, some z ∈ rest

theorem oneBlock_nil : OneBlock ([] : List (Option α)) := ⟨0, [], 0, rfl⟩

theorem OneBlock.absent_cons {xs : List (Option α)} (single : OneBlock xs) :
    OneBlock (none :: xs) := by
  obtain ⟨k, ys, r, rfl⟩ := single
  exact ⟨k + 1, ys, r, by simp [List.replicate_succ]⟩

theorem GapAfter.absent_cons {xs : List (Option α)} {y : α} (gapped : GapAfter xs y) :
    GapAfter (none :: xs) y := by
  obtain ⟨k, ys, m, rest, rfl, present⟩ := gapped
  exact ⟨k + 1, ys, m, rest, by simp [List.replicate_succ], present⟩

theorem OneBlock.present_cons {xs : List (Option α)} (single : OneBlock xs) (v : α) :
    OneBlock (some v :: xs) ∨ GapAfter (some v :: xs) v := by
  obtain ⟨k, ys, r, rfl⟩ := single
  cases k with
  | zero => exact .inl ⟨0, v :: ys, r, by simp⟩
  | succ k =>
    cases ys with
    | nil => exact .inl ⟨0, [v], k + 1 + r, by simp [List.replicate_add]⟩
    | cons y ys =>
      -- the absent items in front of the block are a gap after `v`
      refine .inr ⟨0, [], k, (y :: ys).map some ++ List.replicate r none, ?_, y, by simp⟩
      simp [List.replicate_succ']

theorem GapAfter.present_cons {xs : List (Option α)} {y : α} (gapped : GapAfter xs y) (v : α) :
    ∃ y', GapAfter (some v :: xs) y' := by
  obtain ⟨k, ys, m, rest, rfl, present⟩ := gapped
  cases k with
  | zero => exact ⟨y, 0, v :: ys, m, rest, by simp, present⟩
  | succ k =>
    -- `v` alone is the first block now, and the old first block comes after its gap
    refine ⟨v, 0, [], k, (ys ++ [y]).map some ++ List.replicate (m + 1) none ++ rest, ?_, y,
      by simp⟩
    simp [List.replicate_succ']

/-- Every side has its present items in one block or has a gap after its first block. -/
theorem oneBlock_or_gapAfter (xs : List (Option α)) : OneBlock xs ∨ ∃ y, GapAfter xs y := by
  induction xs with
  | nil => exact .inl oneBlock_nil
  | cons x xs ih =>
    cases x with
    | none => exact ih.imp OneBlock.absent_cons fun ⟨y, gapped⟩ => ⟨y, gapped.absent_cons⟩
    | some v =>
      rcases ih with single | ⟨y, gapped⟩
      · exact (single.present_cons v).imp_right fun gapped => ⟨v, gapped⟩
      · exact .inr (gapped.present_cons v)

/-! ## The phases of the scan

The scan starts with no change and absent; it is before the first block while the count is 0,
inside it (present) at 1 and after it (absent) at 2, and the remembered name is that of the last
present item read. -/

variable [Named α]

theorem singleRun_absent (k : Nat) (rest : List (Option α)) (changes : Nat)
    (last : String) (few : changes ≤ 2) :
    checkSingleRun.go (List.replicate k none ++ rest) false changes last =
      checkSingleRun.go rest false changes last := by
  induction k with
  | zero => rfl
  | succ k ih =>
    simp only [List.replicate_succ, List.cons_append, checkSingleRun.go, Option.isSome_none,
      bne_self_eq_false, Bool.false_eq_true, if_false]
    rw [if_neg (by omega)]
    exact ih

theorem singleRun_present (ys : List α) (y : α) (rest : List (Option α)) (changes : Nat)
    (few : changes ≤ 2) (last : String) :
    checkSingleRun.go ((ys ++ [y]).map some ++ rest) true changes last =
      checkSingleRun.go rest true changes (Named.name y) := by
  induction ys generalizing last with
  | nil =>
    simp only [List.nil_append, List.map_cons, List.map_nil, List.cons_append, List.nil_append,
      checkSingleRun.go, Option.isSome_some, bne_self_eq_false, Bool.false_eq_true, if_false]
    rw [if_neg (by omega)]
  | cons x xs ih =>
    simp only [List.cons_append, List.map_cons, checkSingleRun.go, Option.isSome_some,
      bne_self_eq_false, Bool.false_eq_true, if_false]
    rw [if_neg (by omega)]
    exact ih _

theorem singleRun_open (y : α) (rest : List (Option α)) (last : String) :
    checkSingleRun.go (some y :: rest) false 0 last =
      checkSingleRun.go rest true 1 (Named.name y) := rfl

theorem singleRun_close (rest : List (Option α)) (last : String) :
    checkSingleRun.go (none :: rest) true 1 last = checkSingleRun.go rest false 2 last := rfl

theorem singleRun_first_block (ys : List α) (y : α) (rest : List (Option α)) (last : String) :
    checkSingleRun.go ((ys ++ [y]).map some ++ rest) false 0 last =
      checkSingleRun.go rest true 1 (Named.name y) := by
  cases ys with
  | nil => exact singleRun_open y rest last
  | cons x xs =>
    rw [List.cons_append, List.map_cons, List.cons_append, singleRun_open]
    exact singleRun_present xs y rest 1 (by omega) _

theorem singleRun_absent_end (k changes : Nat) (last : String) (few : changes ≤ 2) :
    checkSingleRun.go (List.replicate k (none : Option α)) false changes last = .ok () := by
  rw [← List.append_nil (List.replicate k none), singleRun_absent k [] changes last few]
  rfl

theorem singleRun_trailing (r : Nat) (last : String) :
    checkSingleRun.go (List.replicate r (none : Option α)) true 1 last = .ok () := by
  cases r with
  | zero => rfl
  | succ r =>
    rw [List.replicate_succ, singleRun_close]
    exact singleRun_absent_end r 2 last (by omega)

/-- After the block, the first present item is the third change: a gap after the remembered
name. -/
theorem singleRun_after_gap (rest : List (Option α)) (last : String) {z : α}
    (present : some z ∈ rest) :
    checkSingleRun.go rest false 2 last = .error (.gap last) := by
  induction rest with
  | nil => simp at present
  | cons x rest ih =>
    cases x with
    | none =>
      have later : some z ∈ rest := by simpa using present
      exact (singleRun_absent 1 rest 2 last (by omega)).trans (ih later)
    | some v => rfl

/-! ## What the scan decides -/

theorem checkSingleRun_of_oneBlock {xs : List (Option α)} (single : OneBlock xs) :
    checkSingleRun xs = .ok () := by
  obtain ⟨k, ys, r, rfl⟩ := single
  unfold checkSingleRun
  rw [List.append_assoc, singleRun_absent k _ 0 "" (by omega)]
  rcases List.eq_nil_or_concat ys with rfl | ⟨ys, y, rfl⟩
  · rw [List.map_nil, List.nil_append]
    exact singleRun_absent_end r 0 "" (by omega)
  · rw [List.concat_eq_append, singleRun_first_block]
    exact singleRun_trailing r _

theorem checkSingleRun_of_gapAfter {xs : List (Option α)} {y : α} (gapped : GapAfter xs y) :
    checkSingleRun xs = .error (.gap (Named.name y)) := by
  obtain ⟨k, ys, m, rest, rfl, z, present⟩ := gapped
  unfold checkSingleRun
  simp only [List.append_assoc]
  -- before the block, through it, over the first absent item after it, and over the others
  rw [singleRun_absent k _ 0 "" (by omega), singleRun_first_block,
    List.replicate_succ, List.cons_append, singleRun_close, singleRun_absent m _ 2 _ (by omega)]
  exact singleRun_after_gap rest _ present

/-- The gap check accepts a side exactly when its present items form one block. Any other side it
refuses with a gap after the last item of the first block of present items. -/
theorem checkSingleRun_spec (xs : List (Option α)) :
    (checkSingleRun xs = .ok () ↔ OneBlock xs) ∧
      (¬ OneBlock xs → ∃ y, GapAfter xs y ∧ checkSingleRun xs = .error (.gap (Named.name y))) := by
  rcases oneBlock_or_gapAfter xs with single | ⟨y, gapped⟩
  · exact ⟨iff_of_true (checkSingleRun_of_oneBlock single) single, fun split => absurd single split⟩
  · have refused := checkSingleRun_of_gapAfter gapped
    have split : ¬ OneBlock xs := fun single => by
      have accepted := checkSingleRun_of_oneBlock single
      rw [refused] at accepted
      cases accepted
    refine ⟨iff_of_false ?_ split, fun _ => ⟨y, gapped, refused⟩⟩
    rw [refused]
    exact fun accepted => by cases accepted

example : checkSingleRun [none, some "s1", some "s2", none] = .ok () := by decide

/-- Three present items with a gap between each two: the scan refuses after the first. -/
theorem checkSingleRun_spec_twoGaps :
    ¬ OneBlock [some "s1", none, some "s2", none, some "s3"] ∧
      checkSingleRun [some "s1", none, some "s2", none, some "s3"] = .error (.gap "s1") := by
  have refused :
      checkSingleRun [some "s1", none, some "s2", none, some "s3"] = .error (.gap "s1") := by
    decide
  refine ⟨fun single => ?_, refused⟩
  have accepted := (checkSingleRun_spec [some "s1", none, some "s2", none, some "s3"]).1.2 single
  rw [refused] at accepted
  cases accepted

end Chain

end ZfsReplication
