import ZfsReplication.Proofs.Chain.Align

/-!
# Why two chains are refused

`Chain.align` checks, in this order: a repeated name in `as`, a repeated name in `bs`, whether
either first name occurs in the other chain, whether both occur past the other's start, and then
the positions of the two chains set against each other at the offset of a first name. `Refusal`
states each refusal on the chains alone, and `align_eq_error_iff` says that `align` fails exactly
with these. Both padded sides are single runs, so the gap check never refuses anything.

Seen from the other side an alignment is the same one with its sides swapped (`align_swap_of_ok`),
so the two orders accept the same pairs of chains.
-/

set_option autoImplicit false

namespace ZfsReplication

theorem except_map_eq_error {ε β γ : Type} {x : Except ε β} {f : β → γ} {e : ε} :
    f <$> x = .error e ↔ x = .error e := by
  cases x <;> simp [Functor.map, Except.map]

namespace Chain

variable {α : Type} [Named α]

/-! ## The first repeated name -/

/-- `n` is the first repeated name of `xs`: the name of the first item whose name occurs before
it, the items before it having distinct names. -/
def FirstRepeat (xs : List α) (n : String) : Prop :=
  ∃ pre x post, xs = pre ++ x :: post ∧ (names pre).Nodup ∧ Named.name x ∈ names pre ∧
    Named.name x = n

theorem firstRepeat_go_eq_some_iff (seen : List String) (xs : List α) (n : String) :
    firstRepeat?.go seen xs = some n ↔
      ∃ pre x post, xs = pre ++ x :: post ∧ (names pre).Nodup ∧ (∀ m ∈ names pre, m ∉ seen) ∧
        (Named.name x ∈ seen ∨ Named.name x ∈ names pre) ∧ Named.name x = n := by
  induction xs generalizing seen with
  | nil => simp [firstRepeat?.go]
  | cons y rest ih =>
    by_cases repeated : Named.name y ∈ seen
    · simp only [firstRepeat?.go, List.contains_iff_mem, repeated, if_true, Option.some.injEq]
      constructor
      · rintro rfl
        exact ⟨[], y, rest, rfl, by simp, by simp, .inl repeated, rfl⟩
      · -- an item before `y` would have a name seen already
        rintro ⟨pre, x, post, parts, -, fresh, -, named⟩
        cases pre with
        | nil =>
          obtain ⟨rfl, -⟩ := List.cons.inj parts
          exact named
        | cons z pre =>
          obtain ⟨rfl, -⟩ := List.cons.inj parts
          exact absurd repeated (fresh _ (by simp))
    · simp only [firstRepeat?.go, List.contains_iff_mem, repeated, if_false, ih]
      constructor
      · rintro ⟨pre, x, post, rfl, unique, fresh, hit, named⟩
        refine ⟨y :: pre, x, post, rfl, ?_, ?_, ?_, named⟩
        · exact List.nodup_cons.2 ⟨fun inPre => fresh _ inPre (by simp), unique⟩
        · simp only [names_cons, List.mem_cons, forall_eq_or_imp]
          exact ⟨repeated, fun m inPre seenM => fresh m inPre (by simp [seenM])⟩
        · simp only [List.mem_cons] at hit
          simp only [names_cons, List.mem_cons]
          tauto
      · rintro ⟨pre, x, post, parts, unique, fresh, hit, named⟩
        cases pre with
        | nil =>
          obtain ⟨rfl, -⟩ := List.cons.inj parts
          simp only [names_nil, List.not_mem_nil, or_false] at hit
          exact absurd hit repeated
        | cons z pre =>
          obtain ⟨rfl, rfl⟩ := List.cons.inj parts
          simp only [names_cons, List.nodup_cons] at unique
          refine ⟨pre, x, post, rfl, unique.2, ?_, ?_, named⟩
          · intro m inPre
            simp only [List.mem_cons, not_or]
            exact ⟨fun same => unique.1 (same ▸ inPre), fresh m (by simp [inPre])⟩
          · simp only [names_cons, List.mem_cons] at hit
            simp only [List.mem_cons]
            tauto

theorem checkUnique_eq_error_iff (xs : List α) (e : AlignmentError) :
    checkUnique xs = .error e ↔ ∃ n, e = .duplicateName n ∧ FirstRepeat xs n := by
  have found : ∀ n, firstRepeat? xs = some n ↔ FirstRepeat xs n := by
    intro n
    simpa [FirstRepeat, firstRepeat?] using firstRepeat_go_eq_some_iff [] xs n
  unfold checkUnique
  cases first : firstRepeat? xs with
  | none =>
    simp only [reduceCtorEq, false_iff, not_exists, not_and]
    exact fun n _ repeated => by simp [(found n).2 repeated] at first
  | some n =>
    simp only [Except.error.injEq]
    constructor
    · rintro rfl
      exact ⟨n, rfl, (found n).1 first⟩
    · rintro ⟨n', rfl, repeated⟩
      rw [(found n').2 repeated] at first
      cases first
      rfl

theorem firstRepeat_of_not_nodup {xs : List α} (repeated : ¬ (names xs).Nodup) :
    ∃ n, FirstRepeat xs n := by
  cases checked : checkUnique xs with
  | error e =>
    obtain ⟨n, -, first⟩ := (checkUnique_eq_error_iff xs e).1 checked
    exact ⟨n, first⟩
  | ok u => exact absurd checked (checkUnique_ne_ok repeated u)

theorem not_nodup_of_firstRepeat {xs : List α} {n : String} (first : FirstRepeat xs n) :
    ¬ (names xs).Nodup := fun unique => by
  have refused := (checkUnique_eq_error_iff xs _).2 ⟨n, rfl, first⟩
  rw [checkUnique_of_nodup unique] at refused
  cases refused

theorem align_of_firstRepeat_a {as bs : List α} {n : String} (first : FirstRepeat as n) :
    align as bs = .error (.duplicateName n) := by
  unfold align
  rw [(checkUnique_eq_error_iff as _).2 ⟨n, rfl, first⟩]
  rfl

theorem align_of_firstRepeat_b {as bs : List α} {n : String} (uniqueA : (names as).Nodup)
    (first : FirstRepeat bs n) : align as bs = .error (.duplicateName n) := by
  unfold align
  rw [checkUnique_of_nodup uniqueA, (checkUnique_eq_error_iff bs _).2 ⟨n, rfl, first⟩]
  rfl

/-! ## The first position of two different names -/

/-- Position `k` is the first at which `xs` and `ys` hold different names, `x` and `y`. -/
def Mismatch (xs ys : List α) (x y : String) : Prop :=
  ∃ k, ∃ (inX : k < xs.length) (inY : k < ys.length), names (xs.take k) = names (ys.take k) ∧
    Named.name xs[k] = x ∧ Named.name ys[k] = y ∧ x ≠ y

@[simp] theorem not_mismatch_nil_left (ys : List α) (x y : String) : ¬ Mismatch [] ys x y := by
  rintro ⟨k, inX, -⟩
  simp at inX

@[simp] theorem not_mismatch_nil_right (xs : List α) (x y : String) : ¬ Mismatch xs [] x y := by
  rintro ⟨k, -, inY, -⟩
  simp at inY

theorem mismatch_cons_cons (a b : α) (xs ys : List α) (x y : String) :
    Mismatch (a :: xs) (b :: ys) x y ↔
      (Named.name a ≠ Named.name b ∧ Named.name a = x ∧ Named.name b = y) ∨
        (Named.name a = Named.name b ∧ Mismatch xs ys x y) := by
  constructor
  · rintro ⟨k, inX, inY, before, atX, atY, differ⟩
    cases k with
    | zero =>
      simp only [List.getElem_cons_zero] at atX atY
      exact .inl ⟨atX ▸ atY ▸ differ, atX, atY⟩
    | succ k =>
      simp only [List.take_succ_cons, names_cons, List.cons.injEq] at before
      simp only [List.length_cons, Nat.add_lt_add_iff_right, List.getElem_cons_succ] at inX inY atX atY
      exact .inr ⟨before.1, k, inX, inY, before.2, atX, atY, differ⟩
  · rintro (⟨differ, rfl, rfl⟩ | ⟨same, k, inX, inY, before, atX, atY, differ⟩)
    · exact ⟨0, by simp, by simp, rfl, rfl, rfl, differ⟩
    · refine ⟨k + 1, by simpa using inX, by simpa using inY, ?_, atX, atY, differ⟩
      simp [names_cons, same, before]

/-- Pairing from a common start fails exactly at the first position of two different names. -/
theorem pairUp_eq_error_iff (xs ys : List α) (e : AlignmentError) :
    pairUp xs ys = .error e ↔ ∃ x y, e = .nameMismatch x y ∧ Mismatch xs ys x y := by
  induction xs generalizing ys with
  | nil => simp [pairUp]
  | cons a xs ih =>
    cases ys with
    | nil => simp [pairUp]
    | cons b ys =>
      by_cases same : Named.name a = Named.name b
      · simp [pairUp, same, except_map_eq_error, ih, mismatch_cons_cons]
      · simp only [pairUp, same, beq_iff_eq, if_false, Except.error.injEq, mismatch_cons_cons,
          ne_eq, not_false_eq_true, true_and, false_and, or_false]
        constructor
        · rintro rfl
          exact ⟨_, _, rfl, rfl, rfl⟩
        · rintro ⟨x, y, rfl, rfl, rfl⟩
          rfl

/-! ## Looking names up in chains without repeated names -/

theorem findName_eq_some_iff {xs : List α} (unique : (names xs).Nodup) {n : String} {i : Nat} :
    findName xs n = some i ↔ (names xs)[i]? = some n := by
  constructor
  · intro found
    obtain ⟨inside, named⟩ := findName_spec found
    simp [names, inside, named]
  · intro atI
    obtain ⟨inside, named⟩ := List.getElem?_eq_some_iff.1 atI
    simp only [length_names] at inside
    rw [← named]
    simpa [names] using findName_getElem unique i inside

theorem mem_of_findName_succ {x0 : α} {xs : List α} {n : String} {i : Nat}
    (found : findName (x0 :: xs) n = some (i + 1)) : n ∈ names xs := by
  obtain ⟨inside, named⟩ := findName_spec found
  simp only [List.length_cons, Nat.add_lt_add_iff_right, List.getElem_cons_succ] at inside named
  exact named ▸ List.mem_map_of_mem (List.getElem_mem inside)

/-- Two chains whose first names agree each find the other's first name at their start. -/
theorem findName_zero_swap {x0 y0 : α} {xs ys : List α}
    (found : findName (x0 :: xs) (Named.name y0) = some 0) :
    findName (y0 :: ys) (Named.name x0) = some 0 := by
  obtain ⟨_, named⟩ := findName_spec found
  simp only [List.getElem_cons_zero] at named
  rw [named]
  exact findName_cons_self y0 ys

theorem findName_of_mem_tail {x0 : α} {xs : List α} (unique : (names (x0 :: xs)).Nodup) {n : String}
    (member : n ∈ names xs) : ∃ i, findName (x0 :: xs) n = some (i + 1) := by
  obtain ⟨i, atI⟩ := List.mem_iff_getElem?.1 member
  exact ⟨i, (findName_eq_some_iff unique).2 (by simpa using atI)⟩

/-! ## Refusals -/

/-- Why `align` refuses two chains, in the order it checks: the first repeated name of `as`, then
of `bs`; two nonempty chains neither of whose first names occurs in the other; first names that
each occur in the other chain past its start; and, where `bs` enters `as` at the position `q` of
its first name (or `as` enters `bs` at `p`), the first position of the chains so set against each
other that holds two different names. -/
inductive Refusal : List α → List α → AlignmentError → Prop
  | repeatedA {as bs : List α} {n : String} : FirstRepeat as n → Refusal as bs (.duplicateName n)
  | repeatedB {as bs : List α} {n : String} :
      (names as).Nodup → FirstRepeat bs n → Refusal as bs (.duplicateName n)
  | disjointStarts {a0 b0 : α} {as bs : List α} :
      (names (a0 :: as)).Nodup → (names (b0 :: bs)).Nodup →
      Named.name a0 ∉ names (b0 :: bs) → Named.name b0 ∉ names (a0 :: as) →
      Refusal (a0 :: as) (b0 :: bs) (.noOverlap (Named.name a0) (Named.name b0))
  | crossedStarts {a0 b0 : α} {as bs : List α} :
      (names (a0 :: as)).Nodup → (names (b0 :: bs)).Nodup →
      Named.name a0 ∈ names bs → Named.name b0 ∈ names as →
      Refusal (a0 :: as) (b0 :: bs) .notConsecutive
  | mismatchEnteringA {a0 b0 : α} {as bs : List α} {q : Nat} {x y : String} :
      (names (a0 :: as)).Nodup → (names (b0 :: bs)).Nodup →
      (names (a0 :: as))[q]? = some (Named.name b0) → (q = 0 ∨ Named.name a0 ∉ names bs) →
      Mismatch ((a0 :: as).drop q) (b0 :: bs) x y →
      Refusal (a0 :: as) (b0 :: bs) (.nameMismatch x y)
  | mismatchEnteringB {a0 b0 : α} {as bs : List α} {p : Nat} {x y : String} :
      (names (a0 :: as)).Nodup → (names (b0 :: bs)).Nodup →
      (names (b0 :: bs))[p]? = some (Named.name a0) → Named.name b0 ∉ names (a0 :: as) →
      Mismatch (a0 :: as) ((b0 :: bs).drop p) x y →
      Refusal (a0 :: as) (b0 :: bs) (.nameMismatch x y)

section Nonempty

variable {a0 b0 : α} {as bs : List α}

/-- Two nonempty chains without repeated names meet in one of four ways: neither first name
occurs in the other chain; both occur past the other's start; `bs` enters `as` at the position
of its first name; or `as` enters `bs` so while `bs`'s first name is not in `as`. -/
theorem align_cons_cases (uniqueA : (names (a0 :: as)).Nodup) (uniqueB : (names (b0 :: bs)).Nodup) :
    (Named.name a0 ∉ names (b0 :: bs) ∧ Named.name b0 ∉ names (a0 :: as) ∧
        align (a0 :: as) (b0 :: bs) = .error (.noOverlap (Named.name a0) (Named.name b0))) ∨
      (Named.name a0 ∈ names bs ∧ Named.name b0 ∈ names as ∧
        align (a0 :: as) (b0 :: bs) = .error .notConsecutive) ∨
      (∃ q, (names (a0 :: as))[q]? = some (Named.name b0) ∧ (q = 0 ∨ Named.name a0 ∉ names bs) ∧
        align (a0 :: as) (b0 :: bs) =
          (((a0 :: as).take q).map .onlyA ++ ·) <$> pairUp ((a0 :: as).drop q) (b0 :: bs)) ∨
      ∃ p, (names (b0 :: bs))[p]? = some (Named.name a0) ∧ Named.name b0 ∉ names (a0 :: as) ∧
        align (a0 :: as) (b0 :: bs) =
          (((b0 :: bs).take p).map .onlyB ++ ·) <$> pairUp (a0 :: as) ((b0 :: bs).drop p) := by
  cases foundB : findName (a0 :: as) (Named.name b0) with
  | none =>
    have missingB := (findName_eq_none_iff _ _).1 foundB
    cases foundA : findName (b0 :: bs) (Named.name a0) with
    | none =>
      exact .inl ⟨(findName_eq_none_iff _ _).1 foundA, missingB,
        align_of_missing uniqueA uniqueB foundA foundB⟩
    | some p =>
      exact .inr (.inr (.inr ⟨p, (findName_eq_some_iff uniqueB).1 foundA, missingB,
        align_of_found_in_b uniqueA uniqueB foundA foundB⟩))
  | some q =>
    have atQ := (findName_eq_some_iff uniqueA).1 foundB
    cases foundA : findName (b0 :: bs) (Named.name a0) with
    | none =>
      have missingA : Named.name a0 ∉ names bs := fun inB =>
        (findName_eq_none_iff _ _).1 foundA (List.mem_cons_of_mem _ inB)
      exact .inr (.inr (.inl ⟨q, atQ, .inr missingA,
        align_of_found_in_a uniqueA uniqueB foundB (.inr foundA)⟩))
    | some p =>
      cases q with
      | zero =>
        exact .inr (.inr (.inl ⟨0, atQ, .inl rfl,
          align_of_found_in_a uniqueA uniqueB foundB (.inl rfl)⟩))
      | succ q =>
        cases p with
        | zero =>
          -- `b`'s first name is `a`'s first name, which `a` holds at its start only
          rw [findName_zero_swap foundA] at foundB
          cases foundB
        | succ p =>
          exact .inr (.inl ⟨mem_of_findName_succ foundA, mem_of_findName_succ foundB,
            align_of_found_past_start uniqueA uniqueB foundA foundB⟩)

theorem refusal_of_align_cons {e : AlignmentError} (uniqueA : (names (a0 :: as)).Nodup)
    (uniqueB : (names (b0 :: bs)).Nodup) (refused : align (a0 :: as) (b0 :: bs) = .error e) :
    Refusal (a0 :: as) (b0 :: bs) e := by
  rcases align_cons_cases uniqueA uniqueB with
    ⟨missingA, missingB, computed⟩ | ⟨crossedA, crossedB, computed⟩ |
      ⟨q, atQ, first, computed⟩ | ⟨p, atP, missingB, computed⟩
  · rw [computed] at refused
    cases refused
    exact .disjointStarts uniqueA uniqueB missingA missingB
  · rw [computed] at refused
    cases refused
    exact .crossedStarts uniqueA uniqueB crossedA crossedB
  · rw [computed, except_map_eq_error, pairUp_eq_error_iff] at refused
    obtain ⟨x, y, rfl, mismatch⟩ := refused
    exact .mismatchEnteringA uniqueA uniqueB atQ first mismatch
  · rw [computed, except_map_eq_error, pairUp_eq_error_iff] at refused
    obtain ⟨x, y, rfl, mismatch⟩ := refused
    exact .mismatchEnteringB uniqueA uniqueB atP missingB mismatch

end Nonempty

theorem refusal_of_align_eq_error {as bs : List α} {e : AlignmentError}
    (refused : align as bs = .error e) : Refusal as bs e := by
  by_cases uniqueA : (names as).Nodup
  · by_cases uniqueB : (names bs).Nodup
    · cases as with
      | nil =>
        rw [align_nil_left uniqueB] at refused
        cases refused
      | cons a0 as =>
        cases bs with
        | nil =>
          rw [align_nil_right uniqueA] at refused
          cases refused
        | cons b0 bs => exact refusal_of_align_cons uniqueA uniqueB refused
    · obtain ⟨n, first⟩ := firstRepeat_of_not_nodup uniqueB
      rw [align_of_firstRepeat_b uniqueA first] at refused
      cases refused
      exact .repeatedB uniqueA first
  · obtain ⟨n, first⟩ := firstRepeat_of_not_nodup uniqueA
    rw [align_of_firstRepeat_a first] at refused
    cases refused
    exact .repeatedA first

theorem align_eq_error_of_refusal {as bs : List α} {e : AlignmentError}
    (refusal : Refusal as bs e) : align as bs = .error e := by
  cases refusal with
  | repeatedA first => exact align_of_firstRepeat_a first
  | repeatedB uniqueA first => exact align_of_firstRepeat_b uniqueA first
  | disjointStarts uniqueA uniqueB missingA missingB =>
    exact align_of_missing uniqueA uniqueB ((findName_eq_none_iff _ _).2 missingA)
      ((findName_eq_none_iff _ _).2 missingB)
  | crossedStarts uniqueA uniqueB crossedA crossedB =>
    obtain ⟨p, foundA⟩ := findName_of_mem_tail uniqueB crossedA
    obtain ⟨q, foundB⟩ := findName_of_mem_tail uniqueA crossedB
    exact align_of_found_past_start uniqueA uniqueB foundA foundB
  | @mismatchEnteringA a0 b0 as bs q x y uniqueA uniqueB atQ first mismatch =>
    have found := (findName_eq_some_iff uniqueA).2 atQ
    -- past the start, `b`'s first name differs from `a`'s, so `a`'s is not in `b` at all
    have unpadded : q = 0 ∨ findName (b0 :: bs) (Named.name a0) = none := by
      rcases first with rfl | missing
      · exact .inl rfl
      · cases q with
        | zero => exact .inl rfl
        | succ q =>
          refine .inr ((findName_eq_none_iff _ _).2 ?_)
          have differ : Named.name a0 ≠ Named.name b0 := fun same => by
            rw [← same, findName_cons_self] at found
            cases found
          simp [differ, missing]
    rw [align_of_found_in_a uniqueA uniqueB found unpadded, except_map_eq_error,
      pairUp_eq_error_iff]
    exact ⟨x, y, rfl, mismatch⟩
  | @mismatchEnteringB a0 b0 as bs p x y uniqueA uniqueB atP missingB mismatch =>
    rw [align_of_found_in_b uniqueA uniqueB ((findName_eq_some_iff uniqueB).2 atP)
      ((findName_eq_none_iff _ _).2 missingB), except_map_eq_error, pairUp_eq_error_iff]
    exact ⟨x, y, rfl, mismatch⟩

theorem align_eq_error_iff (as bs : List α) (e : AlignmentError) :
    align as bs = .error e ↔ Refusal as bs e :=
  ⟨refusal_of_align_eq_error, align_eq_error_of_refusal⟩

/-- What `align` answers: it fails exactly with a `Refusal`, and otherwise succeeds; with no
repeated name and an empty side it pairs the other side one-sided; and no gap is ever reported,
since each padded side is a single run. -/
theorem align_outcomes (as bs : List α) :
    (∀ e, align as bs = .error e ↔ Refusal as bs e) ∧
      ((∃ m, align as bs = .ok m) ↔ ∀ e, ¬ Refusal as bs e) ∧
      ((names as).Nodup → (names bs).Nodup → as = [] → align as bs = .ok (bs.map .onlyB)) ∧
      ((names as).Nodup → (names bs).Nodup → bs = [] → align as bs = .ok (as.map .onlyA)) ∧
      ∀ after, align as bs ≠ .error (.gap after) := by
  refine ⟨align_eq_error_iff as bs, ?_, ?_, ?_, ?_⟩
  · constructor
    · rintro ⟨m, accepted⟩ e refusal
      rw [align_eq_error_of_refusal refusal] at accepted
      cases accepted
    · intro never
      cases computed : align as bs with
      | error e => exact absurd (refusal_of_align_eq_error computed) (never e)
      | ok m => exact ⟨m, rfl⟩
  · rintro - uniqueB rfl
    exact align_nil_left uniqueB
  · rintro uniqueA - rfl
    exact align_nil_right uniqueA
  · intro after gapped
    -- no refusal reports a gap
    cases refusal_of_align_eq_error gapped

/-- One chain empty, and three refusals: a repeated name, a mismatch past a common start, and
crossed first names. -/
theorem align_outcomes_at_refusals :
    align ([] : List String) ["s1", "s2"] = .ok [.onlyB "s1", .onlyB "s2"] ∧
      align ["x", "y", "x"] ["y"] = .error (.duplicateName "x") ∧
      align ["s1", "s2", "s3"] ["s1", "s3"] = .error (.nameMismatch "s2" "s3") ∧
      align ["s1", "s2"] ["s2", "s1"] = .error .notConsecutive := by
  refine ⟨(align_outcomes [] ["s1", "s2"]).2.2.1 (by decide) (by decide) rfl, ?_, ?_, ?_⟩
  · exact ((align_outcomes _ _).1 _).2
      (.repeatedA ⟨["x", "y"], "x", [], rfl, by decide, by decide, rfl⟩)
  · exact ((align_outcomes _ _).1 _).2
      (.mismatchEnteringA (q := 0) (by decide) (by decide) rfl (.inl rfl)
        ⟨1, by decide, by decide, rfl, rfl, rfl, by decide⟩)
  · exact ((align_outcomes _ _).1 _).2
      (.crossedStarts (by decide) (by decide) (by decide) (by decide))

/-! ## Both orders -/

theorem align_swap_of_ok {as bs : List α} {m : List (Paired α)} (accepted : align as bs = .ok m) :
    align bs as = .ok (m.map Paired.swap) := by
  obtain ⟨uniqueA, uniqueB⟩ := align_nodup accepted
  cases as with
  | nil =>
    rw [align_nil_left uniqueB] at accepted
    cases accepted
    simp [align_nil_right uniqueB, Function.comp_def]
  | cons a0 as =>
    cases bs with
    | nil =>
      rw [align_nil_right uniqueA] at accepted
      cases accepted
      simp [align_nil_left uniqueA, Function.comp_def]
    | cons b0 bs =>
      rcases align_cons_ok_cases accepted with
        ⟨q, rest, found, first, pairing, rfl⟩ | ⟨p, rest, found, missing, pairing, rfl⟩
      · rcases first with rfl | missing
        · -- both chains start with one name: the pairing starts at the front on both sides
          rw [List.drop_zero] at pairing
          rw [align_of_found_in_a uniqueB uniqueA (findName_zero_swap found) (.inl rfl),
            List.drop_zero, pairUp_swap pairing]
          simp
        · rw [align_of_found_in_b uniqueB uniqueA found missing, pairUp_swap pairing]
          simp [Function.comp_def]
      · rw [align_of_found_in_a uniqueB uniqueA found (.inr missing), pairUp_swap pairing]
        simp [Function.comp_def]

end Chain

end ZfsReplication
