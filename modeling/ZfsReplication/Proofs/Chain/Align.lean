import Mathlib
import ZfsReplication.Proofs.Chain.Runs

/-!
# Alignment of two chains

`Chain.align` looks up the first name of each chain in the other, pads the chain that starts
later at the front and the shorter one at the back, and pairs the two padded sides position by
position. Once both chains are free of repeated names this comes down to `pairUp`, pairing two
chains from a common start, behind a one-sided run of the chain that starts earlier.

The main results are `align_eq_placed`, which says exactly what `align` computes, and
`align_ok_iff`, which says exactly which chains it accepts.
-/

set_option autoImplicit false

namespace ZfsReplication

/-! ## Results of failing computations -/

@[simp] theorem except_pure_eq {ε β : Type} (b : β) : (pure b : Except ε β) = .ok b := rfl

@[simp] theorem except_ok_bind {ε β γ : Type} (b : β) (f : β → Except ε γ) :
    (Except.ok b >>= f) = f b := rfl

@[simp] theorem except_error_bind {ε β γ : Type} (e : ε) (f : β → Except ε γ) :
    (Except.error e >>= f) = .error e := rfl

@[simp] theorem except_map_ok {ε β γ : Type} (f : β → γ) (b : β) :
    f <$> (Except.ok b : Except ε β) = .ok (f b) := rfl

@[simp] theorem except_map_error {ε β γ : Type} (f : β → γ) (e : ε) :
    f <$> (Except.error e : Except ε β) = .error e := rfl

@[simp] theorem except_bind_ok_eq_map {ε β γ : Type} (x : Except ε β) (f : β → γ) :
    (x >>= fun b => Except.ok (f b)) = f <$> x := by
  cases x <;> rfl

theorem except_bind_eq_ok {ε β γ : Type} {x : Except ε β} {f : β → Except ε γ} {c : γ} :
    x >>= f = .ok c ↔ ∃ b, x = .ok b ∧ f b = .ok c := by
  cases x <;> simp [bind, Except.bind]

theorem except_map_eq_ok {ε β γ : Type} {x : Except ε β} {f : β → γ} {c : γ} :
    f <$> x = .ok c ↔ ∃ b, x = .ok b ∧ f b = c := by
  cases x <;> simp [Functor.map, Except.map]

namespace Paired

variable {α : Type}

@[simp] theorem a?_onlyA (x : α) : (onlyA x).a? = some x := rfl
@[simp] theorem a?_onlyB (y : α) : (onlyB y).a? = none := rfl
@[simp] theorem a?_both (x y : α) : (both x y).a? = some x := rfl
@[simp] theorem b?_onlyA (x : α) : (onlyA x).b? = none := rfl
@[simp] theorem b?_onlyB (y : α) : (onlyB y).b? = some y := rfl
@[simp] theorem b?_both (x y : α) : (both x y).b? = some y := rfl
@[simp] theorem item_onlyA (x : α) : (onlyA x).item = x := rfl
@[simp] theorem item_onlyB (y : α) : (onlyB y).item = y := rfl
@[simp] theorem item_both (x y : α) : (both x y).item = x := rfl
@[simp] theorem isBoth_onlyA (x : α) : (onlyA x).isBoth = false := rfl
@[simp] theorem isBoth_onlyB (y : α) : (onlyB y).isBoth = false := rfl
@[simp] theorem isBoth_both (x y : α) : (both x y).isBoth = true := rfl
@[simp] theorem swap_onlyA (x : α) : (onlyA x).swap = onlyB x := rfl
@[simp] theorem swap_onlyB (y : α) : (onlyB y).swap = onlyA y := rfl
@[simp] theorem swap_both (x y : α) : (both x y).swap = both y x := rfl
@[simp] theorem a?_comp_onlyA : (a? ∘ onlyA : α → Option α) = some := rfl
@[simp] theorem a?_comp_onlyB : (a? ∘ onlyB : α → Option α) = fun _ => none := rfl
@[simp] theorem b?_comp_onlyA : (b? ∘ onlyA : α → Option α) = fun _ => none := rfl
@[simp] theorem b?_comp_onlyB : (b? ∘ onlyB : α → Option α) = some := rfl
@[simp] theorem a?_swap (p : Paired α) : p.swap.a? = p.b? := by cases p <;> rfl
@[simp] theorem b?_swap (p : Paired α) : p.swap.b? = p.a? := by cases p <;> rfl
@[simp] theorem isBoth_swap (p : Paired α) : p.swap.isBoth = p.isBoth := by cases p <;> rfl

end Paired

namespace Chain

variable {α : Type}

/-! ## Padded sides

A side padded by `align` is absent items, the chain, and absent items again: a single run, so the
gap check never fails on it. -/

/-- A chain with `s` absent items before it and `r` after it. -/
def pad (s : Nat) (xs : List α) (r : Nat) : List (Option α) :=
  List.replicate s none ++ xs.map some ++ List.replicate r none

@[simp] theorem length_pad (s : Nat) (xs : List α) (r : Nat) :
    (pad s xs r).length = s + xs.length + r := by
  simp [pad, Nat.add_assoc]

@[simp] theorem pad_succ_front (s : Nat) (xs : List α) (r : Nat) :
    pad (s + 1) xs r = none :: pad s xs r := rfl

@[simp] theorem pad_zero_cons (x : α) (xs : List α) (r : Nat) :
    pad 0 (x :: xs) r = some x :: pad 0 xs r := rfl

@[simp] theorem pad_zero_nil (r : Nat) : pad 0 ([] : List α) r = List.replicate r none := rfl

variable [Named α]

/-! ## Repeated names -/

@[simp] theorem names_nil : names ([] : List α) = [] := rfl

@[simp] theorem names_cons (x : α) (xs : List α) :
    names (x :: xs) = Named.name x :: names xs := rfl

@[simp] theorem names_append (xs ys : List α) : names (xs ++ ys) = names xs ++ names ys :=
  List.map_append

@[simp] theorem length_names (xs : List α) : (names xs).length = xs.length := List.length_map _

theorem names_take (xs : List α) (n : Nat) : names (xs.take n) = (names xs).take n :=
  List.map_take

theorem names_drop (xs : List α) (n : Nat) : names (xs.drop n) = (names xs).drop n :=
  List.map_drop

theorem names_filter (xs : List α) (keep : String → Bool) :
    names (xs.filter fun x => keep (Named.name x)) = (names xs).filter keep := by
  simp only [names, List.filter_map]
  rfl

theorem name_ne_of_mem_take_drop {xs : List α} (unique : (names xs).Nodup) {k l : Nat} (le : k ≤ l)
    {x z : α} (early : x ∈ xs.take k) (late : z ∈ xs.drop l) : Named.name x ≠ Named.name z := by
  have disjoint := List.disjoint_take_drop unique le
  rw [← names_take, ← names_drop] at disjoint
  exact fun same => disjoint (List.mem_map_of_mem early) (same ▸ List.mem_map_of_mem late)

theorem firstRepeat_go_eq_none_iff (seen : List String) (xs : List α) :
    firstRepeat?.go seen xs = none ↔ (names xs).Nodup ∧ ∀ n ∈ names xs, n ∉ seen := by
  induction xs generalizing seen with
  | nil => simp [firstRepeat?.go]
  | cons x rest ih =>
    by_cases repeated : Named.name x ∈ seen
    · simp [firstRepeat?.go, repeated]
    · simp only [firstRepeat?.go, List.contains_iff_mem, repeated, if_false, ih, names_cons,
        List.nodup_cons, List.mem_cons]
      constructor
      · rintro ⟨unique, fresh⟩
        refine ⟨⟨fun inRest => fresh _ inRest (.inl rfl), unique⟩, ?_⟩
        rintro n (rfl | inRest)
        · exact repeated
        · exact fun seenBefore => fresh n inRest (.inr seenBefore)
      · rintro ⟨⟨notInRest, unique⟩, fresh⟩
        refine ⟨unique, fun n inRest => ?_⟩
        rintro (rfl | seenBefore)
        · exact notInRest inRest
        · exact fresh n (.inr inRest) seenBefore

/-- The uniqueness check passes exactly on chains without repeated names. -/
theorem checkUnique_eq_ok_iff (xs : List α) : checkUnique xs = .ok () ↔ (names xs).Nodup := by
  have go := firstRepeat_go_eq_none_iff [] xs
  simp only [List.not_mem_nil, not_false_eq_true, implies_true, and_true] at go
  unfold checkUnique firstRepeat?
  split <;> simp_all

theorem checkUnique_of_nodup {xs : List α} (unique : (names xs).Nodup) :
    checkUnique xs = .ok () :=
  (checkUnique_eq_ok_iff xs).2 unique

theorem checkUnique_ne_ok {xs : List α} (repeated : ¬ (names xs).Nodup) (u : Unit) :
    checkUnique xs ≠ .ok u := fun accepted => repeated ((checkUnique_eq_ok_iff xs).1 accepted)

/-! ## The gap check on padded sides -/

/-- A padded side passes the gap check. -/
theorem checkSingleRun_pad (s : Nat) (xs : List α) (r : Nat) :
    checkSingleRun (pad s xs r) = .ok () :=
  checkSingleRun_of_oneBlock ⟨s, xs, r, rfl⟩

/-! ## Pairing from a common start -/

/-- Two chains paired position by position from their first items on, the rest of the longer one
left one-sided; fails at the first position holding two different names. -/
def pairUp : List α → List α → Except AlignmentError (List (Paired α))
  | [], ys => .ok (ys.map .onlyB)
  | x :: xs, [] => .ok ((x :: xs).map .onlyA)
  | x :: xs, y :: ys =>
    if Named.name x == Named.name y then (Paired.both x y :: ·) <$> pairUp xs ys
    else .error (.nameMismatch (Named.name x) (Named.name y))

/-- Pairing from a common start succeeds exactly when one chain's names begin the other's. -/
theorem pairUp_ok_iff (xs ys : List α) :
    (∃ m, pairUp xs ys = .ok m) ↔ names xs <+: names ys ∨ names ys <+: names xs := by
  induction xs generalizing ys with
  | nil => simp [pairUp]
  | cons x xs ih =>
    cases ys with
    | nil => simp [pairUp]
    | cons y ys =>
      by_cases same : Named.name x = Named.name y
      · simp [pairUp, same, except_map_eq_ok, ih]
      · have other : Named.name y ≠ Named.name x := fun h => same h.symm
        simp [pairUp, same, other]

/-- Both sides of a pairing from a common start: each chain from the first position on, padded
at the end to the longer one's length. -/
theorem pairUp_sides {xs ys : List α} {m : List (Paired α)} (paired : pairUp xs ys = .ok m) :
    m.map Paired.a? = pad 0 xs (ys.length - xs.length) ∧
      m.map Paired.b? = pad 0 ys (xs.length - ys.length) := by
  induction xs generalizing ys m with
  | nil =>
    simp only [pairUp, Except.ok.injEq] at paired
    subst paired
    simp [pad, Function.comp_def]
  | cons x xs ih =>
    cases ys with
    | nil =>
      simp only [pairUp, Except.ok.injEq] at paired
      subst paired
      simp [pad, Function.comp_def, List.replicate_succ]
    | cons y ys =>
      by_cases same : Named.name x = Named.name y
      · simp only [pairUp, same, beq_self_eq_true, if_true, except_map_eq_ok] at paired
        obtain ⟨rest, restPaired, rfl⟩ := paired
        obtain ⟨sideA, sideB⟩ := ih restPaired
        simp [sideA, sideB, pad]
      · simp [pairUp, same] at paired

/-- Pairing from a common start only puts items of equal names side by side. -/
theorem pairUp_agree {xs ys : List α} {m : List (Paired α)} (paired : pairUp xs ys = .ok m)
    {x y : α} (member : Paired.both x y ∈ m) : Named.name x = Named.name y := by
  induction xs generalizing ys m with
  | nil =>
    simp only [pairUp, Except.ok.injEq] at paired
    subst paired
    simp at member
  | cons a xs ih =>
    cases ys with
    | nil =>
      simp only [pairUp, Except.ok.injEq] at paired
      subst paired
      simp at member
    | cons b ys =>
      by_cases same : Named.name a = Named.name b
      · simp only [pairUp, same, beq_self_eq_true, if_true, except_map_eq_ok] at paired
        obtain ⟨rest, restPaired, rfl⟩ := paired
        rcases List.mem_cons.1 member with head | inRest
        · cases head
          exact same
        · exact ih restPaired inRest
      · simp [pairUp, same] at paired

/-- Pairing from a common start is symmetric, up to swapping the sides. -/
theorem pairUp_swap {xs ys : List α} {m : List (Paired α)} (paired : pairUp xs ys = .ok m) :
    pairUp ys xs = .ok (m.map Paired.swap) := by
  induction xs generalizing ys m with
  | nil =>
    simp only [pairUp, Except.ok.injEq] at paired
    subst paired
    cases ys <;> simp [pairUp, Function.comp_def]
  | cons x xs ih =>
    cases ys with
    | nil =>
      simp only [pairUp, Except.ok.injEq] at paired
      subst paired
      simp [pairUp, Function.comp_def]
    | cons y ys =>
      by_cases same : Named.name x = Named.name y
      · simp only [pairUp, same, beq_self_eq_true, if_true, except_map_eq_ok] at paired
        obtain ⟨rest, restPaired, rfl⟩ := paired
        simp [pairUp, same, ih restPaired]
      · simp [pairUp, same] at paired

/-- The names of a pairing from a common start, position by position: the first chain's, then
the rest of the second. -/
theorem pairUp_items {xs ys : List α} {m : List (Paired α)} (paired : pairUp xs ys = .ok m) :
    m.map (Named.name ∘ Paired.item) = names xs ++ names (ys.drop xs.length) := by
  induction xs generalizing ys m with
  | nil =>
    simp only [pairUp, Except.ok.injEq] at paired
    subst paired
    simp [names]
  | cons x xs ih =>
    cases ys with
    | nil =>
      simp only [pairUp, Except.ok.injEq] at paired
      subst paired
      simp [names]
    | cons y ys =>
      by_cases same : Named.name x = Named.name y
      · simp only [pairUp, same, beq_self_eq_true, if_true, except_map_eq_ok] at paired
        obtain ⟨rest, restPaired, rfl⟩ := paired
        simp [ih restPaired]
      · simp [pairUp, same] at paired

/-! ## Pairing padded sides -/

/-- One position of two padded sides, as `align` reads it. -/
def pairSides : Option α × Option α → Except AlignmentError (Paired α) := fun (x, y) =>
  match Paired.ofPair? x y with
  | some (.both x y) =>
    if Named.name x == Named.name y then .ok (.both x y)
    else .error (.nameMismatch (Named.name x) (Named.name y))
  | some p => .ok p
  | none => .error .notConsecutive

@[simp] theorem pairSides_none_some (y : α) : pairSides (none, some y) = .ok (.onlyB y) := rfl

@[simp] theorem pairSides_some_none (x : α) : pairSides (some x, none) = .ok (.onlyA x) := rfl

@[simp] theorem pairSides_none_none :
    pairSides ((none, none) : Option α × Option α) = .error .notConsecutive := rfl

theorem pairSides_some_some (x y : α) :
    pairSides (some x, some y) =
      if Named.name x == Named.name y then .ok (.both x y)
      else .error (.nameMismatch (Named.name x) (Named.name y)) := rfl

private theorem mapM_absent_left (ys : List α) :
    ((List.replicate ys.length none).zip (ys.map some)).mapM pairSides = .ok (ys.map .onlyB) := by
  induction ys with
  | nil => rfl
  | cons y ys ih => simp [List.replicate_succ, List.mapM_cons, ih]

private theorem mapM_absent_right (xs : List α) :
    ((xs.map some).zip (List.replicate xs.length none)).mapM pairSides = .ok (xs.map .onlyA) := by
  induction xs with
  | nil => rfl
  | cons x xs ih => simp [List.replicate_succ, List.mapM_cons, ih]

/-- Two padded sides of one length that both start at the first position, one of them with no
padding at the end, pair as `pairUp` pairs their chains. -/
theorem mapM_pairSides_pad (xs ys : List α) (r₁ r₂ : Nat) (same : xs.length + r₁ = ys.length + r₂)
    (tight : r₁ = 0 ∨ r₂ = 0) :
    ((pad 0 xs r₁).zip (pad 0 ys r₂)).mapM pairSides = pairUp xs ys := by
  induction xs generalizing ys with
  | nil =>
    cases ys with
    | nil =>
      have : r₁ = 0 ∧ r₂ = 0 := by omega
      simp [this, pairUp]
    | cons y ys =>
      have : r₁ = ys.length + 1 ∧ r₂ = 0 := by simp at same; omega
      rw [this.1, this.2]
      simpa [pad, pairUp] using mapM_absent_left (y :: ys)
  | cons x xs ih =>
    cases ys with
    | nil =>
      have : r₁ = 0 ∧ r₂ = xs.length + 1 := by simp at same; omega
      rw [this.1, this.2]
      simpa [pad, pairUp] using mapM_absent_right (x :: xs)
    | cons y ys =>
      have rest := ih ys (by simp at same; omega)
      simp only [pad_zero_cons, List.zip_cons_cons, List.mapM_cons, pairSides_some_some, pairUp,
        rest]
      by_cases same : Named.name x = Named.name y
      · simp [same]
      · simp [same]

/-- Absent items in front of side `a` pair the first items of side `b` one-sided. -/
theorem mapM_pairSides_absent_front (p : Nat) (xs ys : List α) (r₁ r₂ : Nat)
    (room : p ≤ ys.length) :
    ((pad p xs r₁).zip (pad 0 ys r₂)).mapM pairSides =
      ((ys.take p).map .onlyB ++ ·) <$> ((pad 0 xs r₁).zip (pad 0 (ys.drop p) r₂)).mapM pairSides := by
  induction p generalizing ys with
  | zero => simp
  | succ p ih =>
    cases ys with
    | nil => simp at room
    | cons y ys =>
      simp only [pad_succ_front, pad_zero_cons, List.zip_cons_cons, List.mapM_cons,
        pairSides_none_some, except_ok_bind, ih ys (by simp at room; omega)]
      simp

/-- Absent items in front of side `b` pair the first items of side `a` one-sided. -/
theorem mapM_pairSides_front_absent (q : Nat) (xs ys : List α) (r₁ r₂ : Nat)
    (room : q ≤ xs.length) :
    ((pad 0 xs r₁).zip (pad q ys r₂)).mapM pairSides =
      ((xs.take q).map .onlyA ++ ·) <$> ((pad 0 (xs.drop q) r₁).zip (pad 0 ys r₂)).mapM pairSides := by
  induction q generalizing xs with
  | zero => simp
  | succ q ih =>
    cases xs with
    | nil => simp at room
    | cons x xs =>
      simp only [pad_succ_front, pad_zero_cons, List.zip_cons_cons, List.mapM_cons,
        pairSides_some_none, except_ok_bind, ih xs (by simp at room; omega)]
      simp

/-- Two sides both padded in front meet at a position where neither is present. -/
theorem mapM_pairSides_absent_absent (p q : Nat) (xs ys : List α) (r₁ r₂ : Nat) :
    ((pad (p + 1) xs r₁).zip (pad (q + 1) ys r₂)).mapM pairSides = .error .notConsecutive := by
  simp [List.mapM_cons]

/-! ## Looking names up -/

theorem findName_eq_none_iff (xs : List α) (n : String) :
    findName xs n = none ↔ n ∉ names xs := by
  simp [findName, names, List.findIdx?_eq_none_iff]

theorem findName_spec {xs : List α} {n : String} {i : Nat} (found : findName xs n = some i) :
    ∃ h : i < xs.length, Named.name xs[i] = n := by
  obtain ⟨h, hit, _⟩ := List.findIdx?_eq_some_iff_getElem.1 found
  exact ⟨h, by simpa using hit⟩

theorem findName_cons_self (x : α) (xs : List α) : findName (x :: xs) (Named.name x) = some 0 := by
  simp [findName, List.findIdx?_cons]

/-- In a chain without repeated names, looking up the name at a position finds that position. -/
theorem findName_getElem {xs : List α} (unique : (names xs).Nodup) (i : Nat) (h : i < xs.length) :
    findName xs (Named.name xs[i]) = some i := by
  refine List.findIdx?_eq_some_iff_getElem.2 ⟨h, by simp, fun j before => ?_⟩
  have boundJ : j < (names xs).length := by simp; omega
  have boundI : i < (names xs).length := by simp; omega
  have differ : (names xs)[j] ≠ (names xs)[i] := fun same =>
    absurd ((List.Nodup.getElem_inj_iff unique).1 same) (by omega)
  simpa [names] using differ

/-! ## What `align` computes -/

theorem align_nil_left {bs : List α} (uniqueB : (names bs).Nodup) :
    align [] bs = .ok (bs.map .onlyB) := by
  unfold align
  rw [checkUnique_of_nodup (by simp), checkUnique_of_nodup uniqueB]
  cases bs <;> rfl

theorem align_nil_right {as : List α} (uniqueA : (names as).Nodup) :
    align as [] = .ok (as.map .onlyA) := by
  unfold align
  rw [checkUnique_of_nodup uniqueA, checkUnique_of_nodup (by simp)]
  cases as <;> rfl

theorem align_nodup {as bs : List α} {m : List (Paired α)} (accepted : align as bs = .ok m) :
    (names as).Nodup ∧ (names bs).Nodup := by
  unfold align at accepted
  obtain ⟨⟨⟩, checkedA, rest⟩ := except_bind_eq_ok.1 accepted
  obtain ⟨⟨⟩, checkedB, -⟩ := except_bind_eq_ok.1 rest
  exact ⟨(checkUnique_eq_ok_iff as).1 checkedA, (checkUnique_eq_ok_iff bs).1 checkedB⟩

/-- Two nonempty chains without repeated names: `align` pads each by the position of the other's
first name in it, if found, and pairs the padded sides. -/
theorem align_cons_cons (a0 b0 : α) (as bs : List α) (uniqueA : (names (a0 :: as)).Nodup)
    (uniqueB : (names (b0 :: bs)).Nodup) :
    align (a0 :: as) (b0 :: bs) =
      if (findName (b0 :: bs) (Named.name a0)).isNone &&
          (findName (a0 :: as) (Named.name b0)).isNone then
        .error (.noOverlap (Named.name a0) (Named.name b0))
      else
        let p := (findName (b0 :: bs) (Named.name a0)).getD 0
        let q := (findName (a0 :: as) (Named.name b0)).getD 0
        let len := max (p + (as.length + 1)) (q + (bs.length + 1))
        ((pad p (a0 :: as) (len - (p + (as.length + 1)))).zip
          (pad q (b0 :: bs) (len - (q + (bs.length + 1))))).mapM pairSides := by
  unfold align
  rw [checkUnique_of_nodup uniqueA, checkUnique_of_nodup uniqueB]
  simp only [except_ok_bind]
  split
  · rfl
  · -- the padded sides are `pad` unfolded, and both pass the gap check
    have padded : ∀ (s : Nat) (xs : List α) (r : Nat),
        checkSingleRun (List.replicate s none ++ xs.map some ++ List.replicate r none) = .ok () :=
      checkSingleRun_pad
    simp only [List.length_append, List.length_replicate, List.length_map, List.length_cons,
      padded, except_ok_bind]
    rfl

section Cases

variable {a0 b0 : α} {as bs : List α}

/-- When the first name of `b` is found at position `q` of `a`, and the first name of `a` is not
found in `b` unless both start alike, `a` runs one-sided up to `q` and is paired with `b` from
there. -/
theorem align_of_found_in_a (uniqueA : (names (a0 :: as)).Nodup)
    (uniqueB : (names (b0 :: bs)).Nodup) {q : Nat}
    (found : findName (a0 :: as) (Named.name b0) = some q)
    (first : q = 0 ∨ findName (b0 :: bs) (Named.name a0) = none) :
    align (a0 :: as) (b0 :: bs) =
      (((a0 :: as).take q).map .onlyA ++ ·) <$> pairUp ((a0 :: as).drop q) (b0 :: bs) := by
  obtain ⟨inside, named⟩ := findName_spec found
  rw [List.length_cons] at inside
  have unpadded : findName (b0 :: bs) (Named.name a0) = none ∨
      findName (b0 :: bs) (Named.name a0) = some 0 := by
    rcases first with rfl | missing
    · right
      simp only [List.getElem_cons_zero] at named
      rw [named]
      exact findName_cons_self b0 bs
    · exact .inl missing
  have start : (findName (b0 :: bs) (Named.name a0)).getD 0 = 0 := by
    rcases unpadded with missing | atStart <;> simp [*]
  rw [align_cons_cons a0 b0 as bs uniqueA uniqueB, found]
  simp only [Option.isNone_some, Bool.and_false, Bool.false_eq_true, if_false, Option.getD_some,
    start]
  rw [mapM_pairSides_front_absent q _ _ _ _ (by simp; omega), mapM_pairSides_pad _ _ _ _ (by simp; omega)
    (by omega)]

/-- When the first name of `a` is found at position `p` of `b` and the first name of `b` is not
found in `a`, `b` runs one-sided up to `p` and is paired with `a` from there. -/
theorem align_of_found_in_b (uniqueA : (names (a0 :: as)).Nodup)
    (uniqueB : (names (b0 :: bs)).Nodup) {p : Nat}
    (found : findName (b0 :: bs) (Named.name a0) = some p)
    (missing : findName (a0 :: as) (Named.name b0) = none) :
    align (a0 :: as) (b0 :: bs) =
      (((b0 :: bs).take p).map .onlyB ++ ·) <$> pairUp (a0 :: as) ((b0 :: bs).drop p) := by
  obtain ⟨inside, -⟩ := findName_spec found
  rw [List.length_cons] at inside
  rw [align_cons_cons a0 b0 as bs uniqueA uniqueB, found, missing]
  simp only [Option.isNone_some, Bool.false_and, Bool.false_eq_true, if_false, Option.getD_some,
    Option.getD_none]
  rw [mapM_pairSides_absent_front p _ _ _ _ (by simp; omega), mapM_pairSides_pad _ _ _ _ (by simp; omega)
    (by omega)]

/-- Chains neither of whose first names is found in the other have no overlap. -/
theorem align_of_missing (uniqueA : (names (a0 :: as)).Nodup) (uniqueB : (names (b0 :: bs)).Nodup)
    (missingA : findName (b0 :: bs) (Named.name a0) = none)
    (missingB : findName (a0 :: as) (Named.name b0) = none) :
    align (a0 :: as) (b0 :: bs) = .error (.noOverlap (Named.name a0) (Named.name b0)) := by
  rw [align_cons_cons a0 b0 as bs uniqueA uniqueB, missingA, missingB]
  rfl

/-- Chains whose first names are each found past the other's start meet at a position where
neither is present. -/
theorem align_of_found_past_start (uniqueA : (names (a0 :: as)).Nodup)
    (uniqueB : (names (b0 :: bs)).Nodup) {p q : Nat}
    (foundA : findName (b0 :: bs) (Named.name a0) = some (p + 1))
    (foundB : findName (a0 :: as) (Named.name b0) = some (q + 1)) :
    align (a0 :: as) (b0 :: bs) = .error .notConsecutive := by
  rw [align_cons_cons a0 b0 as bs uniqueA uniqueB, foundA, foundB]
  exact mapM_pairSides_absent_absent p q _ _ _ _

/-! ## Which chains `align` accepts -/

/-- Chain `bs` begins at position `q` of chain `as`: from there on the two carry the same names
for as long as both last. -/
def BeginsAt (as bs : List α) (q : Nat) : Prop :=
  q < as.length ∧ (names (as.drop q) <+: names bs ∨ names bs <+: names (as.drop q))

/-- How `align` accepts two nonempty chains: one begins inside the other at the position of its
first name there, and unless both start alike, the other's first name does not occur in it. -/
def Overlap (as bs : List α) : Prop :=
  (∃ q, BeginsAt as bs q ∧ (q = 0 ∨ ∀ a ∈ as.head?, Named.name a ∉ names bs)) ∨
    ∃ p, BeginsAt bs as p ∧ (p = 0 ∨ ∀ b ∈ bs.head?, Named.name b ∉ names as)

/-- Where a chain begins inside another, the other holds its first name. -/
theorem beginsAt_name {as : List α} {q : Nat} (begins : BeginsAt as (b0 :: bs) q) :
    ∃ h : q < as.length, Named.name as[q] = Named.name b0 := by
  obtain ⟨inside, comparable⟩ := begins
  refine ⟨inside, ?_⟩
  rw [names_drop, List.drop_eq_getElem_cons (by simpa using inside), names_cons] at comparable
  rcases comparable with starts | starts <;>
    simp only [List.cons_prefix_cons, List.getElem_map, names] at starts
  · exact starts.1
  · exact starts.1.symm

/-- A successful alignment of two nonempty chains: `b` enters `a` at the position of its first
name there, or `a` enters `b` at the position of its first name there while `b`'s first name is
not in `a`. -/
theorem align_cons_ok_cases {m : List (Paired α)} (accepted : align (a0 :: as) (b0 :: bs) = .ok m) :
    (∃ q rest, findName (a0 :: as) (Named.name b0) = some q ∧
        (q = 0 ∨ findName (b0 :: bs) (Named.name a0) = none) ∧
        pairUp ((a0 :: as).drop q) (b0 :: bs) = .ok rest ∧
        m = ((a0 :: as).take q).map .onlyA ++ rest) ∨
      ∃ p rest, findName (b0 :: bs) (Named.name a0) = some p ∧
        findName (a0 :: as) (Named.name b0) = none ∧
        pairUp (a0 :: as) ((b0 :: bs).drop p) = .ok rest ∧
        m = ((b0 :: bs).take p).map .onlyB ++ rest := by
  obtain ⟨uniqueA, uniqueB⟩ := align_nodup accepted
  cases foundB : findName (a0 :: as) (Named.name b0) with
  | none =>
    cases foundA : findName (b0 :: bs) (Named.name a0) with
    | none =>
      rw [align_of_missing uniqueA uniqueB foundA foundB] at accepted
      cases accepted
    | some p =>
      rw [align_of_found_in_b uniqueA uniqueB foundA foundB] at accepted
      obtain ⟨rest, pairing, shape⟩ := except_map_eq_ok.1 accepted
      exact .inr ⟨p, rest, rfl, rfl, pairing, shape.symm⟩
  | some q =>
    -- a first name found past the start on both sides is refused
    have first : q = 0 ∨ findName (b0 :: bs) (Named.name a0) = none := by
      cases foundA : findName (b0 :: bs) (Named.name a0) with
      | none => exact .inr rfl
      | some p =>
        cases q with
        | zero => exact .inl rfl
        | succ q =>
          cases p with
          | zero =>
            obtain ⟨_, named⟩ := findName_spec foundA
            simp only [List.getElem_cons_zero] at named
            rw [named, findName_cons_self] at foundB
            cases foundB
          | succ p =>
            rw [align_of_found_past_start uniqueA uniqueB foundA foundB] at accepted
            cases accepted
    rw [align_of_found_in_a uniqueA uniqueB foundB first] at accepted
    obtain ⟨rest, pairing, shape⟩ := except_map_eq_ok.1 accepted
    exact .inl ⟨q, rest, rfl, first, pairing, shape.symm⟩

theorem overlap_of_align_ok {m : List (Paired α)} (accepted : align (a0 :: as) (b0 :: bs) = .ok m) :
    Overlap (a0 :: as) (b0 :: bs) := by
  rcases align_cons_ok_cases accepted with
    ⟨q, rest, found, first, pairing, -⟩ | ⟨p, rest, found, missing, pairing, -⟩
  · obtain ⟨inside, -⟩ := findName_spec found
    refine .inl ⟨q, ⟨inside, (pairUp_ok_iff _ _).1 ⟨rest, pairing⟩⟩, ?_⟩
    rcases first with zero | absent
    · exact .inl zero
    · exact .inr (by simpa using (findName_eq_none_iff _ _).1 absent)
  · obtain ⟨inside, -⟩ := findName_spec found
    refine .inr ⟨p, ⟨inside, ((pairUp_ok_iff _ _).1 ⟨rest, pairing⟩).symm⟩, .inr ?_⟩
    simpa using (findName_eq_none_iff _ _).1 missing

theorem align_ok_of_overlap (uniqueA : (names (a0 :: as)).Nodup)
    (uniqueB : (names (b0 :: bs)).Nodup) (overlap : Overlap (a0 :: as) (b0 :: bs)) :
    ∃ m, align (a0 :: as) (b0 :: bs) = .ok m := by
  rcases overlap with ⟨q, begins, first⟩ | ⟨p, begins, first⟩
  · obtain ⟨inside, named⟩ := beginsAt_name begins
    have found : findName (a0 :: as) (Named.name b0) = some q := by
      rw [← named]
      exact findName_getElem uniqueA q inside
    have unpadded : q = 0 ∨ findName (b0 :: bs) (Named.name a0) = none := by
      rcases first with zero | missing
      · exact .inl zero
      · exact .inr ((findName_eq_none_iff _ _).2 (by simpa using missing))
    obtain ⟨paired, pairing⟩ := (pairUp_ok_iff _ _).2 begins.2
    exact ⟨_, by rw [align_of_found_in_a uniqueA uniqueB found unpadded, pairing]; rfl⟩
  · obtain ⟨inside, named⟩ := beginsAt_name begins
    have found : findName (b0 :: bs) (Named.name a0) = some p := by
      rw [← named]
      exact findName_getElem uniqueB p inside
    rcases first with rfl | missing
    · -- both chains start alike, so `b`'s first name is found at the start of `a`
      have atStart : findName (a0 :: as) (Named.name b0) = some 0 := by
        simp only [List.getElem_cons_zero] at named
        rw [named]
        exact findName_cons_self a0 as
      obtain ⟨paired, pairing⟩ := (pairUp_ok_iff ((a0 :: as).drop 0) (b0 :: bs)).2
        (by simpa using begins.2.symm)
      exact ⟨_, by rw [align_of_found_in_a uniqueA uniqueB atStart (.inl rfl), pairing]; rfl⟩
    · have absent : findName (a0 :: as) (Named.name b0) = none :=
        (findName_eq_none_iff _ _).2 (by simpa using missing)
      obtain ⟨paired, pairing⟩ := (pairUp_ok_iff _ _).2 begins.2.symm
      exact ⟨_, by rw [align_of_found_in_b uniqueA uniqueB found absent, pairing]; rfl⟩

end Cases

/-- `align` accepts exactly the chains without repeated names of which one is empty or which
overlap as `Overlap` says. -/
theorem align_ok_iff (as bs : List α) :
    (∃ m, align as bs = .ok m) ↔
      (names as).Nodup ∧ (names bs).Nodup ∧ (as = [] ∨ bs = [] ∨ Overlap as bs) := by
  constructor
  · rintro ⟨m, accepted⟩
    obtain ⟨uniqueA, uniqueB⟩ := align_nodup accepted
    refine ⟨uniqueA, uniqueB, ?_⟩
    cases as with
    | nil => exact .inl rfl
    | cons a0 as =>
      cases bs with
      | nil => exact .inr (.inl rfl)
      | cons b0 bs => exact .inr (.inr (overlap_of_align_ok accepted))
  · rintro ⟨uniqueA, uniqueB, shape⟩
    cases as with
    | nil => exact ⟨_, align_nil_left uniqueB⟩
    | cons a0 as =>
      cases bs with
      | nil => exact ⟨_, align_nil_right uniqueA⟩
      | cons b0 bs =>
        rcases shape with empty | empty | overlap
        · cases empty
        · cases empty
        · exact align_ok_of_overlap uniqueA uniqueB overlap

/-! ## The shape of a successful alignment -/

/-- Chain `bs` enters chain `as` at position `q` in the alignment `m`: `as` alone up to `q`, then
both chains paired from a common start. -/
def EntersAt (as bs : List α) (m : List (Paired α)) (q : Nat) : Prop :=
  q < as.length ∧ ∃ rest, pairUp (as.drop q) bs = .ok rest ∧ m = (as.take q).map .onlyA ++ rest

section Entering

variable {as bs : List α} {m : List (Paired α)} {q : Nat}

theorem EntersAt.sides (entering : EntersAt as bs m q) :
    m.map Paired.a? = pad 0 as (bs.length - (as.length - q)) ∧
      m.map Paired.b? = pad q bs (as.length - q - bs.length) := by
  obtain ⟨inside, rest, paired, rfl⟩ := entering
  obtain ⟨sideA, sideB⟩ := pairUp_sides paired
  constructor
  · rw [List.map_append, sideA]
    simp only [pad, List.map_map, Paired.a?_comp_onlyA, List.replicate_zero, List.nil_append,
      List.length_drop, List.map_take, List.map_drop]
    rw [← List.append_assoc, List.take_append_drop]
  · rw [List.map_append, sideB]
    simp [pad, List.map_const', min_eq_left inside.le]

theorem EntersAt.agree (entering : EntersAt as bs m q) {x y : α}
    (member : Paired.both x y ∈ m) : Named.name x = Named.name y := by
  obtain ⟨-, rest, paired, rfl⟩ := entering
  rcases List.mem_append.1 member with front | inRest
  · obtain ⟨_, -, impossible⟩ := List.mem_map.1 front
    cases impossible
  · exact pairUp_agree paired inRest

theorem EntersAt.items (entering : EntersAt as bs m q) :
    m.map (Named.name ∘ Paired.item) = names as ++ names (bs.drop (as.length - q)) := by
  obtain ⟨-, rest, paired, rfl⟩ := entering
  rw [List.map_append, pairUp_items paired, ← List.append_assoc]
  conv_rhs => rw [← List.take_append_drop q as]
  simp [names, Function.comp_def]

end Entering

/-- The shapes of a successful alignment: one chain empty and the other one-sided, `b` entering
`a`, or `a` entering `b` (which is `b` entering `a` with the sides swapped). -/
theorem align_cases {as bs : List α} {m : List (Paired α)} (accepted : align as bs = .ok m) :
    (as = [] ∧ m = bs.map .onlyB) ∨ (bs = [] ∧ m = as.map .onlyA) ∨
      (∃ q, EntersAt as bs m q) ∨ ∃ p, EntersAt bs as (m.map Paired.swap) p := by
  obtain ⟨uniqueA, uniqueB⟩ := align_nodup accepted
  cases as with
  | nil =>
    rw [align_nil_left uniqueB] at accepted
    exact .inl ⟨rfl, (Except.ok.inj accepted).symm⟩
  | cons a0 as =>
    cases bs with
    | nil =>
      rw [align_nil_right uniqueA] at accepted
      exact .inr (.inl ⟨rfl, (Except.ok.inj accepted).symm⟩)
    | cons b0 bs =>
      right; right
      rcases align_cons_ok_cases accepted with
        ⟨q, rest, found, -, pairing, shape⟩ | ⟨p, rest, found, -, pairing, shape⟩
      · exact .inl ⟨q, (findName_spec found).1, rest, pairing, shape⟩
      · refine .inr ⟨p, (findName_spec found).1, rest.map Paired.swap, pairUp_swap pairing, ?_⟩
        simp [shape, Function.comp_def]

/-- Each side of a successful alignment is its chain, padded with absent items at both ends. -/
theorem align_sides {as bs : List α} {m : List (Paired α)} (accepted : align as bs = .ok m) :
    (∃ s r, m.map Paired.a? = pad s as r) ∧ ∃ t r, m.map Paired.b? = pad t bs r := by
  rcases align_cases accepted with ⟨rfl, rfl⟩ | ⟨rfl, rfl⟩ | ⟨q, entering⟩ | ⟨p, entering⟩
  · exact ⟨⟨bs.length, 0, by simp [pad, Function.comp_def, List.map_const']⟩, 0, 0, by simp [pad]⟩
  · exact ⟨⟨0, 0, by simp [pad]⟩, as.length, 0, by simp [pad, Function.comp_def, List.map_const']⟩
  · obtain ⟨sideA, sideB⟩ := entering.sides
    exact ⟨⟨_, _, sideA⟩, _, _, sideB⟩
  · obtain ⟨sideB, sideA⟩ := entering.sides
    simp only [List.map_map, Function.comp_def, Paired.a?_swap, Paired.b?_swap] at sideA sideB
    exact ⟨⟨_, _, sideA⟩, _, _, sideB⟩

/-- A successful alignment only puts items of equal names side by side. -/
theorem align_agree {as bs : List α} {m : List (Paired α)} (accepted : align as bs = .ok m)
    {x y : α} (member : Paired.both x y ∈ m) : Named.name x = Named.name y := by
  rcases align_cases accepted with ⟨-, rfl⟩ | ⟨-, rfl⟩ | ⟨q, entering⟩ | ⟨p, entering⟩
  · simp at member
  · simp at member
  · exact entering.agree member
  · exact (entering.agree (List.mem_map_of_mem (f := Paired.swap) member)).symm

end Chain

end ZfsReplication
