import Mathlib
import ZfsReplication.Proofs.Chain.Head

/-!
# The views of an alignment, position by position

A successful alignment lays its two chains out in blocks (`Chain.Layout`): the oldest items of the
chain that starts first, alone; the items both chains hold, paired by name; the newest items of the
chain that ends last, alone. Unless both start alike, the chain that starts first starts with a name
the other lacks (`align_layout`).

Read off such a layout, every view of one side against the other is a statement about positions
(`ViewsByPosition`): the side's items stand in one block, `disjointHead` takes its items after the
last position of the other side, `disjointTail` those before the first, and `overlapTail` the items
of the paired positions, each failing exactly where the positions say (`align_views_by_position`).
-/

set_option autoImplicit false

namespace ZfsReplication

@[simp] theorem Paired.swap_swap {α : Type} (p : Paired α) : p.swap.swap = p := by
  cases p <;> rfl

namespace Chain

variable {α : Type}

/-! ## Layouts -/

/-- An alignment in blocks: items of side `a` alone, of side `b` alone, paired items, and again
items of side `a` alone and of side `b` alone. -/
structure Layout (α : Type) where
  frontA : List α
  frontB : List α
  pairs : List (α × α)
  backA : List α
  backB : List α

namespace Layout

/-- The positions of a layout, oldest first. -/
def positions (L : Layout α) : List (Paired α) :=
  L.frontA.map .onlyA ++ L.frontB.map .onlyB ++ L.pairs.map (fun xy => .both xy.1 xy.2) ++
    L.backA.map .onlyA ++ L.backB.map .onlyB

def chainA (L : Layout α) : List α := L.frontA ++ L.pairs.map Prod.fst ++ L.backA

def chainB (L : Layout α) : List α := L.frontB ++ L.pairs.map Prod.snd ++ L.backB

/-- The layout seen from side `b`. -/
def swap (L : Layout α) : Layout α :=
  ⟨L.frontB, L.frontA, L.pairs.map Prod.swap, L.backB, L.backA⟩

/-- The layout read from its newest position back. -/
def reverse (L : Layout α) : Layout α :=
  ⟨L.backA.reverse, L.backB.reverse, L.pairs.reverse, L.frontA.reverse, L.frontB.reverse⟩

variable (L : Layout α)

@[simp] theorem chainA_swap : L.swap.chainA = L.chainB := by
  simp [swap, chainA, chainB, Function.comp_def]

@[simp] theorem chainB_swap : L.swap.chainB = L.chainA := by
  simp [swap, chainA, chainB, Function.comp_def]

/-- Seen from side `b`, the positions are swapped; at either end at most one side stands alone, so
the order of the blocks there does not matter. -/
theorem positions_swap (oneFront : L.frontA = [] ∨ L.frontB = [])
    (oneBack : L.backA = [] ∨ L.backB = []) : L.swap.positions = L.positions.map Paired.swap := by
  obtain ⟨frontA, frontB, pairs, backA, backB⟩ := L
  simp only at oneFront oneBack
  rcases oneFront with rfl | rfl <;> rcases oneBack with rfl | rfl <;>
    simp [swap, positions, Function.comp_def]

@[simp] theorem chainA_reverse : L.reverse.chainA = L.chainA.reverse := by
  simp [reverse, chainA, List.map_reverse, List.append_assoc]

@[simp] theorem chainB_reverse : L.reverse.chainB = L.chainB.reverse := by
  simp [reverse, chainB, List.map_reverse, List.append_assoc]

end Layout

/-! ## Positions of a layout -/

theorem takeWhile_append_cons {β : Type} {p : β → Bool} {l₁ l₂ : List β} {x : β}
    (passes : ∀ y ∈ l₁, p y) (stops : p x = false) : (l₁ ++ x :: l₂).takeWhile p = l₁ := by
  rw [List.takeWhile_append_of_pos passes, List.takeWhile_cons_of_neg (by simp [stops]),
    List.append_nil]

theorem rtakeWhile_append_cons {β : Type} {p : β → Bool} {l₁ l₂ : List β} {x : β}
    (stops : p x = false) (passes : ∀ y ∈ l₂, p y) : (l₁ ++ x :: l₂).rtakeWhile p = l₂ := by
  rw [List.rtakeWhile, List.reverse_append, List.reverse_cons, List.append_assoc,
    List.singleton_append, takeWhile_append_cons (by simpa using passes) stops, List.reverse_reverse]

namespace Layout

variable {L : Layout α}

/-- Side `a` of a layout is its chain, with side `b`'s items alone at either end around it. -/
theorem map_a?_positions (oneFront : L.frontA = [] ∨ L.frontB = [])
    (oneBack : L.backA = [] ∨ L.backB = []) :
    L.positions.map Paired.a? = pad L.frontB.length L.chainA L.backB.length := by
  obtain ⟨frontA, frontB, pairs, backA, backB⟩ := L
  dsimp only at oneFront oneBack
  rcases oneFront with rfl | rfl <;> rcases oneBack with rfl | rfl <;>
    simp [positions, chainA, pad, Function.comp_def, List.map_const']

@[simp] theorem filterMap_a?_positions : L.positions.filterMap Paired.a? = L.chainA := by
  simp [positions, chainA, List.filterMap_map, Function.comp_def]

theorem filter_b?_positions :
    L.positions.filter (fun p => p.b?.isSome) =
      L.frontB.map .onlyB ++ L.pairs.map (fun xy => .both xy.1 xy.2) ++ L.backB.map .onlyB := by
  simp [positions, List.filter_map, Function.comp_def]

theorem filter_isBoth_positions :
    L.positions.filter Paired.isBoth = L.pairs.map (fun xy => .both xy.1 xy.2) := by
  simp [positions, List.filter_map, Function.comp_def]

/-- Past the last pair, with nothing of side `b` after it, stand the back items of side `a`. -/
theorem rtakeWhile_b?_positions (noBackB : L.backB = []) (paired : L.pairs ≠ []) :
    L.positions.rtakeWhile (fun p => p.b?.isNone) = L.backA.map .onlyA := by
  obtain ⟨init, ⟨x, y⟩, pairsEq⟩ := (List.eq_nil_or_concat L.pairs).resolve_left paired
  have split : L.positions = (L.frontA.map .onlyA ++ L.frontB.map .onlyB ++
      init.map fun xy => .both xy.1 xy.2) ++ Paired.both x y :: L.backA.map .onlyA := by
    simp [positions, pairsEq, noBackB]
  rw [split, rtakeWhile_append_cons rfl (by simp)]

theorem rtakeWhile_isBoth_positions (paired : L.pairs ≠ []) :
    L.positions.rtakeWhile (fun p => !p.isBoth) = L.backA.map .onlyA ++ L.backB.map .onlyB := by
  obtain ⟨init, ⟨x, y⟩, pairsEq⟩ := (List.eq_nil_or_concat L.pairs).resolve_left paired
  have split : L.positions = (L.frontA.map .onlyA ++ L.frontB.map .onlyB ++
      init.map fun xy => .both xy.1 xy.2) ++
      Paired.both x y :: (L.backA.map .onlyA ++ L.backB.map .onlyB) := by
    simp [positions, pairsEq]
  rw [split, rtakeWhile_append_cons rfl (by simp [or_imp, forall_and])]

/-- Before the first pair, with nothing of side `b` before it, stand the front items of side `a`. -/
theorem takeWhile_b?_positions (noFrontB : L.frontB = []) (paired : L.pairs ≠ []) :
    L.positions.takeWhile (fun p => p.b?.isNone) = L.frontA.map .onlyA := by
  obtain ⟨⟨x, y⟩, rest, pairsEq⟩ := List.exists_cons_of_ne_nil paired
  have split : L.positions = L.frontA.map .onlyA ++ Paired.both x y ::
      (rest.map (fun xy => .both xy.1 xy.2) ++ L.backA.map .onlyA ++ L.backB.map .onlyB) := by
    simp [positions, pairsEq, noFrontB]
  rw [split, takeWhile_append_cons (by simp) rfl]

/-- Without a front of side `a`, side `b` is there from the first position on. -/
theorem takeWhile_b?_positions_of_noFrontA (noFrontA : L.frontA = []) (paired : L.pairs ≠ []) :
    L.positions.takeWhile (fun p => p.b?.isNone) = [] := by
  cases frontEq : L.frontB with
  | nil => rw [takeWhile_b?_positions frontEq paired, noFrontA, List.map_nil]
  | cons b restB => simp [positions, noFrontA, frontEq]

/-- Side `b` starts no later than side `a` only where side `a` has no front. -/
theorem noFrontA_of_le
    (later : (L.positions.takeWhile fun p => p.b?.isNone).length ≤
      (L.positions.takeWhile fun p => p.a?.isNone).length) : L.frontA = [] := by
  cases frontEq : L.frontA with
  | nil => rfl
  | cons a restA => simp [positions, frontEq, List.takeWhile_cons] at later

theorem mem_chainA_of_positions {p : Paired α} {x : α} (member : p ∈ L.positions)
    (present : p.a? = some x) : x ∈ L.chainA := by
  rw [← filterMap_a?_positions]
  exact List.mem_filterMap.2 ⟨p, member, present⟩

/-- The last position with side `b` is paired exactly when side `b` ends with a pair. -/
theorem lastPair_of_isBoth {p : Paired α}
    (last : p ∈ (L.positions.filter fun p => p.b?.isSome).getLast?) (both : p.isBoth = true) :
    L.backB = [] ∧ L.pairs ≠ [] := by
  rw [filter_b?_positions, List.getLast?_append, List.getLast?_append] at last
  rcases List.eq_nil_or_concat L.backB with noBackB | ⟨init, z, backEq⟩
  · refine ⟨noBackB, fun noPairs => ?_⟩
    rcases List.eq_nil_or_concat L.frontB with noFrontB | ⟨initF, b, frontEq⟩
    · simp [noBackB, noPairs, noFrontB] at last
    · simp [noBackB, noPairs, frontEq] at last
      simp [← last] at both
  · simp [backEq] at last
    simp [← last] at both

/-- The first position with side `b` is paired exactly when side `b` starts with a pair. -/
theorem firstPair_of_isBoth {p : Paired α}
    (first : p ∈ (L.positions.filter fun p => p.b?.isSome).head?) (both : p.isBoth = true) :
    L.frontB = [] ∧ L.pairs ≠ [] := by
  rw [filter_b?_positions] at first
  cases frontEq : L.frontB with
  | cons b restB =>
    simp [frontEq] at first
    simp [← first] at both
  | nil =>
    refine ⟨rfl, fun noPairs => ?_⟩
    cases backEq : L.backB with
    | nil => simp [frontEq, noPairs, backEq] at first
    | cons z restB =>
      simp [frontEq, noPairs, backEq] at first
      simp [← first] at both

/-- The position after the pairs, holding an item of side `a`, holds the oldest item of side `a`'s
back. -/
theorem head?_backA_of_next (paired : L.pairs ≠ []) {p : Paired α}
    (next : p ∈ (L.positions.rtakeWhile fun p => !p.isBoth).head?) {x : α} (present : x ∈ p.a?) :
    L.backA.head? = some x := by
  rw [rtakeWhile_isBoth_positions paired] at next
  cases backEq : L.backA with
  | cons x' restA =>
    simp [backEq] at next
    simp [← next] at present
    simp [present]
  | nil =>
    cases backBEq : L.backB with
    | nil => simp [backEq, backBEq] at next
    | cons z restB =>
      simp [backEq, backBEq] at next
      simp [← next] at present

theorem filterMap_a?_eq_nil_of_isSuffix (emptyA : L.chainA = []) {l : List (Paired α)}
    (suffix : l <:+ L.positions) : l.filterMap Paired.a? = [] := by
  have within := suffix.filterMap Paired.a?
  rw [filterMap_a?_positions, emptyA] at within
  exact List.suffix_nil.1 within

theorem filterMap_a?_eq_nil_of_isPrefix (emptyA : L.chainA = []) {l : List (Paired α)}
    (front : l <+: L.positions) : l.filterMap Paired.a? = [] := by
  have within := front.filterMap Paired.a?
  rw [filterMap_a?_positions, emptyA] at within
  exact List.prefix_nil.1 within

/-- Without side `b`, no position has side `b`. -/
theorem b?_isNone_of_emptyB (emptyB : L.chainB = []) : ∀ p ∈ L.positions, p.b?.isNone := by
  obtain ⟨frontA, frontB, pairs, backA, backB⟩ := L
  simp only [chainB, List.append_eq_nil_iff, List.map_eq_nil_iff] at emptyB
  obtain ⟨⟨rfl, rfl⟩, rfl⟩ := emptyB
  simp [positions, or_imp, forall_and]

variable (L)

variable [Named α]

/-- What makes a layout an alignment: paired items agree in name, at either end at most one side
stands alone, the side alone at the start starts with a name the other side lacks, the chains meet
unless one is empty, and neither repeats a name. -/
structure Aligned : Prop where
  agree : ∀ xy ∈ L.pairs, Named.name xy.1 = Named.name xy.2
  oneFront : L.frontA = [] ∨ L.frontB = []
  oneBack : L.backA = [] ∨ L.backB = []
  freshA : ∀ a ∈ L.frontA.head?, Named.name a ∉ names L.chainB
  freshB : ∀ b ∈ L.frontB.head?, Named.name b ∉ names L.chainA
  meet : L.pairs = [] → L.chainA = [] ∨ L.chainB = []
  uniqueA : (names L.chainA).Nodup
  uniqueB : (names L.chainB).Nodup

variable {L}

theorem Aligned.swap (aligned : L.Aligned) : L.swap.Aligned where
  agree xy paired := by
    obtain ⟨yx, member, rfl⟩ := List.mem_map.1 paired
    exact (aligned.agree yx member).symm
  oneFront := aligned.oneFront.symm
  oneBack := aligned.oneBack.symm
  freshA := by
    rw [chainB_swap]
    exact aligned.freshB
  freshB := by
    rw [chainA_swap]
    exact aligned.freshA
  meet noPairs := by
    rw [chainA_swap, chainB_swap]
    exact (aligned.meet (List.map_eq_nil_iff.1 noPairs)).symm
  uniqueA := by simpa using aligned.uniqueB
  uniqueB := by simpa using aligned.uniqueA

/-- The paired items carry the same names on both sides. -/
theorem names_pairs (agree : ∀ xy ∈ L.pairs, Named.name xy.1 = Named.name xy.2) :
    names (L.pairs.map Prod.fst) = names (L.pairs.map Prod.snd) := by
  simp only [names, List.map_map]
  exact List.map_congr_left fun xy member => agree xy member

end Layout

/-! ## Every alignment is a layout -/

/-- Pairing from a common start gives paired items, then the rest of the longer chain alone. -/
theorem pairUp_layout [Named α] {xs ys : List α} {rest : List (Paired α)}
    (paired : pairUp xs ys = .ok rest) :
    ∃ (pairs : List (α × α)) (R S : List α),
      rest = pairs.map (fun xy => Paired.both xy.1 xy.2) ++ R.map .onlyA ++ S.map .onlyB ∧
      xs = pairs.map Prod.fst ++ R ∧ ys = pairs.map Prod.snd ++ S ∧ (R = [] ∨ S = []) ∧
      ∀ xy ∈ pairs, Named.name xy.1 = Named.name xy.2 := by
  induction xs generalizing ys rest with
  | nil =>
    simp only [pairUp, Except.ok.injEq] at paired
    exact ⟨[], [], ys, by simp [paired], rfl, rfl, .inl rfl, by simp⟩
  | cons x xs ih =>
    cases ys with
    | nil =>
      simp only [pairUp, Except.ok.injEq] at paired
      exact ⟨[], x :: xs, [], by simp [paired], rfl, rfl, .inr rfl, by simp⟩
    | cons y ys =>
      by_cases same : Named.name x = Named.name y
      · simp only [pairUp, same, beq_self_eq_true, if_true, except_map_eq_ok] at paired
        obtain ⟨tail, tailPaired, rfl⟩ := paired
        obtain ⟨pairs, R, S, rfl, rfl, rfl, oneEnd, agree⟩ := ih tailPaired
        refine ⟨(x, y) :: pairs, R, S, by simp, by simp, by simp, oneEnd, ?_⟩
        rintro xy (_ | ⟨_, member⟩)
        · exact same
        · exact agree xy member
      · simp [pairUp, same] at paired

variable [Named α]

/-- Chain `bs` entering `as` at position `q` lays the two out with the first `q` items of `as`
alone in front. -/
theorem layout_of_entersAt {as bs : List α} {m : List (Paired α)} {q : Nat}
    (uniqueA : (names as).Nodup) (uniqueB : (names bs).Nodup) (entering : EntersAt as bs m q)
    (fresh : q = 0 ∨ ∀ a ∈ as.head?, Named.name a ∉ names bs) :
    ∃ L : Layout α, L.Aligned ∧ L.chainA = as ∧ L.chainB = bs ∧ L.positions = m := by
  obtain ⟨inside, rest, paired, rfl⟩ := entering
  obtain ⟨pairs, R, S, rfl, split, rfl, oneBack, agree⟩ := pairUp_layout paired
  have chainA : (⟨as.take q, [], pairs, R, S⟩ : Layout α).chainA = as := by
    rw [Layout.chainA, List.append_assoc, ← split, List.take_append_drop]
  refine ⟨⟨as.take q, [], pairs, R, S⟩, ⟨agree, .inr rfl, oneBack, ?_, by simp, ?_, ?_, ?_⟩,
    chainA, by simp [Layout.chainB], by simp [Layout.positions, List.append_assoc]⟩
  · -- a front alone starts the alignment only where `as` starts with a name `bs` lacks
    intro a first
    rcases Nat.eq_zero_or_pos q with rfl | positive
    · simp at first
    · rw [List.head?_take, if_neg (by omega)] at first
      rcases fresh with zero | fresh
      · omega
      · simpa [Layout.chainB] using fresh a first
  · -- without pairs, `as` from `q` on is left alone at the back, so `bs` is empty
    intro noPairs
    right
    subst noPairs
    rcases oneBack with rfl | rfl
    · simp at split
      omega
    · rfl
  · rw [chainA]
    exact uniqueA
  · simpa [Layout.chainB] using uniqueB

/-- Every successful alignment is a layout of its two chains. -/
theorem align_layout {as bs : List α} {m : List (Paired α)} (accepted : align as bs = .ok m) :
    ∃ L : Layout α, L.Aligned ∧ L.chainA = as ∧ L.chainB = bs ∧ L.positions = m := by
  obtain ⟨uniqueA, uniqueB⟩ := align_nodup accepted
  cases as with
  | nil =>
    rw [align_nil_left uniqueB] at accepted
    cases accepted
    refine ⟨⟨[], bs, [], [], []⟩, ⟨by simp, .inl rfl, .inl rfl, by simp, by simp [Layout.chainA],
      fun _ => .inl rfl, by simp [Layout.chainA], by simpa [Layout.chainB] using uniqueB⟩,
      rfl, by simp [Layout.chainB], by simp [Layout.positions]⟩
  | cons a0 as =>
    cases bs with
    | nil =>
      rw [align_nil_right uniqueA] at accepted
      cases accepted
      refine ⟨⟨a0 :: as, [], [], [], []⟩, ⟨by simp, .inr rfl, .inl rfl, by simp [Layout.chainB],
        by simp, fun _ => .inr rfl, by simpa [Layout.chainA] using uniqueA, by simp [Layout.chainB]⟩,
        by simp [Layout.chainA], rfl, by simp [Layout.positions]⟩
    | cons b0 bs =>
      rcases align_cons_ok_cases accepted with
        ⟨q, rest, found, first, pairing, shape⟩ | ⟨p, rest, found, missing, pairing, shape⟩
      · -- `b` enters `a`, whose first name `b` lacks unless both start alike
        refine layout_of_entersAt uniqueA uniqueB ⟨(findName_spec found).1, rest, pairing, shape⟩ ?_
        rcases first with zero | absent
        · exact .inl zero
        · exact .inr fun a head => by
            cases head
            exact (findName_eq_none_iff _ _).1 absent
      · -- `a` enters `b`, whose first name `a` lacks: the same layout seen from `b`
        have entering : EntersAt (b0 :: bs) (a0 :: as) (m.map Paired.swap) p := by
          refine ⟨(findName_spec found).1, rest.map Paired.swap, pairUp_swap pairing, ?_⟩
          simp [shape, Function.comp_def]
        obtain ⟨L, aligned, chainA, chainB, positions⟩ := layout_of_entersAt uniqueB uniqueA entering
          (.inr fun b head => by
            cases head
            exact (findName_eq_none_iff _ _).1 missing)
        refine ⟨L.swap, aligned.swap, by simp [chainB], by simp [chainA], ?_⟩
        rw [Layout.positions_swap L aligned.oneFront aligned.oneBack, positions, List.map_map]
        simp [Function.comp_def]

/-! ## The views of a layout's chains -/

theorem ends_of_same_names {P Q X Y : List α} (same : names X = names Y) (oneFront : P = [] ∨ Q = []) :
    names (P ++ X) <:+ names (Q ++ Y) ∨ names (Q ++ Y) <:+ names (P ++ X) := by
  rcases oneFront with rfl | rfl
  · left
    rw [List.nil_append, same, names_append]
    exact List.suffix_append _ _
  · right
    rw [List.nil_append, ← same, names_append]
    exact List.suffix_append _ _

/-- The check `disjointHead` makes on the ends of two chains passes only where they end alike. -/
theorem ends_of_sameNames {xs ys : List α}
    (matched : (if xs.length ≤ ys.length then sameNames (ys.drop (ys.length - xs.length)) xs
      else sameNames ys (xs.drop (xs.length - ys.length))) = true) :
    names xs <:+ names ys ∨ names ys <:+ names xs := by
  split at matched
  · left
    rw [← sameNames_eq_true.1 matched, names_drop]
    exact List.drop_suffix _ _
  · right
    rw [sameNames_eq_true.1 matched, names_drop]
    exact List.drop_suffix _ _

/-- The head fails on a mismatch where the source holds the anchor but the two chains do not end
alike up to it. -/
theorem disjointHead_of_mismatch {as bs : List α} {anchor : α} {i : Nat}
    (uniqueA : (names as).Nodup) (uniqueB : (names bs).Nodup) (last : bs.getLast? = some anchor)
    (found : findName as (Named.name anchor) = some i)
    (apart : ¬ (names (as.take (i + 1)) <:+ names bs ∨ names bs <:+ names (as.take (i + 1)))) :
    disjointHead (as.map some) (bs.map some) = .error (.headMismatch (Named.name anchor)) := by
  have nonempty : as.isEmpty = false := by
    obtain ⟨inside, -⟩ := findName_spec found
    cases as with
    | nil => simp at inside
    | cons => rfl
  have mismatch : (if (as.take (i + 1)).length ≤ bs.length then
      sameNames (bs.drop (bs.length - (as.take (i + 1)).length)) (as.take (i + 1))
      else sameNames bs ((as.take (i + 1)).drop ((as.take (i + 1)).length - bs.length))) = false :=
    Bool.eq_false_iff.2 fun matched => apart (ends_of_sameNames matched)
  unfold disjointHead
  simp only [consecutive_map_some, except_ok_bind, checkUnique_of_nodup uniqueA,
    checkUnique_of_nodup uniqueB, last, nonempty, Bool.false_eq_true, ↓reduceIte, found, mismatch]
  rfl

theorem disjointTail_map_some (as bs : List α) :
    disjointTail (as.map some) (bs.map some) =
      (disjointHead (as.reverse.map some) (bs.reverse.map some)).map List.reverse := by
  rw [disjointTail, ← List.map_reverse, ← List.map_reverse]

/-- The items `overlapTail` takes before it checks them are the oldest shared ones. -/
theorem takeWhile_contains_names (as bs : List α) :
    as.takeWhile (fun x => (names bs).contains (Named.name x)) = oldestShared as bs := by
  simp [oldestShared]

theorem isEmpty_of_shared {as bs rest : List α} {first : α}
    (shared : oldestShared as bs = first :: rest) : (as.isEmpty || bs.isEmpty) = false := by
  have inA : first ∈ as := (List.takeWhile_prefix _).subset (shared ▸ List.mem_cons_self)
  have inB : Named.name first ∈ names bs := mem_names_of_mem_oldestShared (shared ▸ List.mem_cons_self)
  cases as with
  | nil => simp at inA
  | cons =>
    cases bs with
    | nil => simp at inB
    | cons => rfl

theorem overlapTail_of_shared_nil {as bs : List α} (uniqueA : (names as).Nodup)
    (uniqueB : (names bs).Nodup) (none : oldestShared as bs = []) :
    overlapTail (as.map some) (bs.map some) = .ok [] := by
  unfold overlapTail
  simp only [consecutive_map_some, except_ok_bind]
  split
  · rfl
  · simp only [checkUnique_of_nodup uniqueA, checkUnique_of_nodup uniqueB, except_ok_bind,
      takeWhile_contains_names, none]
    rfl

theorem overlapTail_of_empty {as bs : List α} (uniqueA : (names as).Nodup)
    (uniqueB : (names bs).Nodup) (empty : as = [] ∨ bs = []) :
    overlapTail (as.map some) (bs.map some) = .ok [] := by
  refine overlapTail_of_shared_nil uniqueA uniqueB ?_
  rcases empty with rfl | rfl
  · rfl
  · simp [oldestShared]

/-- Shared oldest items that stand in the target as one block are the overlap. -/
theorem overlapTail_of_block {as bs rest : List α} {first : α} {i : Nat}
    (uniqueA : (names as).Nodup) (uniqueB : (names bs).Nodup)
    (shared : oldestShared as bs = first :: rest) (found : findName bs (Named.name first) = some i)
    (block : names ((bs.drop i).take (rest.length + 1)) = names (first :: rest)) :
    overlapTail (as.map some) (bs.map some) = .ok (first :: rest) := by
  have length : ((bs.drop i).take (rest.length + 1)).length = rest.length + 1 := by
    simpa using congrArg List.length block
  have matched : (((bs.drop i).take (first :: rest).length).length == (first :: rest).length &&
      sameNames ((bs.drop i).take (first :: rest).length) (first :: rest)) = true := by
    simp only [List.length_cons, length, beq_self_eq_true, Bool.true_and]
    exact sameNames_eq_true.2 block
  unfold overlapTail
  simp only [consecutive_map_some, except_ok_bind, Bool.false_eq_true, ↓reduceIte,
    checkUnique_of_nodup uniqueA, checkUnique_of_nodup uniqueB, takeWhile_contains_names, shared,
    found, matched, isEmpty_of_shared shared]
  rfl

/-- Shared oldest items that run past the end of the target are refused. -/
theorem overlapTail_of_short {as bs rest : List α} {first : α} {i : Nat}
    (uniqueA : (names as).Nodup) (uniqueB : (names bs).Nodup)
    (shared : oldestShared as bs = first :: rest) (found : findName bs (Named.name first) = some i)
    (short : bs.length - i < rest.length + 1) :
    overlapTail (as.map some) (bs.map some) = .error (.overlapMismatch (Named.name first)) := by
  have mismatch : (((bs.drop i).take (first :: rest).length).length == (first :: rest).length &&
      sameNames ((bs.drop i).take (first :: rest).length) (first :: rest)) = false := by
    simp only [List.length_cons, List.length_take, List.length_drop, Bool.and_eq_false_iff]
    left
    simp only [beq_eq_false_iff_ne]
    omega
  unfold overlapTail
  simp only [consecutive_map_some, except_ok_bind, Bool.false_eq_true, ↓reduceIte,
    checkUnique_of_nodup uniqueA, checkUnique_of_nodup uniqueB, takeWhile_contains_names, shared,
    found, mismatch, isEmpty_of_shared shared]
  rfl

theorem disjointHead_nil_right {as : List α} (uniqueA : (names as).Nodup) :
    disjointHead (as.map some) (([] : List α).map some) = .ok as := by
  unfold disjointHead
  simp only [consecutive_map_some, except_ok_bind, checkUnique_of_nodup uniqueA,
    checkUnique_of_nodup (names_nil (α := α) ▸ List.nodup_nil)]
  rfl

theorem disjointHead_pad (s r t u : Nat) (as bs : List α) :
    disjointHead (pad s as r) (pad t bs u) = disjointHead (as.map some) (bs.map some) := by
  unfold disjointHead
  rw [consecutive_pad, consecutive_pad, consecutive_map_some, consecutive_map_some]

theorem disjointTail_pad (s r t u : Nat) (as bs : List α) :
    disjointTail (pad s as r) (pad t bs u) = disjointTail (as.map some) (bs.map some) := by
  rw [disjointTail_map_some, disjointTail, reverse_pad, reverse_pad, disjointHead_pad]

theorem overlapTail_pad (s r t u : Nat) (as bs : List α) :
    overlapTail (pad s as r) (pad t bs u) = overlapTail (as.map some) (bs.map some) := by
  unfold overlapTail
  rw [consecutive_pad, consecutive_pad, consecutive_map_some, consecutive_map_some]

namespace Layout

variable {L : Layout α}

/-- With nothing of side `b` after the last pair, the head of side `a` is what follows that pair. -/
theorem disjointHead_of_lastPair (agree : ∀ xy ∈ L.pairs, Named.name xy.1 = Named.name xy.2)
    (oneFront : L.frontA = [] ∨ L.frontB = []) (uniqueA : (names L.chainA).Nodup)
    (uniqueB : (names L.chainB).Nodup) (noBackB : L.backB = []) (paired : L.pairs ≠ []) :
    disjointHead (L.chainA.map some) (L.chainB.map some) = .ok L.backA := by
  have same := names_pairs agree
  obtain ⟨frontA, frontB, pairs, backA, backB⟩ := L
  dsimp only at agree oneFront noBackB paired same
  subst noBackB
  obtain ⟨init, ⟨x, y⟩, rfl⟩ := (List.eq_nil_or_concat pairs).resolve_left paired
  have named : Named.name x = Named.name y := agree (x, y) (by simp)
  have parts : Layout.chainA ⟨frontA, frontB, init.concat (x, y), backA, []⟩ =
      (frontA ++ init.map Prod.fst) ++ x :: backA := by
    simp [chainA]
  refine disjointHead_of_parts uniqueA uniqueB ?_ parts named ?_
  · simp [chainB]
  · -- the two sides end alike at the last pair, one of them with nothing in front
    have ends := ends_of_same_names same oneFront
    simpa [chainB] using ends

/-- Where side `b` runs on past the pairs, side `a` can hold the newest name of side `b` only in
its front, and up to there it does not end like side `b`. -/
theorem apart_of_backB (aligned : L.Aligned) {z : α} (last : L.backB.getLast? = some z) {i : Nat}
    (found : findName L.chainA (Named.name z) = some i) :
    ¬ (names (L.chainA.take (i + 1)) <:+ names L.chainB ∨
      names L.chainB <:+ names (L.chainA.take (i + 1))) := by
  have backB : L.backB ≠ [] := by
    intro empty
    simp [empty] at last
  have noBackA : L.backA = [] := aligned.oneBack.resolve_right backB
  obtain ⟨inside, named⟩ := findName_spec found
  -- the newest name of side `b` is not paired, since side `b` holds it past its pairs
  have unpaired : Named.name z ∉ names (L.pairs.map Prod.fst) := by
    have unique := aligned.uniqueB
    rw [chainB, names_append, names_append] at unique
    rw [names_pairs aligned.agree]
    exact fun paired => List.disjoint_of_nodup_append unique (List.mem_append_right _ paired)
      (List.mem_map_of_mem (List.mem_of_getLast? last))
  have inFront : i < L.frontA.length := by
    by_contra later
    apply unpaired
    have inPairs : L.chainA[i] ∈ L.pairs.map Prod.fst := by
      simp only [chainA, noBackA, List.append_nil] at inside ⊢
      rw [List.getElem_append_right (by omega)]
      exact List.getElem_mem _
    rw [← named]
    exact List.mem_map_of_mem inPairs
  obtain ⟨a0, restA, frontEq⟩ :=
    List.exists_cons_of_ne_nil (List.ne_nil_of_length_pos (show 0 < L.frontA.length by omega))
  have fresh : Named.name a0 ∉ names L.chainB := aligned.freshA a0 (by simp [frontEq])
  have taken : L.chainA.take (i + 1) = L.frontA.take (i + 1) := by
    simp only [chainA, List.append_assoc]
    exact List.take_append_of_le_length (by omega)
  rintro (ending | ended)
  · -- side `a` up to there starts with a name side `b` lacks
    apply fresh
    apply ending.subset
    simp [taken, frontEq, names]
  · -- side `b` would lie within side `a`'s front, its pairs included
    have paired : L.pairs ≠ [] := fun noPairs => by
      rcases aligned.meet noPairs with emptyA | emptyB
      · simp [emptyA] at inside
      · exact backB (List.append_eq_nil_iff.1 emptyB).2
    obtain ⟨⟨x, y⟩, restP, pairsEq⟩ := List.exists_cons_of_ne_nil paired
    have inB : Named.name y ∈ names L.chainB := by simp [chainB, pairsEq, names]
    have inFrontNames : Named.name x ∈ names L.frontA := by
      have early := ended.subset inB
      rw [taken, names_take] at early
      rw [aligned.agree (x, y) (by simp [pairsEq])]
      exact List.mem_of_mem_take early
    have unique := aligned.uniqueA
    rw [chainA, names_append, names_append] at unique
    exact List.disjoint_of_nodup_append (List.nodup_append.1 unique).1 inFrontNames
      (by simp [pairsEq, names])

/-- Where side `b` runs on past the pairs, the head of side `a` fails on the newest item of side
`b`: a mismatch if side `a` holds its name, a missing anchor if not. -/
theorem disjointHead_of_backB (aligned : L.Aligned) {z : α} (last : L.backB.getLast? = some z)
    (nonempty : L.chainA ≠ []) :
    disjointHead (L.chainA.map some) (L.chainB.map some) =
      .error (if Named.name z ∈ names L.chainA then .headMismatch (Named.name z)
        else .missingAnchor (Named.name z)) := by
  have lastB : L.chainB.getLast? = some z := by simp [chainB, last]
  split
  · next held =>
    obtain ⟨i, found⟩ : ∃ i, findName L.chainA (Named.name z) = some i :=
      Option.ne_none_iff_exists'.1 fun absent => (findName_eq_none_iff _ _).1 absent held
    exact disjointHead_of_mismatch aligned.uniqueA aligned.uniqueB lastB found
      (apart_of_backB aligned last found)
  · next absent => exact disjointHead_of_missing aligned.uniqueA aligned.uniqueB nonempty lastB absent

/-- With nothing of side `b` before the first pair, the tail of side `a` is its front. -/
theorem disjointTail_of_firstPair (aligned : L.Aligned) (noFrontB : L.frontB = [])
    (paired : L.pairs ≠ []) :
    disjointTail (L.chainA.map some) (L.chainB.map some) = .ok L.frontA := by
  -- read backwards, the first pair is the last one
  have head := disjointHead_of_lastPair (L := L.reverse)
    (fun xy member => aligned.agree xy (List.mem_reverse.1 member))
    (by simpa [reverse] using aligned.oneBack) (by simpa using aligned.uniqueA)
    (by simpa using aligned.uniqueB) (by simp [reverse, noFrontB]) (by simpa [reverse] using paired)
  rw [disjointTail_map_some, ← chainA_reverse, ← chainB_reverse, head]
  simp [reverse, Except.map]

/-- Where side `b` starts alone, the tail of side `a` fails on its oldest item, whose name side `a`
lacks. -/
theorem disjointTail_of_frontB (aligned : L.Aligned) {b : α} (first : L.frontB.head? = some b)
    (nonempty : L.chainA ≠ []) :
    disjointTail (L.chainA.map some) (L.chainB.map some) = .error (.missingAnchor (Named.name b)) := by
  have lastB : L.chainB.reverse.getLast? = some b := by simp [chainB, first]
  rw [disjointTail_map_some, disjointHead_of_missing (by simpa using aligned.uniqueA)
    (by simpa using aligned.uniqueB) (by simpa using nonempty) lastB
    (by simpa using aligned.freshB b first)]
  rfl

/-- Where side `a` starts alone, no item of it is shared. -/
theorem overlapTail_of_frontA (aligned : L.Aligned) (front : L.frontA ≠ []) :
    overlapTail (L.chainA.map some) (L.chainB.map some) = .ok [] := by
  obtain ⟨a0, restA, frontEq⟩ := List.exists_cons_of_ne_nil front
  have fresh := aligned.freshA a0 (by simp [frontEq])
  refine overlapTail_of_shared_nil aligned.uniqueA aligned.uniqueB ?_
  simp [oldestShared, chainA, frontEq, fresh]

/-- Where both sides start together, the shared oldest items of side `a` are its paired items and
then those of its back that side `b` holds in front of its own. -/
theorem oldestShared_of_noFrontA (aligned : L.Aligned) (noFrontA : L.frontA = []) :
    oldestShared L.chainA L.chainB =
      L.pairs.map Prod.fst ++ L.backA.takeWhile fun x => Named.name x ∈ names L.chainB := by
  have held : ∀ x ∈ L.pairs.map Prod.fst, decide (Named.name x ∈ names L.chainB) = true := by
    intro x paired
    have inPairs : Named.name x ∈ names (L.pairs.map Prod.snd) := by
      rw [← names_pairs aligned.agree]
      exact List.mem_map_of_mem paired
    simp only [decide_eq_true_eq, chainB, names_append]
    exact List.mem_append_left _ (List.mem_append_right _ inPairs)
  rw [oldestShared, chainA, noFrontA, List.nil_append, List.takeWhile_append_of_pos held]

/-- Side `b` holds the first pair's name right after its front. -/
theorem findName_firstPair (aligned : L.Aligned) {x y : α} {rest : List (α × α)}
    (pairsEq : L.pairs = (x, y) :: rest) : findName L.chainB (Named.name x) = some L.frontB.length := by
  have found := findName_getElem aligned.uniqueB L.frontB.length (by simp [chainB, pairsEq])
  simpa [chainB, pairsEq, aligned.agree (x, y) (by simp [pairsEq])] using found

/-- Where both sides start together and the item after the pairs is not on side `b`, the overlap
of side `a` is its paired items. -/
theorem overlapTail_of_pairs (aligned : L.Aligned) (noFrontA : L.frontA = []) (paired : L.pairs ≠ [])
    (next : ∀ x ∈ L.backA.head?, Named.name x ∉ names L.chainB) :
    overlapTail (L.chainA.map some) (L.chainB.map some) = .ok (L.pairs.map Prod.fst) := by
  have stops : L.backA.takeWhile (fun x => Named.name x ∈ names L.chainB) = [] := by
    cases backEq : L.backA with
    | nil => rfl
    | cons x rest => simp [next x (by simp [backEq])]
  have shared := oldestShared_of_noFrontA aligned noFrontA
  rw [stops, List.append_nil] at shared
  obtain ⟨⟨x, y⟩, restP, pairsEq⟩ := List.exists_cons_of_ne_nil paired
  rw [pairsEq, List.map_cons] at shared ⊢
  refine overlapTail_of_block aligned.uniqueA aligned.uniqueB shared (findName_firstPair aligned pairsEq) ?_
  -- from there side `b` holds the pairs' other items, of the same names
  have block : (L.chainB.drop L.frontB.length).take (restP.length + 1) = L.pairs.map Prod.snd := by
    simp [chainB, pairsEq]
  rw [List.length_map, block, ← names_pairs aligned.agree, pairsEq, List.map_cons]

/-- Where both sides start together and side `b` holds the item of side `a` after the pairs, in
front of its own pairs, the overlap is refused at the oldest item of side `a`. -/
theorem overlapTail_of_crossing (aligned : L.Aligned) (noFrontA : L.frontA = []) {x : α}
    (next : L.backA.head? = some x) (held : Named.name x ∈ names L.chainB) {a0 : α}
    (first : L.chainA.head? = some a0) :
    overlapTail (L.chainA.map some) (L.chainB.map some) =
      .error (.overlapMismatch (Named.name a0)) := by
  obtain ⟨restA, backEq⟩ : ∃ restA, L.backA = x :: restA := by
    cases backEq : L.backA with
    | nil => simp [backEq] at next
    | cons x' restA =>
      simp only [backEq, List.head?_cons, Option.some.injEq] at next
      exact ⟨restA, by rw [next]⟩
  have noBackB : L.backB = [] := aligned.oneBack.resolve_left (by simp [backEq])
  have paired : L.pairs ≠ [] := fun noPairs => by
    rcases aligned.meet noPairs with emptyA | emptyB
    · simp [chainA, backEq] at emptyA
    · simp [emptyB, names] at held
  obtain ⟨⟨x0, y0⟩, restP, pairsEq⟩ := List.exists_cons_of_ne_nil paired
  obtain rfl : a0 = x0 := by
    simp [chainA, noFrontA, pairsEq] at first
    exact first.symm
  -- the shared items run on past the pairs into side `a`'s back
  have shared := oldestShared_of_noFrontA aligned noFrontA
  rw [pairsEq, backEq, List.takeWhile_cons_of_pos (by simpa using held), List.map_cons,
    List.cons_append] at shared
  refine overlapTail_of_short aligned.uniqueA aligned.uniqueB shared (findName_firstPair aligned pairsEq) ?_
  simp [chainB, pairsEq, noBackB]


theorem map_b?_positions (aligned : L.Aligned) :
    L.positions.map Paired.b? = pad L.frontA.length L.chainB L.backA.length := by
  have swapped := map_a?_positions (L := L.swap) aligned.swap.oneFront aligned.swap.oneBack
  rw [positions_swap L aligned.oneFront aligned.oneBack, List.map_map, chainA_swap] at swapped
  simpa [swap, Function.comp_def] using swapped

/-- The last position with side `b`, unpaired, holds the newest item of side `b`'s back. -/
theorem getLast?_backB_of_alone (aligned : L.Aligned) (nonempty : L.chainA ≠ []) {p : Paired α}
    (last : p ∈ (L.positions.filter fun p => p.b?.isSome).getLast?) (alone : p.a? = none) {y : α}
    (present : y ∈ p.b?) : L.backB.getLast? = some y := by
  rw [filter_b?_positions, List.getLast?_append, List.getLast?_append] at last
  rcases List.eq_nil_or_concat L.backB with noBackB | ⟨init, z, backEq⟩
  · rcases List.eq_nil_or_concat L.pairs with noPairs | ⟨initP, ⟨x', y'⟩, pairsEq⟩
    · -- without pairs side `b` is empty, as side `a` is not
      have emptyB : L.chainB = [] := (aligned.meet noPairs).resolve_left nonempty
      have noFrontB : L.frontB = [] := by simp_all [chainB]
      simp [noBackB, noPairs, noFrontB] at last
    · simp [noBackB, pairsEq] at last
      simp [← last] at alone
  · simp [backEq] at last
    simp [← last] at present
    simp [backEq, present]

/-- The first position with side `b`, unpaired, holds the oldest item of side `b`'s front. -/
theorem head?_frontB_of_alone (aligned : L.Aligned) (nonempty : L.chainA ≠ []) {p : Paired α}
    (first : p ∈ (L.positions.filter fun p => p.b?.isSome).head?) (alone : p.a? = none) {y : α}
    (present : y ∈ p.b?) : L.frontB.head? = some y := by
  rw [filter_b?_positions] at first
  cases frontEq : L.frontB with
  | cons b restB =>
    simp [frontEq] at first
    simp [← first] at present
    simp [present]
  | nil =>
    cases pairsEq : L.pairs with
    | cons xy restP =>
      simp [frontEq, pairsEq] at first
      simp [← first] at alone
    | nil =>
      -- without pairs side `b` is empty, as side `a` is not
      have emptyB : L.chainB = [] := (aligned.meet pairsEq).resolve_left nonempty
      have noBackB : L.backB = [] := by simp_all [chainB]
      simp [frontEq, pairsEq, noBackB] at first

end Layout

/-! ## The views by position -/

theorem rtakeWhile_map {β γ : Type} (f : β → γ) (p : γ → Bool) (l : List β) :
    (l.map f).rtakeWhile p = (l.rtakeWhile (p ∘ f)).map f := by
  rw [List.rtakeWhile, List.rtakeWhile, ← List.map_reverse, List.takeWhile_map, List.map_reverse]

/-- What the views of side `src` against side `tgt` read off the positions `m`, for the chains
`as` on side `src` and `bs` on side `tgt`. The items of `src` stand in one block. The head is the
items of `src` after the last position of `tgt` when that position is paired or a chain is empty,
and otherwise fails at the newest item of `tgt`: a mismatch where `as` holds its name, a missing
anchor where not. The tail is the items of `src` before the first position of `tgt` when that
position is paired or a chain is empty, and otherwise fails at the oldest item of `tgt`, a missing
anchor. Nothing overlaps when a chain is empty or `src` starts before `tgt`; otherwise the overlap
is the items of `src` at the paired positions, unless the item of `src` right after them has a name
`bs` holds, and then it fails at the oldest item of `as`. -/
structure ViewsByPosition (src tgt : Paired α → Option α) (as bs : List α)
    (m : List (Paired α)) : Prop where
  block : ∃ s r, m.map src = pad s as r
  head_ok : (as = [] ∨ bs = [] ∨ ∃ p ∈ (m.filter fun p => (tgt p).isSome).getLast?, p.isBoth) →
    disjointHead (m.map src) (m.map tgt) =
      .ok ((m.rtakeWhile fun p => (tgt p).isNone).filterMap src)
  head_error : as ≠ [] → ∀ p ∈ (m.filter fun p => (tgt p).isSome).getLast?, src p = none →
    ∀ y ∈ tgt p, disjointHead (m.map src) (m.map tgt) =
      .error (if Named.name y ∈ names as then .headMismatch (Named.name y)
        else .missingAnchor (Named.name y))
  tail_ok : (as = [] ∨ bs = [] ∨ ∃ p ∈ (m.filter fun p => (tgt p).isSome).head?, p.isBoth) →
    disjointTail (m.map src) (m.map tgt) =
      .ok ((m.takeWhile fun p => (tgt p).isNone).filterMap src)
  tail_error : as ≠ [] → ∀ p ∈ (m.filter fun p => (tgt p).isSome).head?, src p = none →
    ∀ y ∈ tgt p, disjointTail (m.map src) (m.map tgt) = .error (.missingAnchor (Named.name y))
  overlap_none : (as = [] ∨ bs = [] ∨
      (m.takeWhile fun p => (src p).isNone).length < (m.takeWhile fun p => (tgt p).isNone).length) →
    overlapTail (m.map src) (m.map tgt) = .ok []
  overlap_ok : (m.takeWhile fun p => (tgt p).isNone).length ≤
      (m.takeWhile fun p => (src p).isNone).length →
    (∀ p ∈ (m.rtakeWhile fun p => !p.isBoth).head?, ∀ x ∈ src p, Named.name x ∉ names bs) →
    overlapTail (m.map src) (m.map tgt) = .ok ((m.filter Paired.isBoth).filterMap src)
  overlap_error : (m.takeWhile fun p => (tgt p).isNone).length ≤
      (m.takeWhile fun p => (src p).isNone).length →
    ∀ p ∈ (m.rtakeWhile fun p => !p.isBoth).head?, ∀ x ∈ src p, Named.name x ∈ names bs →
    ∀ first ∈ as.head?,
      overlapTail (m.map src) (m.map tgt) = .error (.overlapMismatch (Named.name first))

namespace Layout

variable {L : Layout α}

/-- Side `a` of an aligned layout, read by position. -/
theorem Aligned.views (aligned : L.Aligned) :
    ViewsByPosition Paired.a? Paired.b? L.chainA L.chainB L.positions := by
  have sideA := map_a?_positions aligned.oneFront aligned.oneBack
  have sideB := map_b?_positions aligned
  -- each view of the two sides is the view of the two chains
  have head : disjointHead (L.positions.map Paired.a?) (L.positions.map Paired.b?) =
      disjointHead (L.chainA.map some) (L.chainB.map some) := by
    rw [sideA, sideB, disjointHead_pad]
  have tail : disjointTail (L.positions.map Paired.a?) (L.positions.map Paired.b?) =
      disjointTail (L.chainA.map some) (L.chainB.map some) := by
    rw [sideA, sideB, disjointTail_pad]
  have overlap : overlapTail (L.positions.map Paired.a?) (L.positions.map Paired.b?) =
      overlapTail (L.chainA.map some) (L.chainB.map some) := by
    rw [sideA, sideB, overlapTail_pad]
  have uniqueA := aligned.uniqueA
  have uniqueB := aligned.uniqueB
  refine ⟨⟨_, _, sideA⟩, ?headOk, ?headError, ?tailOk, ?tailError, ?none, ?ok, ?error⟩
  case headOk =>
    rw [head]
    rintro (emptyA | emptyB | ⟨p, last, both⟩)
    · rw [filterMap_a?_eq_nil_of_isSuffix emptyA (List.rtakeWhile_suffix _ _), emptyA]
      exact disjointHead_nil_left uniqueB
    · rw [List.rtakeWhile_eq_self_iff.2 (b?_isNone_of_emptyB emptyB), filterMap_a?_positions, emptyB]
      exact disjointHead_nil_right uniqueA
    · -- the last position of side `b` is a pair: what follows it is side `a`'s back
      obtain ⟨noBackB, paired⟩ := lastPair_of_isBoth last both
      rw [rtakeWhile_b?_positions noBackB paired,
        disjointHead_of_lastPair aligned.agree aligned.oneFront uniqueA uniqueB noBackB paired]
      simp [List.filterMap_map, Function.comp_def]
  case headError =>
    intro nonempty p last alone y present
    rw [head]
    exact disjointHead_of_backB aligned (getLast?_backB_of_alone aligned nonempty last alone present)
      nonempty
  case tailOk =>
    rw [tail]
    rintro (emptyA | emptyB | ⟨p, first, both⟩)
    · rw [filterMap_a?_eq_nil_of_isPrefix emptyA (List.takeWhile_prefix _), emptyA,
        disjointTail_map_some, List.reverse_nil, disjointHead_nil_left (by simpa using uniqueB)]
      rfl
    · rw [List.takeWhile_eq_self_iff.2 (b?_isNone_of_emptyB emptyB), filterMap_a?_positions, emptyB,
        disjointTail_map_some, List.reverse_nil, disjointHead_nil_right (by simpa using uniqueA)]
      simp [Except.map]
    · -- the first position of side `b` is a pair: what precedes it is side `a`'s front
      obtain ⟨noFrontB, paired⟩ := firstPair_of_isBoth first both
      rw [takeWhile_b?_positions noFrontB paired, disjointTail_of_firstPair aligned noFrontB paired]
      simp [List.filterMap_map, Function.comp_def]
  case tailError =>
    intro nonempty p first alone y present
    rw [tail]
    exact disjointTail_of_frontB aligned (head?_frontB_of_alone aligned nonempty first alone present)
      nonempty
  case none =>
    rw [overlap]
    rintro (emptyA | emptyB | earlier)
    · exact overlapTail_of_empty uniqueA uniqueB (.inl emptyA)
    · exact overlapTail_of_empty uniqueA uniqueB (.inr emptyB)
    · rcases eq_or_ne L.frontA [] with noFrontA | front
      · rcases eq_or_ne L.pairs [] with noPairs | paired
        · exact overlapTail_of_empty uniqueA uniqueB (aligned.meet noPairs)
        · -- side `b` is there from the start, so side `a` cannot start earlier
          rw [takeWhile_b?_positions_of_noFrontA noFrontA paired] at earlier
          simp at earlier
      · exact overlapTail_of_frontA aligned front
  case ok =>
    intro later next
    have bothItems : (L.pairs.map fun xy => Paired.both xy.1 xy.2).filterMap Paired.a? =
        L.pairs.map Prod.fst := by
      simp [List.filterMap_map, Function.comp_def]
    rw [overlap, filter_isBoth_positions, bothItems]
    rcases eq_or_ne L.pairs [] with noPairs | paired
    · rw [noPairs, List.map_nil]
      exact overlapTail_of_empty uniqueA uniqueB (aligned.meet noPairs)
    · refine overlapTail_of_pairs aligned (noFrontA_of_le later) paired fun x first => ?_
      exact next (.onlyA x) (by simpa [rtakeWhile_isBoth_positions paired] using first) x rfl
  case error =>
    intro later p next x present held first firstIn
    rw [overlap]
    have member : p ∈ L.positions := (List.rtakeWhile_suffix _ _).subset (List.mem_of_mem_head? next)
    have inA := mem_chainA_of_positions member present
    -- side `b` holds a name of side `a`, so the two meet in pairs
    have paired : L.pairs ≠ [] := fun noPairs => by
      rcases aligned.meet noPairs with emptyA | emptyB
      · simp [emptyA] at inA
      · simp [emptyB, names] at held
    exact overlapTail_of_crossing aligned (noFrontA_of_le later)
      (head?_backA_of_next paired next present) held firstIn

end Layout

/-- Side `b` read by position is side `a` of the swapped positions. -/
theorem ViewsByPosition.of_swap {as bs : List α} {m : List (Paired α)}
    (views : ViewsByPosition Paired.a? Paired.b? as bs (m.map Paired.swap)) :
    ViewsByPosition Paired.b? Paired.a? as bs m := by
  have sideA : (m.map Paired.swap).map Paired.a? = m.map Paired.b? := by
    simp [Function.comp_def]
  have sideB : (m.map Paired.swap).map Paired.b? = m.map Paired.a? := by
    simp [Function.comp_def]
  obtain ⟨block, headOk, headError, tailOk, tailError, none, ok, error⟩ := views
  simp only [sideA, sideB, List.filter_map, List.getLast?_map, List.head?_map, rtakeWhile_map,
    List.takeWhile_map, List.filterMap_map, Function.comp_def, Paired.a?_swap, Paired.b?_swap,
    Paired.isBoth_swap, Option.mem_map, forall_exists_index, and_imp, forall_apply_eq_imp_iff₂,
    exists_exists_and_eq_and, List.length_map] at block headOk headError tailOk tailError none ok error
  exact ⟨block, headOk, headError, tailOk, tailError, none, ok, error⟩

/-- A successful alignment, read position by position from either side: the items of each side
stand in one block, and the head, tail and overlap of each side against the other are as
`ViewsByPosition` says. -/
theorem align_views_by_position {as bs : List α} {m : List (Paired α)}
    (accepted : align as bs = .ok m) :
    ViewsByPosition Paired.a? Paired.b? as bs m ∧ ViewsByPosition Paired.b? Paired.a? bs as m := by
  obtain ⟨L, aligned, rfl, rfl, rfl⟩ := align_layout accepted
  refine ⟨aligned.views, ?_⟩
  have swapped := aligned.swap.views
  rw [Layout.positions_swap L aligned.oneFront aligned.oneBack, Layout.chainA_swap,
    Layout.chainB_swap] at swapped
  exact swapped.of_swap

/-- Crossed chains: `z` stands on side `a` before the pair `y` and on side `b` after it. -/
theorem views_of_crossed_chains :
    align ["a", "z", "y"] ["y", "z"] =
        .ok [.onlyA "a", .onlyA "z", .both "y" "y", .onlyB "z"] ∧
      ViewsByPosition Paired.a? Paired.b? ["a", "z", "y"] ["y", "z"]
        [.onlyA "a", .onlyA "z", .both "y" "y", .onlyB "z"] ∧
      ViewsByPosition Paired.b? Paired.a? ["y", "z"] ["a", "z", "y"]
        [.onlyA "a", .onlyA "z", .both "y" "y", .onlyB "z"] := by
  have accepted : align ["a", "z", "y"] ["y", "z"] =
      .ok [.onlyA "a", .onlyA "z", .both "y" "y", .onlyB "z"] := by rfl
  exact ⟨accepted, align_views_by_position accepted⟩

end Chain

end ZfsReplication
