import Mathlib
import ZfsReplication.Proofs.Chain.Views

/-!
# The head of a chain against another

On a successful alignment `disjointHead` reads the two chains back from the alignment's sides, so
the head is a function of the chains alone (`disjointHead_sides`). When the target's newest name
occurs in the source and the two end alike up to it, the head is what follows it in the source
(`disjointHead_of_parts`, the converse of `disjointHead_eq_ok`); when the source lacks that name,
the head fails on the missing anchor (`disjointHead_of_missing`).

Two consequences for successive runs:

* a source chain that begins inside the target has as head its part past the target's newest item,
  or lacks that item as anchor (`disjointHead_of_beginsAt`); dropping some of its oldest items that
  the target holds changes neither the head nor the alignment (`disjointHead_drop`, `align_drop`),
  and in particular dropping fewer than the oldest items the two share, which the head lies past
  (`disjointHead_drop_shared`, `align_drop_shared`, `disjointHead_past_shared`);
* two chains of which one ends the other are aligned, and the source has an empty head
  (`align_of_ends`, `disjointHead_of_ends`); so once the target receives the head in place of its
  items of the same names, nothing is newer in the source (`align_after_receiving`).
-/

set_option autoImplicit false

namespace ZfsReplication.Chain

variable {α : Type} [Named α]

omit [Named α] in
theorem consecutive_map_some (xs : List α) : consecutive (xs.map some) = .ok xs := by
  simpa [pad] using consecutive_pad 0 xs 0

/-- On a successful alignment, the head is computed from the two chains. -/
theorem disjointHead_sides {as bs : List α} {m : List (Paired α)} (accepted : align as bs = .ok m) :
    disjointHead (m.map Paired.a?) (m.map Paired.b?) = disjointHead (as.map some) (bs.map some) := by
  obtain ⟨sideA, sideB⟩ := align_sides accepted
  unfold disjointHead
  rw [(consecutive_of_sides sideA).1, (consecutive_of_sides sideB).1, consecutive_map_some,
    consecutive_map_some]

/-- Two chains that end alike pass the check `disjointHead` makes on their ends. -/
theorem sameNames_of_ends {xs ys : List α} (ends : names xs <:+ names ys ∨ names ys <:+ names xs) :
    (if xs.length ≤ ys.length then sameNames (ys.drop (ys.length - xs.length)) xs
      else sameNames ys (xs.drop (xs.length - ys.length))) = true := by
  split
  · next shorter =>
    rw [sameNames_eq_true, names_drop]
    rcases ends with suffix | suffix
    · simpa using (List.suffix_iff_eq_drop.1 suffix).symm
    · have same := suffix.eq_of_length (by simpa using shorter.antisymm' (by simpa using suffix.length_le))
      have equal : ys.length = xs.length := by simpa using congrArg List.length same
      rw [equal, Nat.sub_self, List.drop_zero, same]
  · next longer =>
    rw [sameNames_eq_true, names_drop]
    rcases ends with suffix | suffix
    · have := suffix.length_le
      simp at this
      omega
    · simpa using List.suffix_iff_eq_drop.1 suffix

/-- The head is what follows, in the source, the item named like the target's newest, when the
chains end alike up to there: the converse of `disjointHead_eq_ok`. -/
theorem disjointHead_of_parts {as bs pre head : List α} {x anchor : α}
    (uniqueA : (names as).Nodup) (uniqueB : (names bs).Nodup) (last : bs.getLast? = some anchor)
    (parts : as = pre ++ x :: head) (named : Named.name x = Named.name anchor)
    (ends : names (pre ++ [x]) <:+ names bs ∨ names bs <:+ names (pre ++ [x])) :
    disjointHead (as.map some) (bs.map some) = .ok head := by
  have found : findName as (Named.name anchor) = some pre.length := by
    have found := findName_getElem uniqueA pre.length (by simp [parts])
    simpa [parts, named] using found
  have upTo : as.take (pre.length + 1) = pre ++ [x] := by simp [parts, List.take_append]
  have rest : as.drop (pre.length + 1) = head := by simp [parts]
  have nonempty : as.isEmpty = false := by simp [parts]
  unfold disjointHead
  simp only [consecutive_map_some, except_ok_bind, checkUnique_of_nodup uniqueA,
    checkUnique_of_nodup uniqueB, last, nonempty, Bool.false_eq_true, ↓reduceIte, found, upTo,
    rest, sameNames_of_ends ends]
  rfl

/-- The head fails on an anchor that the source does not hold. -/
theorem disjointHead_of_missing {as bs : List α} {anchor : α} (uniqueA : (names as).Nodup)
    (uniqueB : (names bs).Nodup) (nonempty : as ≠ []) (last : bs.getLast? = some anchor)
    (absent : Named.name anchor ∉ names as) :
    disjointHead (as.map some) (bs.map some) = .error (.missingAnchor (Named.name anchor)) := by
  have notEmpty : as.isEmpty = false := by simpa using nonempty
  unfold disjointHead
  simp only [consecutive_map_some, except_ok_bind, checkUnique_of_nodup uniqueA,
    checkUnique_of_nodup uniqueB, last, notEmpty, Bool.false_eq_true, ↓reduceIte,
    (findName_eq_none_iff as _).2 absent]
  rfl

theorem disjointHead_suffix {as bs head : List α}
    (result : disjointHead (as.map some) (bs.map some) = .ok head) : head <:+ as := by
  obtain ⟨-, -, shape⟩ :=
    disjointHead_eq_ok (consecutive_map_some as) (consecutive_map_some bs) result
  rcases shape with ⟨-, rfl⟩ | ⟨-, rfl⟩ | ⟨-, pre, x, -, parts, -⟩
  · exact List.suffix_refl _
  · exact List.nil_suffix
  · exact ⟨pre ++ [x], by simp [parts]⟩

/-- A source chain that begins at position `p` of the target: its head is its part past the
target's newest item when it reaches that far, and otherwise the target's newest item is an anchor
it lacks. -/
theorem disjointHead_of_beginsAt {as bs : List α} {p : Nat} {anchor : α}
    (uniqueA : (names as).Nodup) (uniqueB : (names bs).Nodup) (nonempty : as ≠ [])
    (begins : BeginsAt bs as p) (last : bs.getLast? = some anchor) :
    disjointHead (as.map some) (bs.map some) =
      if bs.length - p ≤ as.length then .ok (as.drop (bs.length - p))
      else .error (.missingAnchor (Named.name anchor)) := by
  obtain ⟨inside, comparable⟩ := begins
  -- the target's end from `p` on, whose newest name is the anchor's
  have newest : (names (bs.drop p)).getLast? = some (Named.name anchor) := by
    rw [names_drop, List.getLast?_drop, if_neg (by simpa using Nat.not_le.2 inside), names,
      List.getLast?_map, last]
    rfl
  split
  · next reaches =>
    -- the source holds the target's end, the anchor last
    have alike : names (as.take (bs.length - p)) = names (bs.drop p) := by
      rw [names_take]
      rcases comparable with starts | starts
      · have taken := List.prefix_iff_eq_take.1 starts
        rw [length_names, List.length_drop] at taken
        exact taken.symm
      · have shorter := starts.length_le
        have same := starts.eq_of_length (by
          rw [length_names, length_names, List.length_drop] at shorter ⊢
          omega)
        rw [same, List.take_of_length_le (by simp)]
    have bound : bs.length - p - 1 < as.length := by omega
    have upTo : as.take (bs.length - p) = as.take (bs.length - p - 1) ++ [as[bs.length - p - 1]] := by
      rw [← List.take_succ_eq_append_getElem bound]
      congr 1
      omega
    have parts : as = as.take (bs.length - p - 1) ++ as[bs.length - p - 1] :: as.drop (bs.length - p) := by
      rw [← List.singleton_append, ← List.append_assoc, ← upTo, List.take_append_drop]
    have named : Named.name as[bs.length - p - 1] = Named.name anchor := by
      have lastOf : (names (as.take (bs.length - p))).getLast? =
          some (Named.name as[bs.length - p - 1]) := by
        rw [upTo, names_append, List.getLast?_append_of_ne_nil _ (by simp [names])]
        rfl
      rw [alike, newest] at lastOf
      exact (Option.some.inj lastOf).symm
    refine disjointHead_of_parts uniqueA uniqueB last parts named (.inl ?_)
    rw [← upTo, alike, names_drop]
    exact List.drop_suffix _ _
  · next short =>
    -- the source stops before the target's end, so it lacks the anchor
    have starts : names as <+: names (bs.drop p) := by
      rcases comparable with starts | starts
      · have := starts.length_le
        simp at this
        omega
      · exact starts
    have unique : (names (bs.drop p)).Nodup := by
      rw [names_drop]
      exact uniqueB.sublist (List.drop_sublist _ _)
    have later : Named.name anchor ∈ (names (bs.drop p)).drop as.length := by
      refine List.mem_of_getLast? (l := (names (bs.drop p)).drop as.length) ?_
      rw [List.getLast?_drop, if_neg (by simp; omega), newest]
    have absent : Named.name anchor ∉ names as := by
      rw [List.prefix_iff_eq_take.1 starts, length_names]
      exact fun early => List.disjoint_take_drop unique le_rfl early later
    exact disjointHead_of_missing uniqueA uniqueB nonempty last absent

/-- Dropping oldest items of a chain that begins inside another moves its start there by as many. -/
theorem beginsAt_drop {as bs : List α} {p r : Nat} (begins : BeginsAt bs as p)
    (within : p + r < bs.length) : BeginsAt bs (as.drop r) (p + r) := by
  obtain ⟨-, comparable⟩ := begins
  refine ⟨within, ?_⟩
  rw [names_drop, names_drop, ← List.drop_drop, ← names_drop]
  rcases comparable with starts | starts
  · exact .inl (starts.drop r)
  · exact .inr (starts.drop r)

/-- Dropping fewer oldest items than the source holds, none past the target's end, leaves the head
as it was. -/
theorem disjointHead_drop {as bs : List α} {p r : Nat} (uniqueA : (names as).Nodup)
    (uniqueB : (names bs).Nodup) (begins : BeginsAt bs as p) (short : r < as.length)
    (within : p + r < bs.length) :
    disjointHead ((as.drop r).map some) (bs.map some) = disjointHead (as.map some) (bs.map some) := by
  have nonemptyB : bs ≠ [] := List.ne_nil_of_length_pos (by omega)
  obtain ⟨anchor, last⟩ : ∃ anchor, bs.getLast? = some anchor :=
    ⟨_, List.getLast?_eq_some_getLast nonemptyB⟩
  have nonempty : as ≠ [] := List.ne_nil_of_length_pos (by omega)
  have nonemptyDrop : as.drop r ≠ [] := List.ne_nil_of_length_pos (by simp; omega)
  have uniqueDrop : (names (as.drop r)).Nodup := by
    rw [names_drop]
    exact uniqueA.sublist (List.drop_sublist _ _)
  rw [disjointHead_of_beginsAt uniqueDrop uniqueB nonemptyDrop (beginsAt_drop begins within) last,
    disjointHead_of_beginsAt uniqueA uniqueB nonempty begins last, List.drop_drop, List.length_drop]
  have reaches : bs.length - (p + r) ≤ as.length - r ↔ bs.length - p ≤ as.length := by omega
  have start : r + (bs.length - (p + r)) = bs.length - p := by omega
  simp only [reaches, start]

/-- When the source's oldest name is in the target, `align` accepts them as a source beginning
inside the target, whose first name is not in the source unless the two start alike. -/
theorem beginsAt_of_overlap {as bs : List α} (overlap : Overlap as bs)
    (first : ∀ a ∈ as.head?, Named.name a ∈ names bs) :
    ∃ p, BeginsAt bs as p ∧ (p = 0 ∨ ∀ b ∈ bs.head?, Named.name b ∉ names as) := by
  rcases overlap with ⟨q, ⟨inside, comparable⟩, fresh⟩ | started
  · -- the target begins inside the source; since the source's oldest name is in the target, at 0
    obtain ⟨a0, rest, rfl⟩ := List.exists_cons_of_length_pos (by omega : 0 < as.length)
    have start : q = 0 := by
      rcases fresh with start | absent
      · exact start
      · exact absurd (first a0 rfl) (absent a0 rfl)
    subst start
    have nonemptyB : 0 < bs.length := by
      obtain ⟨b, member, -⟩ := List.mem_map.1 (first a0 rfl)
      exact List.length_pos_of_mem member
    refine ⟨0, ⟨nonemptyB, ?_⟩, .inl rfl⟩
    simpa [Or.comm] using comparable
  · exact started

/-- Two chains aligned from the same start stay aligned when fewer of the source's oldest items
than the target holds past it are dropped. -/
theorem align_drop {as bs : List α} {p r : Nat} (uniqueA : (names as).Nodup)
    (uniqueB : (names bs).Nodup) (begins : BeginsAt bs as p)
    (fresh : p = 0 ∨ ∀ b ∈ bs.head?, Named.name b ∉ names as) (short : r < as.length)
    (within : p + r < bs.length) : ∃ m, align (as.drop r) bs = .ok m := by
  have uniqueDrop : (names (as.drop r)).Nodup := by
    rw [names_drop]
    exact uniqueA.sublist (List.drop_sublist _ _)
  refine (align_ok_iff _ _).2 ⟨uniqueDrop, uniqueB, .inr (.inr (.inr ⟨p + r, beginsAt_drop begins within, ?_⟩))⟩
  rcases Nat.eq_zero_or_pos r with none | some
  · subst none
    simpa using fresh
  · refine .inr fun b firstB => ?_
    rcases fresh with start | absent
    · -- both start alike, and the source's first name is among the dropped ones
      subst start
      obtain ⟨a0, rest, rfl⟩ := List.exists_cons_of_length_pos (by omega : 0 < as.length)
      obtain ⟨b0, restB, rfl⟩ := List.exists_cons_of_length_pos (by omega : 0 < bs.length)
      simp only [List.head?_cons, Option.mem_def, Option.some.injEq] at firstB
      subst firstB
      obtain ⟨_, named⟩ := beginsAt_name begins
      simp only [List.getElem_cons_zero] at named
      obtain ⟨r, rfl⟩ : ∃ r', r = r' + 1 := ⟨r - 1, by omega⟩
      rw [named, List.drop_succ_cons, names_drop]
      rw [names_cons, List.nodup_cons] at uniqueA
      exact fun later => uniqueA.1 (List.mem_of_mem_drop later)
    · exact fun later => absent b firstB (by rw [names_drop] at later; exact List.mem_of_mem_drop later)

/-- The oldest source items that the target holds, standing in it as one block, fit between the
source's start in the target and the target's end. -/
theorem length_oldestShared_le {as bs : List α} {p : Nat} (uniqueB : (names bs).Nodup)
    (begins : BeginsAt bs as p) (block : names (oldestShared as bs) <:+: names bs) :
    p + (oldestShared as bs).length ≤ bs.length := by
  cases shared : oldestShared as bs with
  | nil => simpa using begins.1.le
  | cons o rest =>
    rw [shared] at block
    -- the block starts where the source starts in the target, at `p`
    obtain ⟨before, after, whole⟩ := block
    have starts : oldestShared as bs <+: as := List.takeWhile_prefix _
    rw [shared] at starts
    obtain ⟨tail, rfl⟩ := starts
    obtain ⟨inside, named⟩ := beginsAt_name begins
    have atBefore : (names bs)[before.length]? = some (Named.name o) := by
      rw [← whole, List.append_assoc, List.getElem?_append_right le_rfl]
      simp
    have atStart : (names bs)[p]? = some (Named.name o) := by
      simp [names, inside, named]
    have bound : before.length < (names bs).length := by
      rw [← whole]
      simp
    have same : before.length = p :=
      (List.getElem?_inj bound uniqueB).1 (atBefore.trans atStart.symm)
    have total := congrArg List.length whole
    simp only [List.length_append, names_cons, List.length_cons, length_names] at total
    simp only [List.length_cons]
    omega

/-- A source chain aligned with a target that holds its oldest item begins inside the target,
early enough to leave room there for all the oldest items the two share. -/
theorem beginsAt_of_shared {as bs : List α} {m : List (Paired α)} (aligned : align as bs = .ok m)
    (block : names (oldestShared as bs) <:+: names bs) (shared : oldestShared as bs ≠ []) :
    ∃ p, BeginsAt bs as p ∧ (p = 0 ∨ ∀ b ∈ bs.head?, Named.name b ∉ names as) ∧
      p + (oldestShared as bs).length ≤ bs.length := by
  obtain ⟨-, uniqueB, accepted⟩ := (align_ok_iff as bs).1 ⟨m, aligned⟩
  cases as with
  | nil => exact absurd rfl shared
  | cons a0 rest =>
    have held : Named.name a0 ∈ names bs := by
      by_contra absent
      exact shared (by simp [oldestShared, absent])
    have overlap : Overlap (a0 :: rest) bs := by
      rcases accepted with empty | empty | overlap
      · cases empty
      · simp [empty, names] at held
      · exact overlap
    obtain ⟨p, begins, fresh⟩ := beginsAt_of_overlap overlap fun a first => by
      cases first
      exact held
    exact ⟨p, begins, fresh, length_oldestShared_le uniqueB begins block⟩

section Shared

variable {as bs : List α} {m : List (Paired α)} {r : Nat} (aligned : align as bs = .ok m)
  (block : names (oldestShared as bs) <:+: names bs) (short : r < (oldestShared as bs).length)

include aligned block short

/-- Dropping fewer of the source's oldest items than it shares with the target keeps the two
aligned. -/
theorem align_drop_shared : ∃ m', align (as.drop r) bs = .ok m' := by
  obtain ⟨uniqueA, uniqueB⟩ := align_nodup aligned
  obtain ⟨p, begins, fresh, room⟩ :=
    beginsAt_of_shared aligned block (List.ne_nil_of_length_pos (by omega))
  have inside : (oldestShared as bs).length ≤ as.length := (List.takeWhile_prefix _).length_le
  exact align_drop uniqueA uniqueB begins fresh (by omega) (by omega)

/-- Dropping fewer of the source's oldest items than it shares with the target keeps its head. -/
theorem disjointHead_drop_shared :
    disjointHead ((as.drop r).map some) (bs.map some) = disjointHead (as.map some) (bs.map some) := by
  obtain ⟨uniqueA, uniqueB⟩ := align_nodup aligned
  obtain ⟨p, begins, -, room⟩ :=
    beginsAt_of_shared aligned block (List.ne_nil_of_length_pos (by omega))
  have inside : (oldestShared as bs).length ≤ as.length := (List.takeWhile_prefix _).length_le
  exact disjointHead_drop uniqueA uniqueB begins (by omega) (by omega)

/-- The head lies past the oldest items the source shares with the target. -/
theorem disjointHead_past_shared {head : List α}
    (result : disjointHead (as.map some) (bs.map some) = .ok head) : head <:+ as.drop (r + 1) := by
  obtain ⟨uniqueA, uniqueB⟩ := align_nodup aligned
  obtain ⟨p, begins, -, room⟩ :=
    beginsAt_of_shared aligned block (List.ne_nil_of_length_pos (by omega))
  have inside : (oldestShared as bs).length ≤ as.length := (List.takeWhile_prefix _).length_le
  obtain ⟨anchor, last⟩ : ∃ anchor, bs.getLast? = some anchor :=
    ⟨_, List.getLast?_eq_some_getLast (List.ne_nil_of_length_pos (by omega))⟩
  rw [disjointHead_of_beginsAt uniqueA uniqueB (List.ne_nil_of_length_pos (by omega)) begins
    last] at result
  split at result
  · -- the head starts where the target ends, past all the shared items
    cases result
    have later : as.drop (bs.length - p) = (as.drop (r + 1)).drop (bs.length - p - (r + 1)) := by
      rw [List.drop_drop]
      congr 1
      omega
    rw [later]
    exact List.drop_suffix _ _
  · cases result

end Shared

/-- A chain that ends another begins inside it where the two start to agree; before that the other
holds none of its names. -/
theorem beginsAt_of_suffix {as bs : List α} (uniqueB : (names bs).Nodup) (nonempty : as ≠ [])
    (ends : names as <:+ names bs) :
    BeginsAt bs as (bs.length - as.length) ∧
      (bs.length - as.length = 0 ∨ ∀ b ∈ bs.head?, Named.name b ∉ names as) := by
  have longer : as.length ≤ bs.length := by simpa using ends.length_le
  have tail : names (bs.drop (bs.length - as.length)) = names as := by
    rw [names_drop, List.suffix_iff_eq_drop.1 ends]
    simp
  have positive : 0 < as.length := List.length_pos_of_ne_nil nonempty
  refine ⟨⟨by omega, .inl (by rw [tail])⟩, ?_⟩
  rcases Nat.eq_zero_or_pos (bs.length - as.length) with start | start
  · exact .inl start
  · refine .inr fun b first => ?_
    -- the first item of `bs` stands before the part that `as` ends
    have early : Named.name b ∈ (names bs).take (bs.length - as.length) := by
      obtain ⟨k, hk⟩ : ∃ k, bs.length - as.length = k + 1 :=
        ⟨_, (Nat.succ_pred_eq_of_pos start).symm⟩
      rw [hk]
      obtain ⟨b0, restB, rfl⟩ := List.exists_cons_of_length_pos (by omega : 0 < bs.length)
      cases first
      simp [names]
    rw [← tail, names_drop]
    exact fun late => List.disjoint_take_drop uniqueB le_rfl early late

/-- Two chains without repeated names of which one ends the other are aligned. -/
theorem align_of_ends {as bs : List α} (uniqueA : (names as).Nodup) (uniqueB : (names bs).Nodup)
    (ends : names as <:+ names bs ∨ names bs <:+ names as) : ∃ m, align as bs = .ok m := by
  refine (align_ok_iff as bs).2 ⟨uniqueA, uniqueB, ?_⟩
  rcases eq_or_ne as [] with empty | nonemptyA
  · exact .inl empty
  rcases eq_or_ne bs [] with empty | nonemptyB
  · exact .inr (.inl empty)
  rcases ends with ends | ends
  · obtain ⟨begins, fresh⟩ := beginsAt_of_suffix uniqueB nonemptyA ends
    exact .inr (.inr (.inr ⟨_, begins, fresh⟩))
  · obtain ⟨begins, fresh⟩ := beginsAt_of_suffix uniqueA nonemptyB ends
    exact .inr (.inr (.inl ⟨_, begins, fresh⟩))

theorem disjointHead_nil_left {bs : List α} (uniqueB : (names bs).Nodup) :
    disjointHead (([] : List α).map some) (bs.map some) = .ok [] := by
  unfold disjointHead
  rw [consecutive_map_some, consecutive_map_some]
  cases last : bs.getLast? <;>
    simp [checkUnique_of_nodup uniqueB, checkUnique_of_nodup (names_nil (α := α) ▸ List.nodup_nil),
      last]

/-- A source chain that ends like the target has nothing newer than the target. -/
theorem disjointHead_of_ends {as bs : List α} (uniqueA : (names as).Nodup)
    (uniqueB : (names bs).Nodup) (nonempty : bs ≠ [])
    (ends : names as <:+ names bs ∨ names bs <:+ names as) :
    disjointHead (as.map some) (bs.map some) = .ok [] := by
  obtain ⟨anchor, last⟩ : ∃ anchor, bs.getLast? = some anchor :=
    ⟨_, List.getLast?_eq_some_getLast nonempty⟩
  rcases eq_or_ne as [] with empty | nonemptyA
  · subst empty
    exact disjointHead_nil_left uniqueB
  · -- the source's newest item is named like the target's
    have parts : as = as.dropLast ++ [as.getLast nonemptyA] := (List.dropLast_append_getLast _).symm
    have named : Named.name (as.getLast nonemptyA) = Named.name anchor := by
      have lastA : (names as).getLast? = some (Named.name (as.getLast nonemptyA)) := by
        simp [names, List.getLast?_eq_some_getLast nonemptyA]
      have lastB : (names bs).getLast? = some (Named.name anchor) := by
        simp [names, last]
      rcases ends with ⟨front, whole⟩ | ⟨front, whole⟩
      · rw [← whole, List.getLast?_append_of_ne_nil _ (by simpa [names] using nonemptyA)] at lastB
        exact Option.some.inj (lastA.symm.trans lastB)
      · rw [← whole, List.getLast?_append_of_ne_nil _ (by simpa [names] using nonempty)] at lastA
        exact Option.some.inj (lastA.symm.trans lastB)
    exact disjointHead_of_parts uniqueA uniqueB last parts named (by rwa [← parts])

private theorem ends_after_receiving {old sent v : List String} (disjoint : ∀ n ∈ old, n ∉ sent)
    (ends : old <:+ v ∨ v <:+ old) :
    old ++ sent <:+ v.filter (· ∉ sent) ++ sent ∨ v.filter (· ∉ sent) ++ sent <:+ old ++ sent := by
  rcases ends with ⟨front, rfl⟩ | ⟨front, rfl⟩
  · -- the target runs past the shared part: only its older items can give way
    have kept : old.filter (· ∉ sent) = old := List.filter_eq_self.2 fun n member => by
      simpa using disjoint n member
    left
    exact ⟨front.filter (· ∉ sent), by rw [List.filter_append, kept, List.append_assoc]⟩
  · have kept : v.filter (· ∉ sent) = v := List.filter_eq_self.2 fun n member => by
      simpa using disjoint n (List.mem_append_right front member)
    right
    exact ⟨front, by rw [kept, List.append_assoc]⟩

/-- Once the target receives the head, in place of its items of the same names, the chains align
and the source has nothing newer. -/
theorem align_after_receiving {as bs head ys : List α}
    (result : disjointHead (as.map some) (bs.map some) = .ok head) (copies : names ys = names head) :
    (∃ m, align as (bs.filter (fun b => Named.name b ∉ names head) ++ ys) = .ok m) ∧
      disjointHead (as.map some)
        ((bs.filter (fun b => Named.name b ∉ names head) ++ ys).map some) = .ok [] := by
  obtain ⟨uniqueA, uniqueB, shape⟩ :=
    disjointHead_eq_ok (consecutive_map_some as) (consecutive_map_some bs) result
  have received : names (bs.filter (fun b => Named.name b ∉ names head) ++ ys) =
      (names bs).filter (· ∉ names head) ++ names head := by
    rw [names_append, copies, ← names_filter]
  generalize bs.filter (fun b => Named.name b ∉ names head) ++ ys = bs' at received ⊢
  have uniqueHead : (names head).Nodup := ((disjointHead_suffix result).map _).nodup uniqueA
  have unique : (names bs').Nodup := by
    rw [received, List.nodup_append]
    refine ⟨uniqueB.filter _, uniqueHead, fun n kept n' sent same => ?_⟩
    rw [List.mem_filter] at kept
    subst same
    exact of_decide_eq_true kept.2 sent
  rcases eq_or_ne as [] with rfl | nonemptyA
  · exact ⟨⟨_, align_nil_left unique⟩, disjointHead_nil_left unique⟩
  -- the source's names stand against the received target as one chain ends the other
  have ends : (names as <:+ names bs' ∨ names bs' <:+ names as) ∧ bs' ≠ [] := by
    rcases shape with ⟨rfl, whole⟩ | ⟨rfl, -⟩ | ⟨anchor, pre, x, last, parts, named, ends⟩
    · have same : names bs' = names as := by simpa [whole] using received
      refine ⟨.inl (same ▸ List.suffix_refl _), fun empty => nonemptyA ?_⟩
      simpa [empty, names] using same.symm
    · exact absurd rfl nonemptyA
    · have whole : names as = names (pre ++ [x]) ++ names head := by simp [parts]
      have disjoint : ∀ n ∈ names (pre ++ [x]), n ∉ names head := by
        rw [whole] at uniqueA
        exact fun n early late => List.disjoint_of_nodup_append uniqueA early late
      have anchored : Named.name anchor ∈ names bs' := by
        rw [received]
        refine List.mem_append_left _
          (List.mem_filter.2 ⟨List.mem_map_of_mem (List.mem_of_getLast? last), ?_⟩)
        exact decide_eq_true (disjoint _ (by simp [← named]))
      refine ⟨?_, fun empty => by simp [empty] at anchored⟩
      rw [whole, received]
      exact ends_after_receiving disjoint ends
  exact ⟨align_of_ends uniqueA unique ends.1, disjointHead_of_ends uniqueA unique ends.2 ends.1⟩

end ZfsReplication.Chain
