import Mathlib
import ZfsReplication.Proofs.Chain.Align

/-!
# Alignment of windows of one history

The chains `align` is meant for are windows of one history of names: the snapshots of one dataset
as each side still holds them. On such windows a successful alignment lists the history's stretch
from the earlier start to the later end, one item per name, pairing exactly the names both chains
hold.

`align` does not check that the chains are windows of one history. It places the later-starting
chain by its first name alone and compares names only where both chains are present, so a name
may stand in both chains outside that stretch and stay unpaired on either side. Whether each name
stands at one position, that is whether the alignment is as long as the chains have names, decides
exactly whether the chains are windows of one history (`align_length_eq_card_iff_onOneHistory`).
-/

set_option autoImplicit false

namespace ZfsReplication.Chain

variable {α : Type}

/-! ## Items of a successful alignment -/

@[simp] theorem some_mem_pad {x : α} {s r : Nat} {xs : List α} :
    some x ∈ pad s xs r ↔ x ∈ xs := by
  simp [pad]

/-- An item stands on one side of an alignment exactly when it belongs to that side's chain. -/
theorem mem_of_side {m : List (Paired α)} {side : Paired α → Option α} {s r : Nat} {xs : List α}
    (sides : m.map side = pad s xs r) {x : α} : (∃ p ∈ m, side p = some x) ↔ x ∈ xs := by
  rw [← some_mem_pad (s := s) (r := r), ← sides, List.mem_map]

theorem item_of_a? {p : Paired α} {x : α} (present : p.a? = some x) : p.item = x := by
  cases p <;> simp_all

variable [Named α]

section Accepted

variable {as bs : List α} {m : List (Paired α)}

/-- An item standing on side `b` of a successful alignment lends its name to its position. -/
theorem align_item_name_of_b? (accepted : align as bs = .ok m) {p : Paired α} (member : p ∈ m)
    {y : α} (present : p.b? = some y) : Named.name p.item = Named.name y := by
  cases p with
  | onlyA x => simp at present
  | onlyB y' =>
    simp only [Paired.b?_onlyB, Option.some.injEq] at present
    simp [present]
  | both x y' =>
    simp only [Paired.b?_both, Option.some.injEq] at present
    subst present
    exact align_agree accepted member

/-- The names a successful alignment holds, position by position, are the names of both chains. -/
theorem align_item_names_toFinset (accepted : align as bs = .ok m) :
    (m.map (Named.name ∘ Paired.item)).toFinset = (names as).toFinset ∪ (names bs).toFinset := by
  obtain ⟨⟨s, r, sideA⟩, t, r', sideB⟩ := align_sides accepted
  ext n
  simp only [List.mem_toFinset, Finset.mem_union, List.mem_map, Function.comp_apply, names]
  constructor
  · rintro ⟨p, member, rfl⟩
    cases p with
    | onlyA x => exact .inl ⟨x, (mem_of_side sideA).1 ⟨_, member, rfl⟩, rfl⟩
    | onlyB y => exact .inr ⟨y, (mem_of_side sideB).1 ⟨_, member, rfl⟩, rfl⟩
    | both x y => exact .inl ⟨x, (mem_of_side sideA).1 ⟨_, member, rfl⟩, rfl⟩
  · rintro (⟨x, inA, rfl⟩ | ⟨y, inB, rfl⟩)
    · obtain ⟨p, member, present⟩ := (mem_of_side sideA).2 inA
      exact ⟨p, member, by rw [item_of_a? present]⟩
    · obtain ⟨p, member, present⟩ := (mem_of_side sideB).2 inB
      exact ⟨p, member, align_item_name_of_b? accepted member present⟩

/-- A successful alignment is as long as its chains have names exactly when no name stands at
two of its positions. -/
theorem align_length_eq_card_iff (accepted : align as bs = .ok m) :
    m.length = ((names as).toFinset ∪ (names bs).toFinset).card ↔
      (m.map (Named.name ∘ Paired.item)).Nodup := by
  rw [← align_item_names_toFinset accepted]
  have length : (m.map (Named.name ∘ Paired.item)).length = m.length := List.length_map _
  constructor
  · intro same
    have counted := Multiset.toFinset_card_eq_card_iff_nodup
      (m := ((m.map (Named.name ∘ Paired.item) : List String) : Multiset String))
    simp only [List.toFinset_coe, Multiset.coe_card, Multiset.coe_nodup, length] at counted
    exact counted.1 same.symm
  · intro distinct
    rw [List.toFinset_card_of_nodup distinct, length]

/-- Where no name stands at two positions of a successful alignment, a position pairs both sides
exactly when its name belongs to both chains. -/
theorem align_isBoth_iff (accepted : align as bs = .ok m)
    (distinct : (m.map (Named.name ∘ Paired.item)).Nodup) {p : Paired α} (member : p ∈ m) :
    p.isBoth ↔ Named.name p.item ∈ names as ∧ Named.name p.item ∈ names bs := by
  obtain ⟨⟨s, r, sideA⟩, t, r', sideB⟩ := align_sides accepted
  have only : ∀ p' ∈ m, Named.name p'.item = Named.name p.item → p' = p :=
    fun p' member' same => List.inj_on_of_nodup_map distinct member' member same
  cases p with
  | both x y =>
    have inA : x ∈ as := (mem_of_side sideA).1 ⟨_, member, rfl⟩
    have inB : y ∈ bs := (mem_of_side sideB).1 ⟨_, member, rfl⟩
    simp only [Paired.isBoth_both, Paired.item_both, true_iff]
    exact ⟨List.mem_map_of_mem inA, align_agree accepted member ▸ List.mem_map_of_mem inB⟩
  | onlyA x =>
    simp only [Paired.isBoth_onlyA, Paired.item_onlyA, Bool.false_eq_true, false_iff, not_and]
    intro _ inB
    obtain ⟨y, yIn, named⟩ := List.mem_map.1 inB
    obtain ⟨p', member', present⟩ := (mem_of_side sideB).2 yIn
    have same := only p' member' ((align_item_name_of_b? accepted member' present).trans named)
    subst same
    simp at present
  | onlyB y =>
    simp only [Paired.isBoth_onlyB, Paired.item_onlyB, Bool.false_eq_true, false_iff, not_and]
    intro inA _
    obtain ⟨x, xIn, named⟩ := List.mem_map.1 inA
    obtain ⟨p', member', present⟩ := (mem_of_side sideA).2 xIn
    have same := only p' member' (by rw [item_of_a? present]; exact named)
    subst same
    simp at present

/-- Seen from the other side, a successful alignment holds the same names position by position. -/
theorem align_items_swap (accepted : align as bs = .ok m) :
    (m.map Paired.swap).map (Named.name ∘ Paired.item) = m.map (Named.name ∘ Paired.item) := by
  rw [List.map_map]
  apply List.map_congr_left
  intro p member
  cases p with
  | onlyA x => rfl
  | onlyB y => rfl
  | both x y => exact (align_agree accepted member).symm

end Accepted

/-! ## Windows of one history -/

/-- Chains `as` and `bs` are the overlapping windows `h[i..j]` and `h[k..l]` of one history `h`
free of repeated names. -/
structure Windows (h : List String) (i j k l : Nat) (as bs : List α) : Prop where
  unique : h.Nodup
  endA : j ≤ h.length
  endB : l ≤ h.length
  sideA : names as = h.extract i j
  sideB : names bs = h.extract k l
  overlap : max i k < min j l

/-- Two chains are overlapping windows of one history free of repeated names. -/
def OnOneHistory (as bs : List α) : Prop :=
  ∃ h i j k l, Windows h i j k l as bs

private theorem extract_nodup {h : List String} (unique : h.Nodup) (i j : Nat) :
    (h.extract i j).Nodup :=
  unique.sublist ((List.take_sublist _ _).trans (List.drop_sublist _ _))

/-- A window followed by the part of a later-starting window past its end is the history from the
first start to the later end. -/
private theorem extract_append_extract (h : List String) {i j k l : Nat} (ordered : i ≤ k)
    (inside : k ≤ j) :
    h.extract i j ++ (h.extract k l).drop (j - k) = h.extract i (max j l) := by
  simp only [List.extract_eq_take_drop, List.drop_take, List.drop_drop]
  rw [show k + (j - k) = j by omega, show l - k - (j - k) = l - j by omega]
  by_cases later : j ≤ l
  · rw [max_eq_right later, show l - i = (j - i) + (l - j) by omega, List.take_add,
      List.drop_drop, show i + (j - i) = j by omega]
  · rw [max_eq_left (by omega), show l - j = 0 by omega, List.take_zero, List.append_nil]

namespace Windows

variable {h : List String} {i j k l : Nat} {as bs : List α}

theorem swap (windows : Windows h i j k l as bs) : Windows h k l i j bs as :=
  ⟨windows.unique, windows.endB, windows.endA, windows.sideB, windows.sideA,
    by simpa only [max_comm, min_comm] using windows.overlap⟩

theorem length_a (windows : Windows h i j k l as bs) : as.length = j - i := by
  have lengths := congrArg List.length windows.sideA
  have := windows.endA
  have := windows.overlap
  simp only [length_names, List.extract_eq_take_drop, List.length_take, List.length_drop]
    at lengths
  omega

theorem nodup_a (windows : Windows h i j k l as bs) : (names as).Nodup := by
  rw [windows.sideA]
  exact extract_nodup windows.unique i j

theorem name_a (windows : Windows h i j k l as bs) (x : Nat) (inside : x < as.length) :
    h[i + x]? = some (Named.name as[x]) := by
  have atX := congrArg (·[x]?) windows.sideA
  have := windows.length_a
  simp only [names, List.getElem?_map, List.getElem?_eq_getElem inside, Option.map_some,
    List.extract_eq_take_drop, List.getElem?_take, List.getElem?_drop] at atX
  rw [if_pos (by omega)] at atX
  exact atX.symm

/-- Where `bs` enters `as` at position `q` of their alignment, the two windows start `q` apart. -/
theorem offset (windows : Windows h i j k l as bs) {m : List (Paired α)} {q : Nat}
    (entering : EntersAt as bs m q) : k = i + q := by
  obtain ⟨inside, rest, paired, -⟩ := entering
  have lengthB := windows.swap.length_a
  have overlap := windows.overlap
  have endB := windows.endB
  cases bs with
  | nil => simp at lengthB; omega
  | cons b0 bs =>
    obtain ⟨_, named⟩ := beginsAt_name ⟨inside, (pairUp_ok_iff _ _).1 ⟨rest, paired⟩⟩
    have atA := windows.name_a q inside
    have atB := windows.swap.name_a 0 (by simp)
    simp only [List.getElem_cons_zero, Nat.add_zero] at atB
    rw [named, ← atB] at atA
    exact ((List.getElem?_inj (by omega) windows.unique).1 atA.symm)

/-- Where `bs` enters `as`, the alignment of two windows lists the history from the start of `as`
to the later end. -/
theorem items_of_entersAt (windows : Windows h i j k l as bs) {m : List (Paired α)} {q : Nat}
    (entering : EntersAt as bs m q) :
    m.map (Named.name ∘ Paired.item) = h.extract i (max j l) := by
  have offset := windows.offset entering
  have lengthA := windows.length_a
  have overlap := windows.overlap
  rw [entering.items, names_drop, windows.sideA, windows.sideB, lengthA,
    show j - i - q = j - k by omega]
  exact extract_append_extract h (by omega) (by omega)

/-- Two windows of one history overlap as `align` requires: the later-starting one begins inside
the other at its first name, which the other's first name is not among. -/
theorem overlap_of_le (windows : Windows h i j k l as bs) (ordered : i ≤ k) : Overlap as bs := by
  have lengthA := windows.length_a
  have lengthB := windows.swap.length_a
  have overlap := windows.overlap
  have endB := windows.endB
  refine .inl ⟨k - i, ⟨by omega, ?_⟩, ?_⟩
  · -- both chains are prefixes of the history from `k` on
    rw [names_drop, windows.sideA, windows.sideB]
    simp only [List.extract_eq_take_drop, List.drop_take, List.drop_drop]
    rw [show i + (k - i) = k by omega]
    exact List.prefix_or_prefix_of_prefix (List.take_prefix _ _) (List.take_prefix _ _)
  · by_cases same : k = i
    · exact .inl (by omega)
    · refine .inr fun a0 first named => ?_
      cases as with
      | nil => simp at first
      | cons a as =>
        simp only [List.head?_cons, Option.mem_def, Option.some.injEq] at first
        subst first
        obtain ⟨y, inside, atY⟩ := List.mem_iff_getElem.1 named
        have atA := windows.name_a 0 (by simp)
        have atB := windows.swap.name_a y (by simpa using inside)
        simp only [List.getElem_cons_zero, Nat.add_zero] at atA
        simp only [names, List.getElem_map] at atY
        rw [atY, ← atA] at atB
        have later := (List.getElem?_inj (by simp at inside; omega) windows.unique).1 atB
        omega

theorem overlap_chains (windows : Windows h i j k l as bs) : Overlap as bs := by
  by_cases ordered : i ≤ k
  · exact windows.overlap_of_le ordered
  · exact (windows.swap.overlap_of_le (by omega)).symm

/-- `align` accepts two windows of one history. -/
theorem align_ok (windows : Windows h i j k l as bs) : ∃ m, align as bs = .ok m :=
  (align_ok_iff as bs).2 ⟨windows.nodup_a, windows.swap.nodup_a, .inr (.inr windows.overlap_chains)⟩

end Windows

/-- Where `bs` enters `as` at position `q` and no name stands at two positions of the alignment,
the chains are windows of the history the alignment lists. -/
theorem windows_of_entersAt {as bs : List α} {m : List (Paired α)} {q : Nat} (entering : EntersAt as bs m q)
    (nonempty : bs ≠ []) (distinct : (m.map (Named.name ∘ Paired.item)).Nodup) :
    Windows (m.map (Named.name ∘ Paired.item)) 0 as.length q (q + bs.length) as bs := by
  have inside := entering.1
  obtain ⟨rest, paired, -⟩ := entering.2
  have positive : 0 < bs.length := List.length_pos_iff.2 nonempty
  have items := entering.items
  -- from position `q` on, the history is `bs` itself, or `bs` within the rest of `as`
  have fromQ : ((m.map (Named.name ∘ Paired.item)).drop q).take bs.length = names bs := by
    rw [items, List.drop_append_of_le_length (by simp; omega), ← names_drop]
    rcases (pairUp_ok_iff _ _).1 ⟨rest, paired⟩ with ⟨tail, whole⟩ | ⟨tail, whole⟩
    · have longer : as.length - q ≤ bs.length := by
        have := congrArg List.length whole
        simp at this
        omega
      have tailIs : tail = names (bs.drop (as.length - q)) := by
        rw [names_drop, ← whole, show as.length - q = (names (as.drop q)).length by simp]
        simp
      rw [← tailIs, whole]
      simp
    · have shorter : bs.length ≤ as.length - q := by
        have := congrArg List.length whole
        simp at this
        omega
      rw [List.drop_eq_nil_of_le shorter, names_nil, List.append_nil, ← whole,
        List.take_left' (by simp)]
  refine ⟨distinct, by simp [items], ?_, ?_, ?_, ?_⟩
  · rw [List.length_map, ← List.length_map (f := Named.name ∘ Paired.item), items]
    simp
    omega
  · rw [items]
    simp
  · simpa using fromQ.symm
  · simp only [Nat.zero_max]
    omega

section Accepted

variable {as bs : List α} {m : List (Paired α)}

/-- Two nonempty chains aligned with no name at two positions are windows of one history. -/
theorem onOneHistory_of_align (accepted : align as bs = .ok m) (nonemptyA : as ≠ [])
    (nonemptyB : bs ≠ []) (distinct : (m.map (Named.name ∘ Paired.item)).Nodup) :
    OnOneHistory as bs := by
  rcases align_cases accepted with ⟨empty, -⟩ | ⟨empty, -⟩ | ⟨q, entering⟩ | ⟨p, entering⟩
  · exact absurd empty nonemptyA
  · exact absurd empty nonemptyB
  · exact ⟨_, _, _, _, _, windows_of_entersAt entering nonemptyB distinct⟩
  · rw [← align_items_swap accepted] at distinct
    exact ⟨_, _, _, _, _, (windows_of_entersAt entering nonemptyA distinct).swap⟩

/-- On two windows of one history, a successful alignment lists the history from the earlier start
to the later end. -/
theorem align_items_of_windows {h : List String} {i j k l : Nat} (windows : Windows h i j k l as bs)
    (accepted : align as bs = .ok m) :
    m.map (Named.name ∘ Paired.item) = h.extract (min i k) (max j l) := by
  have lengthA := windows.length_a
  have lengthB := windows.swap.length_a
  have overlap := windows.overlap
  rcases align_cases accepted with ⟨empty, -⟩ | ⟨empty, -⟩ | ⟨q, entering⟩ | ⟨p, entering⟩
  · simp [empty] at lengthA
    omega
  · simp [empty] at lengthB
    omega
  · have offset := windows.offset entering
    rw [windows.items_of_entersAt entering, min_eq_left (by omega)]
  · have offset := windows.swap.offset entering
    rw [← align_items_swap accepted, windows.swap.items_of_entersAt entering,
      min_eq_right (by omega), max_comm]

/-- A successful alignment holds one item per name exactly when one chain is empty or the two are
windows of one history. -/
theorem align_length_eq_card_iff_onOneHistory (accepted : align as bs = .ok m) :
    m.length = ((names as).toFinset ∪ (names bs).toFinset).card ↔
      as = [] ∨ bs = [] ∨ OnOneHistory as bs := by
  rw [align_length_eq_card_iff accepted]
  obtain ⟨uniqueA, uniqueB⟩ := align_nodup accepted
  constructor
  · intro distinct
    by_cases emptyA : as = []
    · exact .inl emptyA
    by_cases emptyB : bs = []
    · exact .inr (.inl emptyB)
    exact .inr (.inr (onOneHistory_of_align accepted emptyA emptyB distinct))
  · rintro (rfl | rfl | ⟨h, i, j, k, l, windows⟩)
    · rw [align_nil_left uniqueB, Except.ok.injEq] at accepted
      subst accepted
      simpa [names, List.map_map, Function.comp_def] using uniqueB
    · rw [align_nil_right uniqueA, Except.ok.injEq] at accepted
      subst accepted
      simpa [names, List.map_map, Function.comp_def] using uniqueA
    · rw [align_items_of_windows windows accepted]
      exact extract_nodup windows.unique _ _

end Accepted

/-! ## What `align` does -/

/-- What `align` does on every pair of chains. It succeeds exactly on chains without repeated names
of which one is empty or which overlap as `Overlap` says. A successful alignment holds each chain
on its side, padded with absent items at both ends, and pairs only equal names; it holds one item
per name exactly when one chain is empty or the two are windows of one history. On two windows of
one history it lists the history from the earlier start to the later end, pairing exactly the names
both chains hold. -/
theorem align_spec (as bs : List α) :
    ((∃ m, align as bs = .ok m) ↔
        (names as).Nodup ∧ (names bs).Nodup ∧ (as = [] ∨ bs = [] ∨ Overlap as bs)) ∧
      (∀ m, align as bs = .ok m →
        (∃ s r, m.map Paired.a? = pad s as r) ∧ (∃ t r, m.map Paired.b? = pad t bs r) ∧
        (∀ x y, Paired.both x y ∈ m → Named.name x = Named.name y) ∧
        (m.length = ((names as).toFinset ∪ (names bs).toFinset).card ↔
          as = [] ∨ bs = [] ∨ OnOneHistory as bs)) ∧
      ∀ h i j k l, Windows h i j k l as bs → ∃ m, align as bs = .ok m ∧
        m.map (Named.name ∘ Paired.item) = h.extract (min i k) (max j l) ∧
        ∀ p ∈ m, (p.isBoth ↔ Named.name p.item ∈ names as ∧ Named.name p.item ∈ names bs) := by
  refine ⟨align_ok_iff as bs, fun m accepted => ?_, fun h i j k l windows => ?_⟩
  · obtain ⟨sideA, sideB⟩ := align_sides accepted
    exact ⟨sideA, sideB, fun x y member => align_agree accepted member,
      align_length_eq_card_iff_onOneHistory accepted⟩
  · obtain ⟨m, accepted⟩ := windows.align_ok
    have items := align_items_of_windows windows accepted
    have distinct : (m.map (Named.name ∘ Paired.item)).Nodup := by
      rw [items]
      exact extract_nodup windows.unique _ _
    exact ⟨m, accepted, items, fun p member => align_isBoth_iff accepted distinct member⟩

/-- With `x` before `y` in one chain and after it in the other, `align` accepts the chains and
leaves `x` unpaired on both sides, though no history free of repeated names holds both orders. -/
theorem align_accepts_crossed_chains :
    align ["w", "x", "y"] ["y", "x"] = .ok [.onlyA "w", .onlyA "x", .both "y" "y", .onlyB "x"] ∧
      ¬ OnOneHistory ["w", "x", "y"] ["y", "x"] := by
  have accepted : align ["w", "x", "y"] ["y", "x"] =
      .ok [.onlyA "w", .onlyA "x", .both "y" "y", .onlyB "x"] := by
    rfl
  refine ⟨accepted, fun onOne => ?_⟩
  have counted := (align_length_eq_card_iff_onOneHistory accepted).2 (.inr (.inr onOne))
  revert counted
  decide

end ZfsReplication.Chain
