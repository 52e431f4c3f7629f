import ZfsReplication.Proofs.Chain.Views

/-!
# Folding unmarked items into the next marked one

`Chain.squash` walks a chain once, keeping the marked items and filing the run of unmarked items
before each under the kept item's name. `Folded` says what it leaves, each part stated on the chain
alone: the marked items in order, under each the unmarked run back to the marked item before it
(no entry for an empty run), and the unmarked items after the last marked one. Together they give
the chain back. On a chain without repeated names `squash` leaves exactly that (`squash_folded`);
with repeated names its entries, keyed by name, would overwrite one another.
-/

set_option autoImplicit false

namespace ZfsReplication.Chain

variable {α : Type} [Named α]

/-- What folding the unmarked items of `xs` into the next marked one leaves in `s`. -/
structure Folded (isMarked : α → Bool) (xs : List α) (s : Squashed α) : Prop where
  /-- The marked items, in order. -/
  kept : s.kept = xs.filter isMarked
  /-- Under a marked item's name, the unmarked items right before it back to the marked item
  before it (or the start), and no entry when there are none. -/
  intermediates : ∀ {pre run post : List α} {k : α}, xs = pre ++ run ++ k :: post →
    isMarked k = true → (∀ x ∈ run, isMarked x = false) → (∀ x ∈ pre.getLast?, isMarked x = true) →
    s.intermediates.lookup (Named.name k) = if run = [] then none else some run
  /-- The unmarked items after the last marked one. -/
  trailing : ∀ {pre run : List α}, xs = pre ++ run → (∀ x ∈ run, isMarked x = false) →
    (∀ x ∈ pre.getLast?, isMarked x = true) → s.trailing = run
  /-- Each marked item behind its run, then the trailing items, give the chain back. -/
  restores : (s.kept.flatMap fun k => (s.intermediates.lookup (Named.name k)).getD [] ++ [k]) ++
    s.trailing = xs

section Parts

variable (isMarked : α → Bool)

omit [Named α] in
private theorem takeWhile_unmarked_reverse {pre : List α}
    (endsMarked : ∀ x ∈ pre.getLast?, isMarked x = true) :
    pre.reverse.takeWhile (fun x => !isMarked x) = [] := by
  cases pre using List.reverseRecOn with
  | nil => rfl
  | append_singleton pre z => simp [endsMarked z (by simp)]

omit [Named α] in
/-- An unmarked run behind a marked item (or the start) is what the chain ends with. -/
private theorem unmarked_end {pre run : List α} (unmarked : ∀ x ∈ run, isMarked x = false)
    (endsMarked : ∀ x ∈ pre.getLast?, isMarked x = true) :
    ((pre ++ run).reverse.takeWhile fun x => !isMarked x).reverse = run := by
  rw [List.reverse_append, List.takeWhile_append_of_pos (by simpa using unmarked),
    takeWhile_unmarked_reverse isMarked endsMarked, List.append_nil, List.reverse_reverse]

theorem foldedInto_of_parts {pre run post : List α} {k : α}
    (fresh : ∀ x ∈ pre, isMarked x = true → Named.name x ≠ Named.name k)
    (marked : isMarked k = true) (unmarked : ∀ x ∈ run, isMarked x = false)
    (endsMarked : ∀ x ∈ pre.getLast?, isMarked x = true) :
    foldedInto isMarked (pre ++ run ++ k :: post) (Named.name k) = run := by
  -- the items before `k` all pass the search for a marked item named like `k`
  have passes : ∀ x ∈ pre ++ run, (!(isMarked x && Named.name x == Named.name k)) = true := by
    intro x member
    rcases List.mem_append.1 member with inPre | inRun
    · cases markedX : isMarked x with
      | false => simp
      | true => simp [fresh x inPre markedX]
    · simp [unmarked x inRun]
  unfold foldedInto
  rw [List.takeWhile_append_of_pos passes, List.takeWhile_cons_of_neg (by simp [marked]),
    List.append_nil]
  exact unmarked_end isMarked unmarked endsMarked

/-- Every entry of a fold holds at least one item: an empty run files nothing. -/
theorem squash_entries_ne_nil (xs : List α) :
    ∀ entry ∈ (squash isMarked xs).intermediates, entry.2 ≠ [] := by
  induction xs using List.reverseRecOn with
  | nil => simp [squash]
  | append_singleton xs x ih =>
    rw [squash_append_singleton]
    cases marked : isMarked x with
    | false => simpa [marked] using ih
    | true =>
      simp only [↓reduceIte]
      split
      · exact ih
      · next running =>
        intro entry member
        rcases List.mem_append.1 member with kept | added
        · exact ih entry (List.mem_filter.1 kept).1
        · simp only [List.mem_singleton] at added
          subst added
          simpa using running

theorem mem_of_lookup_eq_some {β : Type} {entries : List (String × β)} {n : String} {v : β}
    (found : entries.lookup n = some v) : (n, v) ∈ entries := by
  induction entries with
  | nil => cases found
  | cons entry entries ih =>
    obtain ⟨key, w⟩ := entry
    by_cases same : n = key
    · subst same
      simp only [List.lookup_cons_self, Option.some.injEq] at found
      simp [found]
    · have apart : (n == key) = false := by simpa using same
      simp only [List.lookup_cons, apart] at found
      exact List.mem_cons_of_mem _ (ih found)

/-- The fold files the run before a marked item under its name, and nothing for an empty run. -/
theorem squash_lookup_of_parts {pre run post : List α} {k : α}
    (unique : (names (pre ++ run ++ k :: post)).Nodup) (marked : isMarked k = true)
    (unmarked : ∀ x ∈ run, isMarked x = false) (endsMarked : ∀ x ∈ pre.getLast?, isMarked x = true) :
    (squash isMarked (pre ++ run ++ k :: post)).intermediates.lookup (Named.name k) =
      if run = [] then none else some run := by
  have uniqueMarked : (names ((pre ++ run ++ k :: post).filter isMarked)).Nodup :=
    unique.sublist (List.filter_sublist.map _)
  have named : Named.name k ∈ names ((pre ++ run ++ k :: post).filter isMarked) :=
    List.mem_map_of_mem (List.mem_filter.2 ⟨by simp, marked⟩)
  have fresh : ∀ x ∈ pre, isMarked x = true → Named.name x ≠ Named.name k := by
    intro x member _
    exact name_ne_of_mem_take_drop (k := pre.length) (l := (pre ++ run).length) unique
      (by simp) (by simp [member]) (by simp)
  have filed := squash_lookup isMarked _ uniqueMarked named
  rw [foldedInto_of_parts isMarked fresh marked unmarked endsMarked] at filed
  cases found : (squash isMarked (pre ++ run ++ k :: post)).intermediates.lookup (Named.name k) with
  | none =>
    rw [found] at filed
    simp [← filed]
  | some v =>
    rw [found, Option.getD_some] at filed
    subst filed
    have filled := squash_entries_ne_nil isMarked _ _ (mem_of_lookup_eq_some found)
    simp [filled]

theorem squash_trailing_of_parts {pre run : List α} (unmarked : ∀ x ∈ run, isMarked x = false)
    (endsMarked : ∀ x ∈ pre.getLast?, isMarked x = true) :
    (squash isMarked (pre ++ run)).trailing = run := by
  rw [squash_trailing]
  exact unmarked_end isMarked unmarked endsMarked

/-! Filing a run under a kept name, as `squash` does on reaching a marked item: nothing for an
empty run, else the run in place of any entry of that name. -/

omit [Named α] in
theorem lookup_filed_of_ne (entries : List (String × List α)) (run : List α) {n k : String}
    (differ : n ≠ k) :
    (if run.isEmpty then entries else entries.filter (·.1 != k) ++ [(k, run)]).lookup n =
      entries.lookup n := by
  have apart : (n == k) = false := by simpa using differ
  split
  · rfl
  · rw [List.lookup_append, lookup_filter_ne _ differ]
    cases entries.lookup n with
    | none => simp [List.lookup, apart]
    | some v => rfl

omit [Named α] in
theorem lookup_filed_self (entries : List (String × List α)) (run : List α) {k : String}
    (absent : entries.lookup k = none) :
    ((if run.isEmpty then entries else entries.filter (·.1 != k) ++ [(k, run)]).lookup k).getD [] =
      run := by
  split
  · next empty => simp [absent, List.isEmpty_iff.1 empty]
  · have gone : (entries.filter (·.1 != k)).lookup k = none := by
      simp only [List.lookup_eq_none_iff, List.mem_filter, bne_iff_ne, ne_eq]
      exact fun entry member => Ne.symm member.2
    simp [List.lookup_append, gone]

/-- The kept items behind their runs, then the trailing items, give the chain back. The run of
each kept item stays its own as long as no two kept items share a name. -/
theorem squash_restores (xs : List α) (uniqueMarked : (names (xs.filter isMarked)).Nodup) :
    ((squash isMarked xs).kept.flatMap fun k =>
        ((squash isMarked xs).intermediates.lookup (Named.name k)).getD [] ++ [k]) ++
      (squash isMarked xs).trailing = xs := by
  induction xs using List.reverseRecOn with
  | nil => rfl
  | append_singleton xs x ih =>
    rw [squash_append_singleton]
    simp only [List.filter_append, List.filter_singleton, names_append] at uniqueMarked
    cases marked : isMarked x with
    | false =>
      simp only [marked, cond_false, names_nil, List.append_nil] at uniqueMarked
      simp only [Bool.false_eq_true, ↓reduceIte, ← List.append_assoc, ih uniqueMarked]
    | true =>
      simp only [marked, cond_true] at uniqueMarked
      have fresh : Named.name x ∉ names (xs.filter isMarked) := fun member =>
        (List.nodup_append.1 uniqueMarked).2.2 _ member _ (by simp [names]) rfl
      -- `x` gets the run before it; the kept items before it, named otherwise, keep theirs
      have others : ∀ k ∈ (squash isMarked xs).kept,
          ((if (squash isMarked xs).trailing.isEmpty then (squash isMarked xs).intermediates
            else (squash isMarked xs).intermediates.filter (·.1 != Named.name x) ++
              [(Named.name x, (squash isMarked xs).trailing)]).lookup (Named.name k)).getD [] ++ [k] =
            ((squash isMarked xs).intermediates.lookup (Named.name k)).getD [] ++ [k] := by
        intro k member
        rw [squash_kept] at member
        have differ : Named.name k ≠ Named.name x := fun same =>
          fresh (same ▸ List.mem_map_of_mem member)
        rw [lookup_filed_of_ne _ _ differ]
      simp only [↓reduceIte, List.flatMap_append, List.flatMap_singleton, List.append_nil]
      rw [List.flatMap_congr others, lookup_filed_self _ _ (squash_lookup_eq_none isMarked xs fresh),
        ← List.append_assoc, ih (List.nodup_append.1 uniqueMarked).1]

/-- On a chain without repeated names, `squash` leaves what `Folded` describes. -/
theorem squash_folded (xs : List α) (unique : (names xs).Nodup) :
    Folded isMarked xs (squash isMarked xs) where
  kept := squash_kept isMarked xs
  intermediates := by
    rintro pre run post k rfl marked unmarked endsMarked
    exact squash_lookup_of_parts isMarked unique marked unmarked endsMarked
  trailing := by
    rintro pre run rfl unmarked endsMarked
    exact squash_trailing_of_parts isMarked unmarked endsMarked
  restores := squash_restores isMarked xs (unique.sublist (List.filter_sublist.map _))

end Parts

end ZfsReplication.Chain
