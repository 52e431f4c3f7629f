import Mathlib
import ZfsReplication.Proofs.Chain.History

/-!
# What the views of an alignment read

Each side of an accepted alignment is its chain padded with absences, and `consecutive` gives the
chain back. So every view of an alignment is a computation on the two chains alone:

* `overlapTail` is `oldestShared`, the oldest items of the source whose names the target holds,
  and these stand in the target as one block (`overlapTail_eq_ok`);
* `disjointHead` is the part of the source after the item named like the target's newest, and
  the source up to there ends like the target or the target ends like it (`disjointHead_eq_ok`);
* `disjointTail` is the part of the source `before` the item named like the target's oldest, and
  the source from there starts like the target or the target starts like it
  (`disjointTail_eq_ok`).

An alignment of two nonempty chains pairs some item, so it `overlaps` exactly when the chains share
a name (`align_any_isBoth_iff`).
-/

set_option autoImplicit false

namespace ZfsReplication.Chain

variable {α : Type}

/-! ## Padded sides -/

theorem reverse_pad (s : Nat) (xs : List α) (r : Nat) :
    (pad s xs r).reverse = pad r xs.reverse s := by
  simp [pad, List.map_reverse]

private theorem dropWhile_isNone_replicate (s : Nat) (rest : List (Option α)) :
    (List.replicate s none ++ rest).dropWhile Option.isNone = rest.dropWhile Option.isNone := by
  induction s with
  | zero => rfl
  | succ s ih => simp [List.replicate_succ, ih]

private theorem mapM_present (xs : List α) :
    (xs.map some).mapM (fun x : Option α => match x with
      | some v => (Except.ok v : Except AlignmentError α)
      | none => .error .notConsecutive) = .ok xs := by
  induction xs with
  | nil => rfl
  | cons x xs ih => simp [List.mapM_cons, ih]

theorem consecutive_pad (s : Nat) (xs : List α) (r : Nat) : consecutive (pad s xs r) = .ok xs := by
  unfold consecutive
  cases xs with
  | nil =>
    -- nothing is present, so trimming leaves nothing
    simp [pad]
  | cons x xs =>
    -- trimming the front stops at `x`, trimming the back at the last present item
    have front : (pad s (x :: xs) r).dropWhile Option.isNone = (x :: xs).map some ++
        List.replicate r none := by
      simp [pad]
    have back : (((x :: xs).map some).reverse).dropWhile Option.isNone =
        ((x :: xs).map some).reverse := by
      obtain ⟨y, ys, last⟩ : ∃ y ys, (x :: xs).reverse = y :: ys :=
        List.exists_cons_of_ne_nil (by simp)
      rw [← List.map_reverse, last]
      simp
    rw [front, List.reverse_append, List.reverse_replicate, dropWhile_isNone_replicate, back,
      List.reverse_reverse]
    exact mapM_present _

theorem consecutive_reverse_pad (s : Nat) (xs : List α) (r : Nat) :
    consecutive (pad s xs r).reverse = .ok xs.reverse := by
  rw [reverse_pad]
  exact consecutive_pad _ _ _

theorem consecutive_of_sides {m : List (Paired α)} {side : Paired α → Option α} {xs : List α}
    (sides : ∃ s r, m.map side = pad s xs r) :
    consecutive (m.map side) = .ok xs ∧ consecutive (m.map side).reverse = .ok xs.reverse := by
  obtain ⟨s, r, padded⟩ := sides
  rw [padded]
  exact ⟨consecutive_pad s xs r, consecutive_reverse_pad s xs r⟩

variable [Named α]

/-! ## The chains behind the views -/

/-- The oldest items of `xs` whose names `ys` holds, up to the first one it does not. -/
def oldestShared (xs ys : List α) : List α := xs.takeWhile fun x => Named.name x ∈ names ys

/-- The items of `xs` before the first one named `n`. -/
def before (xs : List α) (n : String) : List α := xs.takeWhile fun x => Named.name x ≠ n

@[simp] theorem names_reverse (xs : List α) : names xs.reverse = (names xs).reverse := by
  simp [names, List.map_reverse]

theorem before_append_cons {pre post : List α} {x : α} {n : String} (absent : n ∉ names pre)
    (named : Named.name x = n) : before (pre ++ x :: post) n = pre := by
  have passes : ∀ y ∈ pre, decide (Named.name y ≠ n) = true := fun y member =>
    decide_eq_true fun same => absent (by rw [← same]; exact List.mem_map_of_mem member)
  unfold before
  rw [List.takeWhile_append_of_pos passes]
  simp [named]

theorem mem_names_of_mem_oldestShared {xs ys : List α} {x : α} (member : x ∈ oldestShared xs ys) :
    Named.name x ∈ names ys := by
  simpa using List.mem_takeWhile_imp member

theorem not_mem_drop_of_mem_take {xs : List α} (unique : (names xs).Nodup) {k : Nat} {x : α}
    (member : x ∈ xs.take k) : x ∉ xs.drop k := by
  have whole : (xs.take k ++ xs.drop k).Nodup := by
    rw [List.take_append_drop]
    exact unique.of_map _
  exact fun later => (List.nodup_append.1 whole).2.2 x member x later rfl

/-- Items of a block of `ys` that stand before a later item of the block are not named like the
newest item of `ys`. -/
theorem name_ne_newest_of_block {shared ys : List α} (unique : (names ys).Nodup)
    (block : names shared <:+: names ys) {k : Nat} (short : k < shared.length) {x : α}
    (member : x ∈ shared.take k) : ∀ newest ∈ ys.getLast?, Named.name x ≠ Named.name newest := by
  intro newest last
  obtain ⟨pre, post, whole⟩ := block
  have parts : names ys = (pre ++ names (shared.take k)) ++ (names (shared.drop k) ++ post) := by
    rw [← whole, ← List.take_append_drop k shared, names_append, List.take_append_drop]
    simp
  have later : names (shared.drop k) ++ post ≠ [] := by
    simp [names]
    omega
  have newestLater : Named.name newest ∈ names (shared.drop k) ++ post := by
    have lastName : (names ys).getLast? = some (Named.name newest) := by
      simp [names, Option.mem_def.1 last]
    rw [parts, List.getLast?_append, List.getLast?_eq_some_getLast later, Option.some_or,
      Option.some.injEq] at lastName
    rw [← lastName]
    exact List.getLast_mem later
  have earlier : Named.name x ∈ pre ++ names (shared.take k) :=
    List.mem_append_right _ (List.mem_map_of_mem member)
  rw [parts] at unique
  exact (List.nodup_append.1 unique).2.2 _ earlier _ newestLater

/-- Items of `xs` before a part that starts like `ys`, or that `ys` starts like, are not named
like any of the first items of `ys` set against that part. -/
theorem name_not_mem_of_starts {xs ys older post : List α} {x : α} (unique : (names xs).Nodup)
    (parts : xs = older ++ x :: post)
    (starts : names (x :: post) <+: names ys ∨ names ys <+: names (x :: post)) :
    ∀ y ∈ older, Named.name y ∉ names (ys.take (xs.length - older.length)) := by
  intro y member
  have width : xs.length - older.length = (names (x :: post)).length := by
    rw [parts]
    simp
  -- the first items of `ys` against the part carry names of the part only
  have within : names (ys.take (xs.length - older.length)) ⊆ names (x :: post) := by
    rw [names_take, width]
    rcases starts with starting | started
    · rw [← List.prefix_iff_eq_take.1 starting]
      exact List.Subset.refl _
    · exact ((List.take_sublist _ _).trans started.sublist).subset
  rw [parts, names_append] at unique
  exact fun named => (List.nodup_append.1 unique).2.2 _ (List.mem_map_of_mem member) _
    (within named) rfl

/-- Items of `xs` after a part that ends like `ys`, or that `ys` ends like, are not named like any
of the last items of `ys` set against that part. -/
theorem name_not_mem_of_ends {xs ys older newer : List α} {x : α} (unique : (names xs).Nodup)
    (parts : xs = older ++ x :: newer)
    (ends : names (older ++ [x]) <:+ names ys ∨ names ys <:+ names (older ++ [x])) :
    ∀ y ∈ newer, Named.name y ∉ names (ys.drop (ys.length - (older.length + 1))) := by
  intro y member
  have width : older.length + 1 = (names (older ++ [x])).length := by simp
  -- the last items of `ys` against the part carry names of the part only
  have within : names (ys.drop (ys.length - (older.length + 1))) ⊆ names (older ++ [x]) := by
    rw [names_drop, width, ← length_names]
    rcases ends with ending | ended
    · rw [← List.suffix_iff_eq_drop.1 ending]
      exact List.Subset.refl _
    · exact ((List.drop_sublist _ _).trans ended.sublist).subset
  have split : xs = (older ++ [x]) ++ newer := by simp [parts]
  rw [split, names_append] at unique
  exact fun named => (List.nodup_append.1 unique).2.2 _ (within named) _
    (List.mem_map_of_mem member) rfl

theorem sameNames_eq_true {xs ys : List α} : sameNames xs ys = true ↔ names xs = names ys := by
  simp [sameNames]

theorem names_infix_of_block (ys : List α) (i n : Nat) :
    names ((ys.drop i).take n) <:+: names ys :=
  ((List.take_prefix n (ys.drop i)).isInfix.trans (List.drop_suffix i ys).isInfix).map _

theorem split_at_findName {xs : List α} {n : String} {i : Nat} (found : findName xs n = some i) :
    ∃ x, xs = xs.take i ++ x :: xs.drop (i + 1) ∧ xs.take (i + 1) = xs.take i ++ [x] ∧
      Named.name x = n := by
  obtain ⟨bound, named⟩ := findName_spec found
  refine ⟨xs[i], ?_, List.take_succ_eq_append_getElem bound, named⟩
  rw [List.getElem_cons_drop, List.take_append_drop]

/-! ## The views -/

section Views

variable {src tgt : List (Option α)}

/-- `overlapTail` takes the oldest source items whose names the target holds, and accepts them
only as one block of the target. -/
theorem overlapTail_eq_ok {as bs overlap : List α}
    (fromA : consecutive src = .ok as) (fromB : consecutive tgt = .ok bs)
    (result : overlapTail src tgt = .ok overlap) :
    overlap = oldestShared as bs ∧ names overlap <:+: names bs := by
  unfold overlapTail at result
  rw [fromA, fromB] at result
  simp only [except_ok_bind] at result
  split at result
  · next empty =>
    -- with an empty side no name is shared
    cases result
    have none : oldestShared as bs = [] := by
      rcases Bool.or_eq_true_iff.1 empty with emptyA | emptyB
      · simp [List.isEmpty_iff.1 emptyA, oldestShared]
      · simp [List.isEmpty_iff.1 emptyB, oldestShared]
    exact ⟨none.symm, List.nil_infix⟩
  · obtain ⟨_, -, result⟩ := except_bind_eq_ok.1 result
    obtain ⟨_, -, result⟩ := except_bind_eq_ok.1 result
    have shared : as.takeWhile (fun x => (names bs).contains (Named.name x)) =
        oldestShared as bs := by
      simp [oldestShared]
    rw [shared] at result
    cases ov : oldestShared as bs with
    | nil =>
      simp only [ov] at result
      cases result
      exact ⟨rfl, List.nil_infix⟩
    | cons first rest =>
      simp only [ov] at result
      -- the block check passed: `first` is found in `bs` and the names from there on match
      split at result
      · next i found =>
        split at result
        · next matched =>
          cases result
          obtain ⟨-, same⟩ := Bool.and_eq_true_iff.1 matched
          rw [← sameNames_eq_true.1 same]
          exact ⟨rfl, names_infix_of_block bs i _⟩
        · cases result
      · simp at result

/-- `disjointHead` takes the source items after the one named like the target's newest, and
accepts them only if the source up to there and the target end alike. -/
theorem disjointHead_eq_ok {as bs head : List α}
    (fromA : consecutive src = .ok as) (fromB : consecutive tgt = .ok bs)
    (result : disjointHead src tgt = .ok head) :
    (names as).Nodup ∧ (names bs).Nodup ∧
      (bs = [] ∧ head = as ∨ as = [] ∧ head = [] ∨
        ∃ anchor pre x, bs.getLast? = some anchor ∧ as = pre ++ x :: head ∧
          Named.name x = Named.name anchor ∧
          (names (pre ++ [x]) <:+ names bs ∨ names bs <:+ names (pre ++ [x]))) := by
  unfold disjointHead at result
  rw [fromA, fromB] at result
  simp only [except_ok_bind] at result
  obtain ⟨⟨⟩, uniqueA, result⟩ := except_bind_eq_ok.1 result
  obtain ⟨⟨⟩, uniqueB, result⟩ := except_bind_eq_ok.1 result
  refine ⟨(checkUnique_eq_ok_iff as).1 uniqueA, (checkUnique_eq_ok_iff bs).1 uniqueB, ?_⟩
  split at result
  · next last =>
    cases result
    exact .inl ⟨List.getLast?_eq_none_iff.1 last, rfl⟩
  · next anchor last =>
    split at result
    · next empty =>
      cases result
      exact .inr (.inl ⟨List.isEmpty_iff.1 empty, List.isEmpty_iff.1 empty⟩)
    · split at result
      · cases result
      · next i found =>
        obtain ⟨x, parts, upTo, named⟩ := split_at_findName found
        -- the check compares the shorter of `as` up to the anchor and `bs` with the other's end
        split at result
        · split at result
          · next matched =>
            cases result
            refine .inr (.inr ⟨anchor, as.take i, x, last, parts, named, .inl ?_⟩)
            rw [← upTo, ← sameNames_eq_true.1 matched]
            exact (List.drop_suffix _ bs).map _
          · cases result
        · split at result
          · next matched =>
            cases result
            refine .inr (.inr ⟨anchor, as.take i, x, last, parts, named, .inr ?_⟩)
            rw [← upTo, sameNames_eq_true.1 matched]
            exact (List.drop_suffix _ _).map _
          · cases result

/-- `disjointTail` takes the source items before the one named like the target's oldest, and
accepts them only if the source from there and the target start alike. -/
theorem disjointTail_eq_ok {as bs tail : List α}
    (fromA : consecutive src.reverse = .ok as.reverse)
    (fromB : consecutive tgt.reverse = .ok bs.reverse)
    (result : disjointTail src tgt = .ok tail) :
    (names as).Nodup ∧ (names bs).Nodup ∧
      (bs = [] ∧ tail = as ∨ as = [] ∧ tail = [] ∨
        ∃ anchor x post, bs.head? = some anchor ∧ as = tail ++ x :: post ∧
          Named.name x = Named.name anchor ∧
          (names (x :: post) <+: names bs ∨ names bs <+: names (x :: post))) := by
  obtain ⟨head, reversed, rfl⟩ := except_map_eq_ok.1 result
  obtain ⟨uniqueA, uniqueB, found⟩ := disjointHead_eq_ok fromA fromB reversed
  simp only [names_reverse, List.nodup_reverse] at uniqueA uniqueB
  refine ⟨uniqueA, uniqueB, ?_⟩
  rcases found with ⟨emptyB, rfl⟩ | ⟨emptyA, rfl⟩ | ⟨anchor, pre, x, last, parts, named, ends⟩
  · exact .inl ⟨List.reverse_eq_nil_iff.1 emptyB, by simp⟩
  · exact .inr (.inl ⟨List.reverse_eq_nil_iff.1 emptyA, rfl⟩)
  · -- reading the reversed chains backwards turns their common end into a common start
    refine .inr (.inr ⟨anchor, x, pre.reverse, by simpa using last, ?_, named, ?_⟩)
    · simpa using congrArg List.reverse parts
    · have flipped : names (pre ++ [x]) = (names (x :: pre.reverse)).reverse := by simp
      rw [flipped, names_reverse, List.reverse_suffix, List.reverse_suffix] at ends
      exact ends

end Views

/-! ## Shared names -/

theorem pairUp_cons_cons {x y : α} {xs ys : List α} {m : List (Paired α)}
    (paired : pairUp (x :: xs) (y :: ys) = .ok m) : Paired.both x y ∈ m := by
  simp only [pairUp] at paired
  split at paired
  · obtain ⟨rest, -, rfl⟩ := except_map_eq_ok.1 paired
    exact List.mem_cons_self
  · cases paired

theorem EntersAt.both_mem {as bs : List α} {m : List (Paired α)} {q : Nat}
    (entering : EntersAt as bs m q) (nonempty : bs ≠ []) : ∃ x y, Paired.both x y ∈ m := by
  obtain ⟨inside, rest, paired, rfl⟩ := entering
  obtain ⟨x, xs, startsA⟩ := List.exists_cons_of_ne_nil (show as.drop q ≠ [] by simp; omega)
  obtain ⟨y, ys, rfl⟩ := List.exists_cons_of_ne_nil nonempty
  rw [startsA] at paired
  exact ⟨x, y, List.mem_append_right _ (pairUp_cons_cons paired)⟩

/-- An alignment pairs some item exactly when the chains share a name. -/
theorem align_any_isBoth_iff {as bs : List α} {m : List (Paired α)}
    (accepted : align as bs = .ok m) :
    m.any Paired.isBoth = true ↔ ∃ x ∈ as, Named.name x ∈ names bs := by
  obtain ⟨⟨s, r, sideA⟩, t, r', sideB⟩ := align_sides accepted
  constructor
  · intro paired
    obtain ⟨p, member, both⟩ := List.any_eq_true.1 paired
    cases p with
    | onlyA x => simp at both
    | onlyB y => simp at both
    | both x y =>
      have fromA : x ∈ as := (mem_of_side sideA).1 ⟨_, member, rfl⟩
      have fromB : y ∈ bs := (mem_of_side sideB).1 ⟨_, member, rfl⟩
      refine ⟨x, fromA, ?_⟩
      rw [align_agree accepted member]
      exact List.mem_map_of_mem fromB
  · rintro ⟨x, fromA, shared⟩
    have nonemptyB : bs ≠ [] := by
      rintro rfl
      simp at shared
    rcases align_cases accepted with ⟨rfl, -⟩ | ⟨rfl, -⟩ | ⟨q, entering⟩ | ⟨p, entering⟩
    · simp at fromA
    · exact absurd rfl nonemptyB
    · obtain ⟨a, b, member⟩ := entering.both_mem nonemptyB
      exact List.any_eq_true.2 ⟨_, member, rfl⟩
    · obtain ⟨b, a, member⟩ := entering.both_mem (List.ne_nil_of_mem fromA)
      obtain ⟨p, inM, swapped⟩ := List.mem_map.1 member
      -- only a pair swaps to a pair
      cases p with
      | onlyA _ => simp at swapped
      | onlyB _ => simp at swapped
      | both _ _ => exact List.any_eq_true.2 ⟨_, inM, rfl⟩

/-! ## Folding unmarked items away -/

omit [Named α] in
private theorem foldl_kept (step : Squashed α → α → Squashed α) (isMarked : α → Bool)
    (stepKept : ∀ s x, (step s x).kept = s.kept ++ if isMarked x then [x] else [])
    (xs : List α) (s : Squashed α) : (xs.foldl step s).kept = s.kept ++ xs.filter isMarked := by
  induction xs generalizing s with
  | nil => simp
  | cons x xs ih =>
    rw [List.foldl_cons, ih, stepKept, List.filter_cons]
    split <;> simp

/-- Folding keeps exactly the marked items, in order. -/
theorem squash_kept (isMarked : α → Bool) (xs : List α) :
    (squash isMarked xs).kept = xs.filter isMarked := by
  unfold squash
  rw [foldl_kept _ isMarked (fun s x => by split <;> simp_all)]
  rfl

/-- The unmarked items of `xs` right before its first marked item named `n`, back to the marked
item before that. -/
def foldedInto (isMarked : α → Bool) (xs : List α) (n : String) : List α :=
  ((xs.takeWhile fun x => !(isMarked x && Named.name x == n)).reverse.takeWhile
    fun x => !isMarked x).reverse

/-- Folding one more item: a marked one closes the run of unmarked ones before it. -/
theorem squash_append_singleton (isMarked : α → Bool) (xs : List α) (x : α) :
    squash isMarked (xs ++ [x]) =
      if isMarked x then
        { kept := (squash isMarked xs).kept ++ [x],
          intermediates :=
            if (squash isMarked xs).trailing.isEmpty then (squash isMarked xs).intermediates
            else (squash isMarked xs).intermediates.filter (·.1 != Named.name x) ++
              [(Named.name x, (squash isMarked xs).trailing)],
          trailing := [] }
      else { squash isMarked xs with trailing := (squash isMarked xs).trailing ++ [x] } := by
  simp only [squash, List.foldl_append, List.foldl_cons, List.foldl_nil]

theorem squash_trailing (isMarked : α → Bool) (xs : List α) :
    (squash isMarked xs).trailing = (xs.reverse.takeWhile fun x => !isMarked x).reverse := by
  induction xs using List.reverseRecOn with
  | nil => rfl
  | append_singleton xs x ih =>
    rw [squash_append_singleton]
    cases marked : isMarked x <;> simp [marked, ih]

theorem lookup_filter_ne {β : Type} (entries : List (String × β)) {k n : String}
    (differ : n ≠ k) : (entries.filter (·.1 != k)).lookup n = entries.lookup n := by
  induction entries with
  | nil => rfl
  | cons entry entries ih =>
    obtain ⟨key, v⟩ := entry
    by_cases same : key = k
    · subst same
      have apart : (n == key) = false := by simpa using differ
      simp [List.lookup_cons, ih, apart]
    · simp [same, List.lookup_cons, ih]

theorem squash_lookup_eq_none (isMarked : α → Bool) (xs : List α) {n : String}
    (absent : n ∉ names (xs.filter isMarked)) : (squash isMarked xs).intermediates.lookup n = none := by
  induction xs using List.reverseRecOn with
  | nil => rfl
  | append_singleton xs x ih =>
    rw [squash_append_singleton]
    simp only [List.filter_append, List.filter_singleton, names_append] at absent
    cases marked : isMarked x with
    | false =>
      simp only [marked, cond_false, names_nil, List.append_nil] at absent
      simpa [marked] using ih absent
    | true =>
      simp only [marked, cond_true] at absent
      have differ : n ≠ Named.name x := fun same => absent (by simp [same, names])
      have earlier : n ∉ names (xs.filter isMarked) := fun member =>
        absent (List.mem_append_left _ member)
      simp only [↓reduceIte]
      split
      · exact ih earlier
      · rw [List.lookup_append, lookup_filter_ne _ differ, ih earlier]
        simp [differ]

omit [Named α] in
private theorem takeWhile_append_of_stops {p : α → Bool} {xs ys : List α}
    (stops : ∃ y ∈ xs, p y = false) : (xs ++ ys).takeWhile p = xs.takeWhile p := by
  induction xs with
  | nil => simp at stops
  | cons x xs ih =>
    cases passes : p x with
    | false => simp [passes]
    | true =>
      obtain ⟨y, member, fails⟩ := stops
      have later : ∃ y ∈ xs, p y = false := by
        rcases List.mem_cons.1 member with rfl | member
        · simp [passes] at fails
        · exact ⟨y, member, fails⟩
      simp [passes, ih later]

theorem foldedInto_append_of_mem (isMarked : α → Bool) {xs ys : List α} {n : String}
    (marked : n ∈ names (xs.filter isMarked)) :
    foldedInto isMarked (xs ++ ys) n = foldedInto isMarked xs n := by
  obtain ⟨y, member, named⟩ := List.mem_map.1 marked
  have stops : ∃ y ∈ xs, (!(isMarked y && Named.name y == n)) = false :=
    ⟨y, (List.mem_filter.1 member).1, by simp [(List.mem_filter.1 member).2, named]⟩
  simp only [foldedInto, takeWhile_append_of_stops stops]

/-- Nothing before a marked item of another name folds into a later item, unless a marked item
before it already has the later one's name. -/
theorem foldedInto_append_cons (isMarked : α → Bool) {pre post : List α} {y : α} {n : String}
    (marked : isMarked y = true) (differ : Named.name y ≠ n)
    (before : ∀ x ∈ pre, isMarked x = true → Named.name x ≠ n) :
    foldedInto isMarked (pre ++ y :: post) n = foldedInto isMarked (y :: post) n := by
  have passes : ∀ x ∈ pre, (!(isMarked x && Named.name x == n)) = true := by
    intro x member
    cases markedX : isMarked x with
    | false => simp
    | true => simp [before x member markedX]
  -- the run of unmarked items folded into `n` stops at `y` at the latest
  have stops : ∃ x ∈ ((y :: post).takeWhile fun x => !(isMarked x && Named.name x == n)).reverse,
      (!isMarked x) = false := ⟨y, by simp [marked, differ], by simp [marked]⟩
  unfold foldedInto
  rw [List.takeWhile_append_of_pos passes, List.reverse_append, takeWhile_append_of_stops stops]

/-- Under folding, a marked item's entry holds the unmarked items right before it. -/
theorem squash_lookup (isMarked : α → Bool) (xs : List α) (unique : (names (xs.filter isMarked)).Nodup)
    {n : String} (marked : n ∈ names (xs.filter isMarked)) :
    ((squash isMarked xs).intermediates.lookup n).getD [] = foldedInto isMarked xs n := by
  induction xs using List.reverseRecOn with
  | nil => simp at marked
  | append_singleton xs x ih =>
    rw [squash_append_singleton]
    simp only [List.filter_append, List.filter_singleton, names_append] at unique marked
    cases isMarkedX : isMarked x with
    | false =>
      simp only [isMarkedX, cond_false, names_nil, List.append_nil] at unique marked
      simp only [Bool.false_eq_true, ↓reduceIte]
      rw [foldedInto_append_of_mem isMarked marked]
      exact ih unique marked
    | true =>
      simp only [isMarkedX, cond_true] at unique marked
      simp only [↓reduceIte]
      have uniqueXs : (names (xs.filter isMarked)).Nodup := (List.nodup_append.1 unique).1
      by_cases same : n = Named.name x
      · -- the entry of `x` is the run of unmarked items folded so far
        subst same
        have fresh : Named.name x ∉ names (xs.filter isMarked) := fun member =>
          (List.nodup_append.1 unique).2.2 _ member _ (by simp [names]) rfl
        have passes : ∀ y ∈ xs, (!(isMarked y && Named.name y == Named.name x)) = true := by
          intro y member
          cases markedY : isMarked y with
          | false => simp
          | true =>
            have named : Named.name y ∈ names (xs.filter isMarked) :=
              List.mem_map_of_mem (List.mem_filter.2 ⟨member, markedY⟩)
            have differ : Named.name y ≠ Named.name x := fun same => fresh (same ▸ named)
            simp [differ]
        have whole : foldedInto isMarked (xs ++ [x]) (Named.name x) =
            (squash isMarked xs).trailing := by
          rw [foldedInto, List.takeWhile_append_of_pos passes, squash_trailing]
          simp [isMarkedX]
        rw [whole]
        split
        · next empty =>
          simp [squash_lookup_eq_none isMarked xs fresh, List.isEmpty_iff.1 empty]
        · have gone : ((squash isMarked xs).intermediates.filter (·.1 != Named.name x)).lookup
              (Named.name x) = none := by
            simp only [List.lookup_eq_none_iff, List.mem_filter, bne_iff_ne, ne_eq]
            exact fun entry member => Ne.symm member.2
          rw [List.lookup_append, gone]
          simp
      · have earlier : n ∈ names (xs.filter isMarked) := by
          simpa [names, same] using marked
        rw [foldedInto_append_of_mem isMarked earlier]
        split
        · exact ih uniqueXs earlier
        · rw [List.lookup_append, lookup_filter_ne _ same, ← ih uniqueXs earlier]
          cases (squash isMarked xs).intermediates.lookup n with
          | none =>
            have apart : (n == Named.name x) = false := by simpa using same
            simp only [List.lookup, apart]
            rfl
          | some entry => rfl

end ZfsReplication.Chain
