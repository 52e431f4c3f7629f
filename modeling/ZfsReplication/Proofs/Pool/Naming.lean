import Mathlib
import ZfsReplication.Pool.Dataset
import ZfsReplication.Fixture
import ZfsReplication.Proofs.Chain.Align
import ZfsReplication.Proofs.Text.Digits

/-!
# Names of new snapshots

A new snapshot of a day is named by the day as `YYYYMMDD`, a sequence number with exactly
`digits` digits, and the configured suffix. The number is one past the largest that a snapshot of
the dataset already carries in a name of this form, and there is none past `10 ^ digits - 1`
(`Dataset.newSnapshotName_spec`).

Reading the number back out of a name and writing it in padded form are inverse because a digit
string of a fixed width is determined by its value (`WritesNumber.unique`), and names of one day
sort as their numbers do (`WritesNumber.lt_of_lt`). So taking snapshot after snapshot on one day
yields increasing names, none of them taken before, until the numbers run out.
-/

set_option autoImplicit false

namespace ZfsReplication

/-! ## Decimal digit strings of a fixed width -/

/-- `w` writes `n` in decimal with exactly `width` digits, leading zeros included. -/
def WritesNumber (width n : Nat) (w : List Char) : Prop :=
  w.length = width ∧ (∀ c ∈ w, c.isDigit = true) ∧ Nat.ofDigitChars 10 w 0 = n

namespace WritesNumber

variable {width n n' : Nat} {w w' : List Char}

theorem lt (writes : WritesNumber width n w) : n < 10 ^ width := by
  obtain ⟨length, digits, value⟩ := writes
  rw [← value, ← length]
  exact ofDigitChars_lt digits

theorem cons_iff {c : Char} {r : List Char} :
    WritesNumber (width + 1) n (c :: r) ↔ c.isDigit = true ∧
      ∃ m, WritesNumber width m r ∧ n = 10 ^ width * (c.toNat - '0'.toNat) + m := by
  simp only [WritesNumber, List.length_cons, Nat.add_right_cancel_iff, List.mem_cons,
    forall_eq_or_imp, ofDigitChars_cons_zero]
  constructor
  · rintro ⟨length, ⟨digit, digits⟩, value⟩
    exact ⟨digit, _, ⟨length, digits, rfl⟩, by rw [← value, length]⟩
  · rintro ⟨digit, m, ⟨length, digits, rfl⟩, rfl⟩
    exact ⟨length, ⟨digit, digits⟩, by rw [length]⟩

/-- In positional value the leading digit weighs more than everything after it. -/
theorem digit_le_of_le {k d d' m m' : Nat} (below' : m' < 10 ^ k)
    (le : 10 ^ k * d + m ≤ 10 ^ k * d' + m') : d ≤ d' := by
  by_contra more
  have heavier : 10 ^ k * (d' + 1) ≤ 10 ^ k * d := Nat.mul_le_mul_left _ (by omega)
  nlinarith

theorem char_eq_of_digit {c c' : Char} (digit : c.isDigit = true) (digit' : c'.isDigit = true)
    (same : c.toNat - '0'.toNat = c'.toNat - '0'.toNat) : c = c' := by
  have := (isDigit_iff c).1 digit
  have := (isDigit_iff c').1 digit'
  rw [toNat_zero_char] at same
  exact Char.toNat_inj.1 (by omega)

theorem char_lt_of_digit {c c' : Char} (digit : c.isDigit = true) (digit' : c'.isDigit = true)
    (less : c.toNat - '0'.toNat < c'.toNat - '0'.toNat) : c < c' := by
  have := (isDigit_iff c).1 digit
  have := (isDigit_iff c').1 digit'
  rw [toNat_zero_char] at less
  exact Char.lt_def.2 (UInt32.lt_iff_toNat_lt.2 (by simp only [Char.toNat] at *; omega))

/-- A digit string of a fixed width is determined by its value. -/
theorem unique (writes : WritesNumber width n w) (writes' : WritesNumber width n w') : w = w' := by
  induction width generalizing n w w' with
  | zero =>
    rw [List.length_eq_zero_iff.1 writes.1, List.length_eq_zero_iff.1 writes'.1]
  | succ width ih =>
    obtain ⟨c, r, rfl⟩ := List.exists_cons_of_length_eq_add_one writes.1
    obtain ⟨c', r', rfl⟩ := List.exists_cons_of_length_eq_add_one writes'.1
    obtain ⟨digit, m, rest, rfl⟩ := cons_iff.1 writes
    obtain ⟨digit', m', rest', same⟩ := cons_iff.1 writes'
    have leading := le_antisymm (digit_le_of_le rest'.lt same.le) (digit_le_of_le rest.lt same.ge)
    obtain rfl := char_eq_of_digit digit digit' leading
    obtain rfl : m = m' := by omega
    rw [ih rest rest']

/-- Digit strings of one width sort as the numbers they write. -/
theorem lt_of_lt (writes : WritesNumber width n w) (writes' : WritesNumber width n' w')
    (less : n < n') : w < w' := by
  induction width generalizing n n' w w' with
  | zero =>
    have := writes'.lt
    have := writes.lt
    simp at *
    omega
  | succ width ih =>
    obtain ⟨c, r, rfl⟩ := List.exists_cons_of_length_eq_add_one writes.1
    obtain ⟨c', r', rfl⟩ := List.exists_cons_of_length_eq_add_one writes'.1
    obtain ⟨digit, m, rest, rfl⟩ := cons_iff.1 writes
    obtain ⟨digit', m', rest', rfl⟩ := cons_iff.1 writes'
    rcases (digit_le_of_le rest'.lt less.le).lt_or_eq with leading | leading
    · exact List.cons_lt_cons_iff.2 (.inl (char_lt_of_digit digit digit' leading))
    · obtain rfl := char_eq_of_digit digit digit' leading
      exact List.cons_lt_cons_iff.2 (.inr ⟨rfl, ih rest rest' (by omega)⟩)

end WritesNumber

theorem writesNumber_padded {width n : Nat} (positive : 0 < width) (fits : n < 10 ^ width) :
    WritesNumber width n (Calendar.padded width n).toList := by
  have short : (Nat.toDigits 10 n).length ≤ width :=
    (Nat.length_toDigits_le_iff (by norm_num) positive).2 fits
  refine ⟨?_, ?_, ?_⟩
  · simp [Calendar.padded]
    omega
  · intro c member
    simp only [Calendar.padded, String.toList_ofList, List.mem_append, List.mem_replicate] at member
    rcases member with ⟨-, rfl⟩ | inDigits
    · rfl
    · exact Nat.isDigit_of_mem_toDigits (by norm_num) (by norm_num) inDigits
  · simp [Calendar.padded, Nat.ofDigitChars_append, Nat.ofDigitChars_replicate_zero,
      Nat.ofDigitChars_toDigits]

theorem writesNumber_nines (width : Nat) :
    WritesNumber width (10 ^ width - 1) (List.replicate width '9') := by
  refine ⟨List.length_replicate, fun c member => by rw [(List.mem_replicate.1 member).2]; rfl, ?_⟩
  induction width with
  | zero => rfl
  | succ width ih =>
    have positive : 1 ≤ 10 ^ width := Nat.one_le_pow _ _ (by norm_num)
    rw [List.replicate_succ', Nat.ofDigitChars_append, ih, Nat.ofDigitChars_cons,
      Nat.ofDigitChars_nil, pow_succ]
    change 10 * (10 ^ width - 1) + 9 = 10 ^ width * 10 - 1
    omega


/-! ## Sequence numbers in snapshot names -/

namespace Dataset

theorem foldl_digits_eq (number : List Char) :
    number.foldl (fun acc c => acc * 10 + (c.toNat - '0'.toNat)) 0 = Nat.ofDigitChars 10 number 0 := by
  unfold Nat.ofDigitChars
  congr 1
  funext acc c
  rw [Nat.mul_comm]

variable {day suffix name : String} {digits n : Nat}

/-- A name carries a number of the day only as the day, the number with exactly `digits` digits,
and the suffix. -/
theorem parts_of_sequenceNumber (numbered : sequenceNumber day suffix digits name = some n) :
    ∃ w, WritesNumber digits n w ∧ name = day ++ String.ofList w ++ suffix := by
  unfold sequenceNumber at numbered
  split at numbered
  · next opens =>
    obtain ⟨rest, named⟩ := List.isPrefixOf_iff_prefix.1 opens
    have dropped : name.toList.drop day.length = rest := by
      rw [← named, ← String.length_toList, List.drop_left]
    dsimp only at numbered
    rw [dropped] at numbered
    split at numbered
    · next closes =>
      obtain ⟨number, parts⟩ := List.isSuffixOf_iff_suffix.1 closes
      have taken : rest.take (rest.length - suffix.length) = number := by
        rw [← parts, ← String.length_toList]
        simp
      rw [taken] at numbered
      split at numbered
      · next checked =>
        simp only [Bool.and_eq_true, beq_iff_eq, List.all_eq_true] at checked
        refine ⟨number, ⟨checked.1.1, checked.1.2, ?_⟩, ?_⟩
        · rw [← foldl_digits_eq]
          exact Option.some.inj numbered
        · rw [String.ext_iff]
          simp [String.toList_append, ← named, ← parts]
      · cases numbered
    · cases numbered
  · cases numbered

theorem sequenceNumber_name {w : List Char} (positive : 0 < digits)
    (writes : WritesNumber digits n w) :
    sequenceNumber day suffix digits (day ++ String.ofList w ++ suffix) = some n := by
  obtain ⟨length, allDigits, rfl⟩ := writes
  have whole : (day ++ String.ofList w ++ suffix).toList = day.toList ++ (w ++ suffix.toList) := by
    simp [String.toList_append]
  have checked : (w.length == digits && w.all Char.isDigit && !w.isEmpty) = true := by
    have nonempty : w ≠ [] := by
      rintro rfl
      simp at length
      omega
    simpa [length, List.all_eq_true, nonempty] using allDigits
  unfold sequenceNumber
  rw [whole, if_pos (List.isPrefixOf_iff_prefix.2 (List.prefix_append _ _))]
  dsimp only
  rw [← String.length_toList, List.drop_left,
    if_pos (List.isSuffixOf_iff_suffix.2 (List.suffix_append _ _))]
  rw [← String.length_toList, List.length_append, Nat.add_sub_cancel, List.take_left,
    if_pos checked, foldl_digits_eq]

theorem sequenceNumber_eq_some_iff (positive : 0 < digits) :
    sequenceNumber day suffix digits name = some n ↔
      ∃ w, WritesNumber digits n w ∧ name = day ++ String.ofList w ++ suffix := by
  constructor
  · exact parts_of_sequenceNumber
  · rintro ⟨w, writes, rfl⟩
    exact sequenceNumber_name positive writes

/-- Some snapshot of the dataset is named `day`, then `n` with exactly `digits` digits, then
`suffix`. -/
def NumberedOn (d : Dataset) (day suffix : String) (digits n : Nat) : Prop :=
  ∃ w, WritesNumber digits n w ∧ day ++ String.ofList w ++ suffix ∈ d.snapshots.map (·.name)

/-- `m` is the largest number that a snapshot of the dataset carries for the day, 0 if none does. -/
def LatestNumber (d : Dataset) (day suffix : String) (digits m : Nat) : Prop :=
  (m = 0 ∨ d.NumberedOn day suffix digits m) ∧ ∀ n, d.NumberedOn day suffix digits n → n ≤ m

end Dataset

theorem Config.digits_of_validate {config : Config} (valid : config.validate = .ok ()) :
    1 ≤ config.digits ∧ config.digits ≤ 9 := by
  unfold Config.validate at valid
  obtain ⟨-, -, valid⟩ := except_bind_eq_ok.1 valid
  obtain ⟨-, -, valid⟩ := except_bind_eq_ok.1 valid
  dsimp only at valid
  -- past the two sides, the kept snapshots and then the digits are checked
  by_cases keep : config.keepSnapshots < 1
  · rw [if_pos keep] at valid
    cases valid
  · rw [if_neg keep] at valid
    by_cases outside : (decide (config.digits < 1) || decide (config.digits > 9)) = true
    · rw [if_pos outside] at valid
      cases valid
    · simp only [Bool.or_eq_true, decide_eq_true_eq, not_or] at outside
      omega

/-! ## The next name of a day -/

namespace Dataset

variable {d : Dataset} {day suffix : String} {digits m : Nat}

theorem numberedOn_iff (positive : 0 < digits) (n : Nat) :
    d.NumberedOn day suffix digits n ↔ ∃ s ∈ d.snapshots, sequenceNumber day suffix digits s.name = some n := by
  simp only [NumberedOn, List.mem_map, sequenceNumber_eq_some_iff positive]
  constructor
  · rintro ⟨w, writes, s, member, named⟩
    exact ⟨s, member, w, writes, named⟩
  · rintro ⟨s, member, w, writes, named⟩
    exact ⟨w, writes, s, member, named⟩

/-- The numbers `newSnapshotName` collects are those the dataset's snapshots carry for the day: with
at most nine digits none reaches the 64-bit bound. -/
theorem mem_dayNumbers_iff (positive : 0 < digits) (small : digits ≤ 9) (n : Nat) :
    n ∈ d.snapshots.filterMap (fun s =>
        (sequenceNumber day suffix digits s.name).filter (· < Nat.pow 2 64)) ↔
      d.NumberedOn day suffix digits n := by
  rw [numberedOn_iff positive]
  simp only [List.mem_filterMap, Option.filter_eq_some_iff, decide_eq_true_eq]
  constructor
  · rintro ⟨s, member, numbered, -⟩
    exact ⟨s, member, numbered⟩
  · rintro ⟨s, member, numbered⟩
    obtain ⟨w, writes, -⟩ := parts_of_sequenceNumber numbered
    have fits : n < Nat.pow 2 64 :=
      calc n < 10 ^ digits := writes.lt
        _ ≤ 10 ^ 9 := Nat.pow_le_pow_right (by norm_num) small
        _ < Nat.pow 2 64 := by decide
    exact ⟨s, member, numbered, fits⟩

theorem LatestNumber.lt (latest : d.LatestNumber day suffix digits m) :
    m < 10 ^ digits := by
  rcases latest.1 with rfl | ⟨w, writes, -⟩
  · exact Nat.pow_pos (by norm_num)
  · exact writes.lt

/-- Under a valid configuration the next name of the day is the day, the latest number plus one
padded to `digits`, and the suffix, unless the latest number is the largest `digits` can hold. -/
theorem newSnapshotName_eq {today : Calendar.Date} {config : Config}
    (valid : config.validate = .ok ())
    (latest : d.LatestNumber today.compact config.suffix config.digits m) :
    d.newSnapshotName today config =
      if m + 1 < 10 ^ config.digits then
        .ok (today.compact ++ Calendar.padded config.digits (m + 1) ++ config.suffix)
      else .error ⟨d.name, today.compact, 10 ^ config.digits - 1⟩ := by
  obtain ⟨positive, small⟩ := Config.digits_of_validate valid
  have fits : 10 ^ config.digits ≤ 10 ^ 9 := Nat.pow_le_pow_right (by norm_num) small
  have bound : (if config.digits < 20 then min (Nat.pow 10 config.digits) (Nat.pow 2 64 - 1)
      else Nat.pow 2 64 - 1) - 1 = 10 ^ config.digits - 1 := by
    rw [if_pos (by omega), min_eq_left (by change 10 ^ config.digits ≤ 2 ^ 64 - 1; omega)]
    rfl
  have collected : ∀ n, n ∈ d.snapshots.filterMap (fun s =>
      (sequenceNumber today.compact config.suffix config.digits s.name).filter (· < Nat.pow 2 64)) ↔
        d.NumberedOn today.compact config.suffix config.digits n :=
    mem_dayNumbers_iff positive small
  have below := latest.lt
  unfold newSnapshotName
  simp only [bound]
  cases found : (d.snapshots.filterMap fun s =>
      (sequenceNumber today.compact config.suffix config.digits s.name).filter (· < Nat.pow 2 64)).max? with
  | none =>
    -- no number of the day yet: the latest is 0 and the sequence starts at 1
    obtain rfl : m = 0 := by
      rcases latest.1 with zero | numbered
      · exact zero
      · have member := (collected m).2 numbered
        rw [List.max?_eq_none_iff.1 found] at member
        cases member
    have room : 0 + 1 < 10 ^ config.digits := by
      have := Nat.pow_le_pow_right (show 0 < 10 by norm_num) positive
      omega
    simp [room]
  | some top =>
    obtain ⟨inside, largest⟩ := List.max?_eq_some_iff.1 found
    have atLeast : m ≤ top := by
      rcases latest.1 with zero | numbered
      · omega
      · exact largest m ((collected m).2 numbered)
    obtain rfl : top = m := le_antisymm (latest.2 top ((collected top).1 inside)) atLeast
    by_cases room : top + 1 < 10 ^ config.digits
    · simp [room, show top < 10 ^ config.digits - 1 by omega]
    · simp [room, show ¬ top < 10 ^ config.digits - 1 by omega]


/-- The name of the largest number of the day is taken exactly when the latest number is the
largest `digits` can hold. -/
theorem nines_mem_iff (positive : 0 < digits) (latest : d.LatestNumber day suffix digits m) :
    day ++ String.ofList (List.replicate digits '9') ++ suffix ∈ d.snapshots.map (·.name) ↔
      10 ^ digits ≤ m + 1 := by
  have below := latest.lt
  constructor
  · intro taken
    have := latest.2 _ ⟨_, writesNumber_nines digits, taken⟩
    omega
  · intro full
    have ten : 10 ≤ 10 ^ digits := by
      simpa using Nat.pow_le_pow_right (show 0 < 10 by norm_num) positive
    rcases latest.1 with zero | ⟨w, writes, taken⟩
    · omega
    · -- the latest number is the largest, and only nines write it
      obtain rfl : m = 10 ^ digits - 1 := by omega
      rwa [writes.unique (writesNumber_nines digits)] at taken

theorem number_eq_of_name_eq {n n' : Nat} {w w' : List Char} (writes : WritesNumber digits n w)
    (writes' : WritesNumber digits n' w')
    (same : day ++ String.ofList w ++ suffix = day ++ String.ofList w' ++ suffix) : n = n' := by
  rw [String.ext_iff] at same
  simp only [String.toList_append, String.toList_ofList] at same
  have sameDigits : w = w' := List.append_cancel_left (List.append_cancel_right same)
  subst sameDigits
  exact writes.2.2.symm.trans writes'.2.2

end Dataset

/-! ## Snapshot after snapshot on one day -/

theorem append_lt_append_of_length_eq {w w' : List Char} (x y : List Char)
    (length : w.length = w'.length) (less : w < w') : w ++ x < w' ++ y := by
  induction w generalizing w' with
  | nil =>
    cases w' with
    | nil => exact absurd less (List.lt_irrefl _)
    | cons c' r' => simp at length
  | cons c r ih =>
    cases w' with
    | nil => simp at length
    | cons c' r' =>
      rcases List.cons_lt_cons_iff.1 less with first | ⟨rfl, rest⟩
      · exact List.cons_lt_cons_iff.2 (.inl first)
      · exact List.cons_lt_cons_iff.2 (.inr ⟨rfl, ih (by simpa using length) rest⟩)

theorem WritesNumber.name_lt {width n n' : Nat} {w w' : List Char} (day suffix : String)
    (writes : WritesNumber width n w) (writes' : WritesNumber width n' w') (less : n < n') :
    day ++ String.ofList w ++ suffix < day ++ String.ofList w' ++ suffix := by
  rw [String.lt_iff_toList_lt]
  simp only [String.toList_append, String.toList_ofList, List.append_assoc]
  exact List.append_left_lt (append_lt_append_of_length_eq _ _
    (writes.1.trans writes'.1.symm) (writes.lt_of_lt writes' less))

namespace Dataset

/-- The dataset once the snapshot `name` was taken of it: its newest snapshot, marked under
tagging. -/
def taken (d : Dataset) (config : Config) (name : String) : Dataset :=
  { d with snapshots := d.snapshots ++ [⟨name, d.name, d.subname,
      if config.compatibility.tagging then
        [⟨Shell.markerProperty, some (.text Shell.markerValue), some (.text "local")⟩]
      else [],
      d.side⟩] }

@[simp] theorem name_taken (d : Dataset) (config : Config) (name : String) :
    (d.taken config name).name = d.name := rfl

@[simp] theorem names_taken (d : Dataset) (config : Config) (name : String) :
    (d.taken config name).snapshots.map (·.name) = d.snapshots.map (·.name) ++ [name] := by
  simp [taken]

/-- The names of `k` snapshots taken one after another on the day `today`, each named once the
ones before it exist; the first failure ends the run. -/
def namesOfDay (d : Dataset) (today : Calendar.Date) (config : Config) :
    Nat → Except CapacityError (List String)
  | 0 => .ok []
  | k + 1 => do
    let name ← d.newSnapshotName today config
    let later ← (d.taken config name).namesOfDay today config k
    pure (name :: later)


section Steps

variable {d : Dataset} {today : Calendar.Date} {config : Config} {k : Nat}

theorem namesOfDay_succ_of_ok {name : String} (next : d.newSnapshotName today config = .ok name) :
    d.namesOfDay today config (k + 1) =
      (name :: ·) <$> (d.taken config name).namesOfDay today config k := by
  simp only [namesOfDay, next, bind, Except.bind]
  cases (d.taken config name).namesOfDay today config k <;> rfl

theorem namesOfDay_succ_of_error {e : CapacityError}
    (next : d.newSnapshotName today config = .error e) :
    d.namesOfDay today config (k + 1) = .error e := by
  simp only [namesOfDay, next, bind, Except.bind]

end Steps

variable {d : Dataset} {day suffix : String} {digits m : Nat}

theorem next_name_fresh (positive : 0 < digits) (latest : d.LatestNumber day suffix digits m)
    (room : m + 1 < 10 ^ digits) :
    day ++ Calendar.padded digits (m + 1) ++ suffix ∉ d.snapshots.map (·.name) := by
  intro taken
  have := latest.2 (m + 1) ⟨_, writesNumber_padded positive room, by rwa [String.ofList_toList]⟩
  omega

theorem latestNumber_taken (config : Config) (positive : 0 < digits)
    (latest : d.LatestNumber day suffix digits m) (room : m + 1 < 10 ^ digits) :
    (d.taken config (day ++ Calendar.padded digits (m + 1) ++ suffix)).LatestNumber day suffix
      digits (m + 1) := by
  have writes := writesNumber_padded positive room
  have named : day ++ String.ofList (Calendar.padded digits (m + 1)).toList ++ suffix =
      day ++ Calendar.padded digits (m + 1) ++ suffix := by
    rw [String.ofList_toList]
  refine ⟨.inr ⟨_, writes, by simp⟩, ?_⟩
  rintro n ⟨w, writesN, member⟩
  rw [names_taken, List.mem_append, List.mem_singleton] at member
  rcases member with old | new
  · have := latest.2 n ⟨w, writesN, old⟩
    omega
  · rw [← named] at new
    exact (number_eq_of_name_eq writesN writes new).le

/-- Snapshot after snapshot on one day: from the latest number `m`, a run of `k` snapshots gets
`k` increasing names, none taken before, each past `m`, when the numbers last; otherwise it
stops at the capacity error. -/
theorem namesOfDay_run {today : Calendar.Date} {config : Config}
    (valid : config.validate = .ok ()) (k : Nat) :
    ∀ (d : Dataset) (m : Nat), d.LatestNumber today.compact config.suffix config.digits m →
      (m + k < 10 ^ config.digits → ∃ names, d.namesOfDay today config k = .ok names ∧
        names.length = k ∧ names.Pairwise (· < ·) ∧
        ∀ n ∈ names, n ∉ d.snapshots.map (·.name) ∧ ∃ j w, m < j ∧
          WritesNumber config.digits j w ∧ n = today.compact ++ String.ofList w ++ config.suffix) ∧
      (10 ^ config.digits ≤ m + k →
        d.namesOfDay today config k = .error ⟨d.name, today.compact, 10 ^ config.digits - 1⟩) := by
  obtain ⟨positive, -⟩ := Config.digits_of_validate valid
  induction k with
  | zero =>
    intro d m latest
    have := latest.lt
    exact ⟨fun _ => ⟨[], rfl, rfl, .nil, by simp⟩, fun full => by omega⟩
  | succ k ih =>
    intro d m latest
    have next := newSnapshotName_eq valid latest
    by_cases room : m + 1 < 10 ^ config.digits
    · -- the first name is the next number; the rest of the run starts from it
      rw [if_pos room] at next
      have writes := writesNumber_padded positive room
      have first : today.compact ++ String.ofList (Calendar.padded config.digits (m + 1)).toList ++
          config.suffix = today.compact ++ Calendar.padded config.digits (m + 1) ++ config.suffix := by
        rw [String.ofList_toList]
      obtain ⟨runs, stops⟩ := ih _ (m + 1) (latestNumber_taken config positive latest room)
      constructor
      · intro fits
        obtain ⟨names, run, length, sorted, later⟩ := runs (by omega)
        refine ⟨(today.compact ++ Calendar.padded config.digits (m + 1) ++ config.suffix) :: names,
          by rw [namesOfDay_succ_of_ok next, run]; rfl,
          by simp [length], List.pairwise_cons.2 ⟨fun n member => ?_, sorted⟩, fun n member => ?_⟩
        · obtain ⟨-, j, w, above, writesJ, rfl⟩ := later n member
          rw [← first]
          exact writes.name_lt _ _ writesJ above
        · rcases List.mem_cons.1 member with rfl | member
          · exact ⟨next_name_fresh positive latest room, m + 1, _, by omega, writes, first.symm⟩
          · obtain ⟨notTaken, j, w, above, writesJ, named⟩ := later n member
            refine ⟨fun old => notTaken ?_, j, w, by omega, writesJ, named⟩
            rw [names_taken]
            exact List.mem_append_left _ old
      · intro full
        rw [namesOfDay_succ_of_ok next, stops (by omega)]
        rfl
    · -- the day is full: the first name already fails
      rw [if_neg room] at next
      exact ⟨fun fits => by omega, fun _ => namesOfDay_succ_of_error next⟩

/-- Under a valid configuration, with `m` the latest number of the day among the dataset's
snapshots: the next name fails, with the capacity error, exactly when the day's name of nines is
taken; otherwise it is the day, `m + 1` with exactly `digits` digits, and the suffix, a name no
snapshot has yet. Taking `k` snapshots one after another gets `k` strictly increasing names, none
taken before, as long as `m + k` fits in `digits` digits, and the capacity error otherwise. -/
theorem newSnapshotName_spec {today : Calendar.Date} {config : Config}
    (valid : config.validate = .ok ())
    (latest : d.LatestNumber today.compact config.suffix config.digits m) :
    (∀ e, d.newSnapshotName today config = .error e ↔
        e = ⟨d.name, today.compact, 10 ^ config.digits - 1⟩ ∧
          today.compact ++ String.ofList (List.replicate config.digits '9') ++ config.suffix ∈
            d.snapshots.map (·.name)) ∧
      (today.compact ++ String.ofList (List.replicate config.digits '9') ++ config.suffix ∉
          d.snapshots.map (·.name) →
        ∃ w, WritesNumber config.digits (m + 1) w ∧
          d.newSnapshotName today config = .ok (today.compact ++ String.ofList w ++ config.suffix) ∧
          today.compact ++ String.ofList w ++ config.suffix ∉ d.snapshots.map (·.name)) ∧
      (∀ k, m + k < 10 ^ config.digits → ∃ names, d.namesOfDay today config k = .ok names ∧
        names.length = k ∧ names.Pairwise (· < ·) ∧ ∀ n ∈ names, n ∉ d.snapshots.map (·.name)) ∧
      ∀ k, 10 ^ config.digits ≤ m + k →
        d.namesOfDay today config k = .error ⟨d.name, today.compact, 10 ^ config.digits - 1⟩ := by
  obtain ⟨positive, -⟩ := Config.digits_of_validate valid
  have next := newSnapshotName_eq valid latest
  have nines := nines_mem_iff positive latest
  refine ⟨fun e => ?_, fun free => ?_, fun k fits => ?_, fun k full => ?_⟩
  · rw [next, nines]
    by_cases room : m + 1 < 10 ^ config.digits
    · simp [room]
    · simp only [room, if_false, Except.error.injEq]
      exact ⟨fun same => ⟨same.symm, by omega⟩, fun ⟨same, _⟩ => same.symm⟩
  · have room : m + 1 < 10 ^ config.digits := by
      rw [nines] at free
      omega
    refine ⟨_, writesNumber_padded positive room, ?_, ?_⟩
    · rw [next, if_pos room, String.ofList_toList]
    · rw [String.ofList_toList]
      exact next_name_fresh positive latest room
  · obtain ⟨names, run, length, sorted, later⟩ := (namesOfDay_run valid k d m latest).1 fits
    exact ⟨names, run, length, sorted, fun n member => (later n member).1⟩
  · exact (namesOfDay_run valid k d m latest).2 full

theorem latestNumber_of_max? (positive : 0 < digits) (small : digits ≤ 9)
    (top : (d.snapshots.filterMap fun s =>
      (sequenceNumber day suffix digits s.name).filter (· < Nat.pow 2 64)).max? = some m) :
    d.LatestNumber day suffix digits m := by
  obtain ⟨inside, largest⟩ := List.max?_eq_some_iff.1 top
  exact ⟨.inr ((mem_dayNumbers_iff positive small m).1 inside),
    fun n numbered => largest n ((mem_dayNumbers_iff positive small n).2 numbered)⟩

/-- A dataset holding numbers 3 and 7 of 2026-10-19, one of the day before and one name that is no
number. -/
def namingSample : Dataset :=
  ⟨"tank/a", "a", [],
    ["2026101801", "2026101903", "2026101907", "20261019xx"].map fun name =>
      ⟨name, "tank/a", "a", [], .source⟩,
    .source⟩

theorem newSnapshotName_spec_sample :
    Fixture.config.validate = .ok () ∧
      namingSample.LatestNumber (Calendar.Date.compact ⟨2026, 10, 19⟩) Fixture.config.suffix
        Fixture.config.digits 7 ∧
      namingSample.newSnapshotName ⟨2026, 10, 19⟩ Fixture.config = .ok "2026101908" ∧
      ∃ names, namingSample.namesOfDay ⟨2026, 10, 19⟩ Fixture.config 92 = .ok names ∧
        names.length = 92 ∧ names.Pairwise (· < ·) := by
  have valid : Fixture.config.validate = .ok () := rfl
  have latest : namingSample.LatestNumber (Calendar.Date.compact ⟨2026, 10, 19⟩)
      Fixture.config.suffix Fixture.config.digits 7 :=
    latestNumber_of_max? (by decide) (by decide) (by decide)
  have spec := newSnapshotName_spec valid latest
  obtain ⟨w, writes, named, -⟩ := spec.2.1 (by decide)
  obtain ⟨names, run, length, sorted, -⟩ := spec.2.2.1 92 (by decide)
  refine ⟨valid, latest, ?_, names, run, length, sorted⟩
  rw [named, writes.unique (writesNumber_padded (by decide) (by decide))]
  rfl

end Dataset

end ZfsReplication
