import Mathlib
import ZfsReplication.Proofs.Toml.Strings
import ZfsReplication.Proofs.Text.Digits

/-!
# Reading back a written document

Integers in the signed 64-bit range and the values built from them, strings, booleans and arrays
read back as themselves when written on one line (`readValue_inline`). A document whose root holds
such entries and then tables of such entries, all under bare keys, reads back whole
(`read_write_plain_tables`): each line of an entry adds it to the current table, each header opens
a new table, and the reader's fuel, twice the length of the text, stays above the length of what is
left to read.
-/

set_option autoImplicit false

namespace ZfsReplication.Toml

/-! ## Integers -/

theorem hexValue_digit {c : Char} (digit : c.isDigit = true) :
    hexValue c = some (c.toNat - '0'.toNat) := by
  simp [hexValue, digit]

theorem radixValue_go_digits {digit : Char → Option Nat}
    (decimal : ∀ c, c.isDigit = true → digit c = some (c.toNat - '0'.toNat)) {ds : List Char}
    (digits : ∀ c ∈ ds, c.isDigit = true) (started : Bool) (acc : Nat)
    (begun : ds ≠ [] ∨ started = true) :
    radixValue.go 10 digit ds started acc = some (Nat.ofDigitChars 10 ds acc) := by
  induction ds generalizing started acc with
  | nil =>
    simp only [ne_eq, not_true_eq_false, false_or] at begun
    simp [radixValue.go, begun, Nat.ofDigitChars_nil]
  | cons c more ih =>
    have isDigit := digits c List.mem_cons_self
    have notUnderscore : c ≠ '_' := by
      rintro rfl
      simp at isDigit
    have later := ih (fun d member => digits d (List.mem_cons_of_mem c member)) true
      (acc * 10 + (c.toNat - '0'.toNat)) (.inr rfl)
    simpa [radixValue.go, notUnderscore, decimal c isDigit, Nat.ofDigitChars_cons, Nat.mul_comm]
      using later

theorem radixValue_digits {ds : List Char} (digits : ∀ c ∈ ds, c.isDigit = true)
    (nonempty : ds ≠ []) : radixValue 10 ds = some (Nat.ofDigitChars 10 ds 0) := by
  obtain ⟨c, more, rfl⟩ := List.exists_cons_of_ne_nil nonempty
  have notUnderscore : c ≠ '_' := by
    rintro rfl
    simpa using digits '_' List.mem_cons_self
  have decimal : ∀ c, c.isDigit = true →
      ((hexValue c).bind fun d => if d < 10 then some d else none) = some (c.toNat - '0'.toNat) := by
    intro c isDigit
    rw [hexValue_digit isDigit, Option.bind_some, if_pos (digit_lt_ten isDigit)]
  unfold radixValue
  split
  · next same => cases same
  · next same => exact absurd (List.cons.inj same).1 notUnderscore
  · exact radixValue_go_digits decimal digits false 0 (.inl nonempty)

theorem integerValue_digits (n : Nat) (fits : n < 2 ^ 63) :
    integerValue (Nat.toDigits 10 n) = some (n : Int) := by
  have digits : ∀ c ∈ Nat.toDigits 10 n, c.isDigit = true := fun c member =>
    Nat.isDigit_of_mem_toDigits (b := 10) (by norm_num) (by norm_num) member
  have value := Nat.ofDigitChars_ten_toDigits (n := n)
  cases written : Nat.toDigits 10 n with
  | nil => exact absurd written Nat.toDigits_ne_nil
  | cons c more =>
    rw [written] at digits value
    have isDigit := digits c List.mem_cons_self
    by_cases zero : c = '0'
    · subst zero
      cases more with
      | nil =>
        simp [integerValue, radixValue_digits digits (List.cons_ne_nil _ _), value]
        simpa using fits
      | cons d more => exact absurd written (toDigits_ne_zero_cons n d more)
    · have notSign : c ≠ '+' ∧ c ≠ '-' := by
        constructor <;> rintro rfl <;> simp at isDigit
      simp [integerValue, zero, notSign, radixValue_digits digits (List.cons_ne_nil _ _), value]
      simpa using fits

theorem integerValue_neg_digits (n : Nat) (fits : n ≤ 2 ^ 63) :
    integerValue ('-' :: Nat.toDigits 10 n) = some (-(n : Int)) := by
  have digits : ∀ c ∈ Nat.toDigits 10 n, c.isDigit = true := fun c member =>
    Nat.isDigit_of_mem_toDigits (b := 10) (by norm_num) (by norm_num) member
  have value := Nat.ofDigitChars_ten_toDigits (n := n)
  cases written : Nat.toDigits 10 n with
  | nil => exact absurd written Nat.toDigits_ne_nil
  | cons c more =>
    rw [written] at digits value
    have read := radixValue_digits digits (List.cons_ne_nil _ _)
    by_cases zero : c = '0'
    · subst zero
      cases more with
      | nil =>
        simp [integerValue, read, value]
        omega
      | cons d more => exact absurd written (toDigits_ne_zero_cons n d more)
    · simp [integerValue, zero, read, value]
      omega

theorem integerValue_toString {i : Int} (low : -(2 ^ 63) ≤ i) (high : i < 2 ^ 63) :
    integerValue (toString i).toList = some i := by
  rw [Int.toString_eq_repr, Int.repr_eq_if]
  split
  · next nonneg =>
    rw [Nat.toList_repr, integerValue_digits _ (by omega), Int.toNat_of_nonneg nonneg]
  · next negative =>
    have text : ("-" ++ (-i).toNat.repr).toList = '-' :: Nat.toDigits 10 (-i).toNat := by simp
    rw [text, integerValue_neg_digits _ (by omega)]
    simp
    omega

theorem toString_front (i : Int) :
    ∃ c more, (toString i).toList = c :: more ∧ (c.isDigit = true ∨ c = '-') := by
  rw [Int.toString_eq_repr, Int.repr_eq_if]
  split
  · obtain ⟨c, more, written⟩ :=
      List.exists_cons_of_ne_nil (Nat.toDigits_ne_nil (n := i.toNat) (b := 10))
    refine ⟨c, more, by rw [Nat.toList_repr, written], .inl ?_⟩
    exact Nat.isDigit_of_mem_toDigits (b := 10) (n := i.toNat) (by norm_num) (by norm_num)
      (by rw [written]; exact List.mem_cons_self)
  · exact ⟨'-', Nat.toDigits 10 (-i).toNat, by simp, .inr rfl⟩

theorem isNumberChar_toString (i : Int) : ∀ c ∈ (toString i).toList, isNumberChar c = true := by
  rw [Int.toString_eq_repr, Int.repr_eq_if]
  have digits : ∀ n, ∀ c ∈ Nat.toDigits 10 n, isNumberChar c = true := by
    intro n c member
    have digit := Nat.isDigit_of_mem_toDigits (b := 10) (n := n) (by norm_num) (by norm_num) member
    simp [isNumberChar, Char.isAlphanum, digit]
  split
  · simpa using digits i.toNat
  · simpa [isNumberChar] using digits (-i).toNat

theorem readValue_number (fuel : Nat) {c : Char} (more : List Char) (front : c.isDigit = true ∨ c = '-') :
    readValue (fuel + 1) (c :: more) =
      (integerValue ((c :: more).takeWhile isNumberChar)).map
        fun i => (.int i, (c :: more).dropWhile isNumberChar) := by
  -- a digit or a minus sign opens no string, array, inline table or boolean
  have other : c ≠ '"' ∧ c ≠ '\'' ∧ c ≠ '[' ∧ c ≠ '{' ∧ c ≠ 't' ∧ c ≠ 'f' := by
    rcases front with digit | rfl
    · refine ⟨?_, ?_, ?_, ?_, ?_, ?_⟩ <;> (rintro rfl; simp at digit)
    · decide
  obtain ⟨quote, apostrophe, bracket, brace, t, f⟩ := other
  simp [readValue, quote, apostrophe, bracket, brace, t, f]

theorem readValue_int {i : Int} (low : -(2 ^ 63) ≤ i) (high : i < 2 ^ 63) (fuel : Nat)
    {rest : List Char} (stop : ∀ c ∈ rest.head?, isNumberChar c = false) :
    readValue (fuel + 1) ((toString i).toList ++ rest) = some (.int i, rest) := by
  obtain ⟨c, more, written, front⟩ := toString_front i
  obtain ⟨token, after⟩ := span_append (isNumberChar_toString i) stop
  rw [written] at token after ⊢
  rw [List.cons_append, readValue_number fuel _ front, ← List.cons_append, token, after, ← written,
    integerValue_toString low high]
  rfl

/-! ## Values on one line -/

/-- The values written on one line: strings, integers in the signed 64-bit range, booleans, and
arrays of such values. -/
inductive Inline : Value → Prop
  | str (s : String) : Inline (.str s)
  | int {i : Int} (low : -(2 ^ 63) ≤ i) (high : i < 2 ^ 63) : Inline (.int i)
  | bool (b : Bool) : Inline (.bool b)
  | arr {items : List Value} (each : ∀ v ∈ items, Inline v) : Inline (.arr items)

/-- What may follow a value: the end of its line, a comma or the end of an array. -/
def EndsValue (rest : List Char) : Prop := ∀ c ∈ rest.head?, c = '\n' ∨ c = ',' ∨ c = ']'

/-- A character that can start a written value; none of them is blank, starts a comment or ends
an array. -/
def StartsValue (c : Char) : Prop :=
  c = '"' ∨ c = '\'' ∨ c = '[' ∨ c = 't' ∨ c = 'f' ∨ c = '-' ∨ c.isDigit = true

theorem StartsValue.not_gap {c : Char} (starts : StartsValue c) :
    c ≠ ' ' ∧ c ≠ '\t' ∧ c ≠ '\n' ∧ c ≠ '\r' ∧ c ≠ '#' ∧ c ≠ ']' := by
  rcases starts with rfl | rfl | rfl | rfl | rfl | rfl | digit
  any_goals decide
  refine ⟨?_, ?_, ?_, ?_, ?_, ?_⟩ <;> (rintro rfl; simp at digit)

theorem quote_front (s : String) : ∃ c more, (quote s).toList = c :: more ∧ StartsValue c := by
  unfold quote
  dsimp only
  split
  · exact ⟨'"', _, by simp; rfl, .inl rfl⟩
  · exact ⟨'\'', _, by simp; rfl, .inr (.inl rfl)⟩
  · exact ⟨'"', _, by simp [tripleDouble]; rfl, .inl rfl⟩
  · exact ⟨'\'', _, by simp [tripleSingle]; rfl, .inr (.inl rfl)⟩

theorem Inline.front {v : Value} (inline : Inline v) :
    ∃ c more, (writeInline v).toList = c :: more ∧ StartsValue c := by
  cases inline with
  | str s => simpa [writeInline] using quote_front s
  | int low high =>
    obtain ⟨c, more, written, front⟩ := toString_front _
    refine ⟨c, more, by simpa [writeInline] using written, ?_⟩
    rcases front with digit | rfl
    · exact .inr (.inr (.inr (.inr (.inr (.inr digit)))))
    · exact .inr (.inr (.inr (.inr (.inr (.inl rfl)))))
  | bool b =>
    cases b
    · exact ⟨'f', _, by simp [writeInline]; rfl, .inr (.inr (.inr (.inr (.inl rfl))))⟩
    · exact ⟨'t', _, by simp [writeInline]; rfl, .inr (.inr (.inr (.inl rfl)))⟩
  | arr each => exact ⟨'[', _, by simp [writeInline]; rfl, .inr (.inr (.inl rfl))⟩

theorem skipGaps_of_front {cs : List Char}
    (front : ∀ c ∈ cs.head?, c ≠ ' ' ∧ c ≠ '\t' ∧ c ≠ '\n' ∧ c ≠ '\r' ∧ c ≠ '#') :
    skipGaps cs = some cs := by
  cases cs with
  | nil => simp [skipGaps]
  | cons c more =>
    obtain ⟨space, tab, newline, return', hash⟩ := front c rfl
    simp [skipGaps, space, tab, newline, return', hash]

theorem readArray_space (fuel : Nat) (acc : List Value) (cs : List Char) :
    readArray fuel acc (' ' :: cs) = readArray fuel acc cs := by
  cases fuel with
  | zero => simp [readArray]
  | succ f => simp [readArray, skipGaps]

theorem readArray_items {items : List Value}
    (each : ∀ v ∈ items, ∀ fuel rest, (writeInline v).length < fuel → EndsValue rest →
      readValue fuel ((writeInline v).toList ++ rest) = some (v, rest))
    (inline : ∀ v ∈ items, Inline v) (fuel : Nat) (acc : List Value) (rest : List Char)
    (enough : (writeItems items).length + 1 < fuel) :
    readArray fuel acc ((writeItems items).toList ++ ']' :: rest) =
      some (.arr (acc.reverse ++ items), rest) := by
  obtain ⟨f, rfl⟩ : ∃ f, fuel = f + 1 := ⟨fuel - 1, by omega⟩
  induction items generalizing f acc with
  | nil => simp [writeItems, readArray, skipGaps]
  | cons v more ih =>
    obtain ⟨c, text, written, front⟩ := (inline v List.mem_cons_self).front
    obtain ⟨space, tab, newline, return', hash, bracket⟩ := front.not_gap
    have gaps : ∀ after, skipGaps (c :: after) = some (c :: after) := fun after =>
      skipGaps_of_front (by simp [space, tab, newline, return', hash])
    have readItem := each v List.mem_cons_self f
    rw [written] at readItem
    cases more with
    | nil =>
      -- the last item, then the closing bracket
      have item := readItem (']' :: rest) (by simp [writeItems] at enough; omega) (by simp [EndsValue])
      simp only [writeItems, written, List.cons_append] at item ⊢
      rw [readArray]
      simp [gaps, bracket, item, skipGaps]
    | cons w more =>
      -- an item, a comma and a space, then the other items
      have lengths : (writeItems (v :: w :: more)).length =
          (writeInline v).length + 2 + (writeItems (w :: more)).length := by
        have commaLength : ", ".length = 2 := by decide
        simp [writeItems, commaLength]
      obtain ⟨g, rfl⟩ : ∃ g, f = g + 1 := ⟨f - 1, by omega⟩
      have item := readItem (',' :: ' ' :: ((writeItems (w :: more)).toList ++ ']' :: rest))
        (by omega) (by simp [EndsValue])
      have later := ih (fun u member => each u (List.mem_cons_of_mem v member))
        (fun u member => inline u (List.mem_cons_of_mem v member)) (v :: acc) g (by omega)
      simp only [List.cons_append] at item
      have text' : (writeItems (v :: w :: more)).toList ++ ']' :: rest =
          c :: (text ++ ',' :: ' ' :: ((writeItems (w :: more)).toList ++ ']' :: rest)) := by
        simp [writeItems, written]
      have first : readArray (g + 1 + 1) acc
          (c :: (text ++ ',' :: ' ' :: ((writeItems (w :: more)).toList ++ ']' :: rest))) =
          readArray (g + 1) (v :: acc) (' ' :: ((writeItems (w :: more)).toList ++ ']' :: rest)) := by
        rw [readArray]
        simp [gaps, bracket, item, skipGaps]
      rw [text', first, readArray_space, later]
      simp

/-- A value written on one line reads back as itself, when it is followed by the end of its line,
a comma or the end of an array. -/
theorem readValue_inline {v : Value} (inline : Inline v) (fuel : Nat) (rest : List Char)
    (enough : (writeInline v).length < fuel) (ends : EndsValue rest) :
    readValue fuel ((writeInline v).toList ++ rest) = some (v, rest) := by
  -- on the structure of the value; an array reads its items by the reader of values
  induction inline generalizing fuel rest with
  | str s =>
    refine readValue_quote s fuel rest enough fun c first => ?_
    rcases ends c first with rfl | rfl | rfl <;> decide
  | int low high =>
    obtain ⟨f, rfl⟩ : ∃ f, fuel = f + 1 := ⟨fuel - 1, by omega⟩
    refine readValue_int low high f fun c first => ?_
    rcases ends c first with rfl | rfl | rfl <;> decide
  | bool b =>
    obtain ⟨f, rfl⟩ : ∃ f, fuel = f + 1 := ⟨fuel - 1, by omega⟩
    cases b <;> simp [writeInline, readValue]
  | arr each ih =>
    obtain ⟨f, rfl⟩ : ∃ f, fuel = f + 1 := ⟨fuel - 1, by omega⟩
    have bracketLength : "[".length = 1 := by decide
    have closeLength : "]".length = 1 := by decide
    simp only [writeInline, String.length_append, bracketLength, closeLength] at enough
    have items := readArray_items (fun v member fuel rest enough ends => ih v member fuel rest enough ends)
      each f [] rest (by omega)
    simpa [writeInline, readValue] using items

/-! ## Keys -/

/-- A key that is written bare: not empty, and of letters, digits, `_` and `-` only. -/
def Bare (k : String) : Prop := k.toList ≠ [] ∧ ∀ c ∈ k.toList, isBareKeyChar c = true

instance (k : String) : Decidable (Bare k) := inferInstanceAs (Decidable (_ ∧ _))

theorem Bare.ne_empty {k : String} (bare : Bare k) : k ≠ "" := by
  rintro rfl
  exact bare.1 rfl

theorem writeKey_bare {k : String} (bare : Bare k) : writeKey k = k := by
  have nonempty : k.isEmpty = false := String.isEmpty_eq_false_iff.2 bare.ne_empty
  simp [writeKey, nonempty, List.all_eq_true.2 bare.2]

theorem Bare.front {k : String} (bare : Bare k) :
    ∃ c more, k.toList = c :: more ∧ c ≠ '"' ∧ c ≠ '\'' ∧ c ≠ ' ' ∧ c ≠ '\t' ∧ c ≠ '\n' ∧
      c ≠ '\r' ∧ c ≠ '#' ∧ c ≠ '[' := by
  obtain ⟨c, more, written⟩ := List.exists_cons_of_ne_nil bare.1
  have isBare := bare.2 c (by simp [written])
  refine ⟨c, more, written, ?_⟩
  refine ⟨?_, ?_, ?_, ?_, ?_, ?_, ?_, ?_⟩ <;> (rintro rfl; simp [isBareKeyChar] at isBare)

theorem readKey_bare {k : String} (bare : Bare k) (fuel : Nat) (rest : List Char)
    (stop : ∀ c ∈ rest.head?, isBareKeyChar c = false)
    (undotted : ∀ c ∈ (skipSpace rest).head?, c ≠ '.') :
    readKey (fuel + 1) (k.toList ++ rest) = some ([k], rest) := by
  obtain ⟨c, more, written, quote, single, -⟩ := bare.front
  obtain ⟨token, after⟩ := span_append bare.2 stop
  have simple : readSimpleKey fuel (k.toList ++ rest) = some (k, rest) := by
    rw [written, List.cons_append] at token after ⊢
    unfold readSimpleKey
    split
    · next same => exact absurd (List.cons.inj same).1 quote
    · next same => exact absurd (List.cons.inj same).1 single
    · rw [token, after]
      simp [← written, bare.ne_empty]
  cases skip : skipSpace rest with
  | nil => simp [readKey, simple, skip]
  | cons d more' =>
    have notDot : d ≠ '.' := undotted d (by simp [skip])
    simp [readKey, simple, skip, notDot]

/-! ## Lines -/

@[simp] theorem skipSpace_nil : skipSpace [] = [] := rfl

@[simp] theorem skipSpace_cons (c : Char) (cs : List Char) :
    skipSpace (c :: cs) = if isSpace c then skipSpace cs else c :: cs := by
  simp only [skipSpace, List.dropWhile_cons]

theorem skipSpace_inline {v : Value} (inline : Inline v) (rest : List Char) :
    skipSpace ((writeInline v).toList ++ rest) = (writeInline v).toList ++ rest := by
  obtain ⟨c, more, written, front⟩ := inline.front
  obtain ⟨space, tab, -⟩ := front.not_gap
  simp [written, isSpace, space, tab]

/-- The line that writes one entry of a table. -/
def entryLine (e : String × Value) : String := writeKey e.1 ++ " = " ++ writeInline e.2 ++ "\n"

theorem readLines_entryLine {k : String} {v : Value} (bare : Bare k) (inline : Inline v)
    (fuel : Nat) (root : List (String × Node)) (current : List String) (rest : List Char)
    (enough : (writeInline v).length < fuel) :
    readLines (fuel + 1) root current ((entryLine (k, v)).toList ++ rest) =
      (atTable (insertKey v [k] true) current root).bind fun root' =>
        readLines fuel root' current rest := by
  obtain ⟨g, rfl⟩ : ∃ g, fuel = g + 1 := ⟨fuel - 1, by omega⟩
  obtain ⟨c, more, written, -, -, space, tab, newline, return', hash, bracket⟩ := bare.front
  have key := readKey_bare bare g
    (' ' :: '=' :: ' ' :: ((writeInline v).toList ++ '\n' :: rest)) (by simp; decide)
    (by simp [isSpace])
  have value := readValue_inline inline (g + 1) ('\n' :: rest) enough (by simp [EndsValue])
  rw [written, List.cons_append] at key
  have text : (entryLine (k, v)).toList ++ rest =
      c :: (more ++ ' ' :: '=' :: ' ' :: ((writeInline v).toList ++ '\n' :: rest)) := by
    simp [entryLine, writeKey_bare bare, written]
  rw [text, readLines]
  simp [isSpace, space, tab, newline, return', hash, bracket, key, skipSpace_inline inline, value,
    lineEnd]

theorem readLines_header {t : String} (bare : Bare t) (fuel : Nat) (root : List (String × Node))
    (current : List String) (rest : List Char) :
    readLines (fuel + 1 + 1) root current (("[" ++ writeKey t ++ "]\n").toList ++ rest) =
      (openHeader false [t] root).bind fun root' => readLines (fuel + 1) root' [t] rest := by
  obtain ⟨c, more, written, -, -, space, tab, -, -, -, bracket⟩ := bare.front
  have key := readKey_bare bare fuel (']' :: '\n' :: rest) (by simp; decide)
    (by simp [isSpace])
  rw [written, List.cons_append] at key
  have text : ("[" ++ writeKey t ++ "]\n").toList ++ rest = '[' :: c :: (more ++ ']' :: '\n' :: rest) := by
    simp [writeKey_bare bare, written]
  rw [text, readLines]
  simp [isSpace, space, tab, bracket, key, lineEnd]

theorem readLines_newline (fuel : Nat) (root : List (String × Node)) (current : List String)
    (rest : List Char) :
    readLines (fuel + 1) root current ('\n' :: rest) = readLines fuel root current rest := by
  rw [readLines]
  simp [isSpace]

theorem readLines_nil (fuel : Nat) (root : List (String × Node)) (current : List String) :
    readLines (fuel + 1) root current [] = some root := by
  simp [readLines]

/-! ## Tables -/

/-- Entries as the nodes of values given with `=`. -/
def Node.ofValues (entries : List (String × Value)) : List (String × Node) :=
  entries.map fun e => (e.1, .value e.2)

@[simp] theorem Node.ofValues_nil : Node.ofValues [] = [] := rfl

@[simp] theorem Node.ofValues_cons (e : String × Value) (entries : List (String × Value)) :
    Node.ofValues (e :: entries) = (e.1, .value e.2) :: Node.ofValues entries := rfl

@[simp] theorem Node.entriesToValue_append (a b : List (String × Node)) :
    Node.entriesToValue (a ++ b) = Node.entriesToValue a ++ Node.entriesToValue b := by
  induction a with
  | nil => simp [Node.entriesToValue]
  | cons e more ih => simp [Node.entriesToValue, ih]

@[simp] theorem Node.entriesToValue_ofValues (entries : List (String × Value)) :
    Node.entriesToValue (Node.ofValues entries) = entries := by
  induction entries with
  | nil => simp [Node.entriesToValue]
  | cons e more ih => simp [Node.entriesToValue, Node.toValue, ih]

section Fresh

variable {k : String} {entries : List (String × Node)}

theorem lookup_of_fresh {α : Type} {entries : List (String × α)} (fresh : k ∉ entries.map (·.1)) :
    entries.lookup k = none := by
  simp only [List.lookup_eq_none_iff]
  intro e member
  have other : k ≠ e.1 := fun same => fresh (List.mem_map.2 ⟨e, member, same.symm⟩)
  simpa using other

theorem setEntry_fresh (fresh : k ∉ entries.map (·.1)) (n : Node) :
    setEntry entries k n = entries ++ [(k, n)] := by
  have absent : entries.any (·.1 == k) = false := by
    simpa using fun e member same => fresh (List.mem_map.2 ⟨e, member, same⟩)
  simp [setEntry, absent]

theorem setEntry_last (fresh : k ∉ entries.map (·.1)) (n n' : Node) :
    setEntry (entries ++ [(k, n)]) k n' = entries ++ [(k, n')] := by
  have others : ∀ e ∈ entries, e.1 ≠ k := fun e member same =>
    fresh (List.mem_map.2 ⟨e, member, same⟩)
  have kept : (entries.map fun e => if e.1 = k then (k, n') else e) = entries := by
    rw [List.map_congr_left (g := id) (fun e member => by simp [others e member]), List.map_id]
  simp [setEntry, kept]

theorem insertKey_fresh (fresh : k ∉ entries.map (·.1)) (v : Value) :
    insertKey v [k] true entries = some (entries ++ [(k, .value v)]) := by
  simp [insertKey, lookup_of_fresh fresh]

theorem openHeader_fresh (fresh : k ∉ entries.map (·.1)) :
    openHeader false [k] entries = some (entries ++ [(k, .table false false [])]) := by
  simp [openHeader, lookup_of_fresh fresh, setEntry_fresh fresh]

theorem atTable_last (fresh : k ∉ entries.map (·.1))
    (f : List (String × Node) → Option (List (String × Node))) (i d : Bool)
    (sub : List (String × Node)) :
    atTable f [k] (entries ++ [(k, .table i d sub)]) =
      (f sub).map fun sub' => entries ++ [(k, .table i d sub')] := by
  simp [atTable, List.lookup_append, lookup_of_fresh fresh, setEntry_last fresh]

/-- Keys that no entry holds stay fresh once the first of them is added, when none repeats. -/
theorem fresh_after_first {β : Type} {e : String × β} {more : List (String × β)}
    (distinct : ((e :: more).map (·.1)).Nodup) (fresh : ∀ x ∈ e :: more, x.1 ∉ entries.map (·.1))
    (n : Node) : ∀ x ∈ more, x.1 ∉ (entries ++ [(e.1, n)]).map (·.1) := by
  intro x member
  have other : x.1 ≠ e.1 := fun same =>
    (List.nodup_cons.1 distinct).1 (List.mem_map.2 ⟨x, member, same⟩)
  simpa [other] using fresh x (List.mem_cons_of_mem _ member)

end Fresh

/-! ## Documents -/

/-- Entries that a document writes one line each: bare keys, no key twice, values on one line. -/
structure Flat (entries : List (String × Value)) : Prop where
  bare : ∀ e ∈ entries, Bare e.1
  inline : ∀ e ∈ entries, Inline e.2
  distinct : (entries.map (·.1)).Nodup

theorem Flat.tail {e : String × Value} {more : List (String × Value)} (flat : Flat (e :: more)) :
    Flat more where
  bare e' member := flat.bare e' (List.mem_cons_of_mem e member)
  inline e' member := flat.inline e' (List.mem_cons_of_mem e member)
  distinct := (List.nodup_cons.1 flat.distinct).2

theorem length_entryLine (e : String × Value) :
    (entryLine e).length = (writeKey e.1).length + 3 + (writeInline e.2).length + 1 := by
  have equalsLength : " = ".length = 3 := by decide
  have newlineLength : "\n".length = 1 := by decide
  simp [entryLine, equalsLength, newlineLength]

/-- The lines of entries new to the current table add them to it, one line at a time; `place`
says where the current table sits in the root. -/
theorem readLines_entryLines {current : List String}
    {place : List (String × Node) → List (String × Node)}
    (inserts : ∀ sub k v, atTable (insertKey v [k] true) current (place sub) =
      (insertKey v [k] true sub).map place)
    {entries : List (String × Value)} (flat : Flat entries) (sub : List (String × Node))
    (fresh : ∀ e ∈ entries, e.1 ∉ sub.map (·.1)) (fuel : Nat) (rest : List Char)
    (enough : (String.join (entries.map entryLine)).length + rest.length < fuel) :
    ∃ fuel', rest.length < fuel' ∧
      readLines fuel (place sub) current ((String.join (entries.map entryLine)).toList ++ rest) =
        readLines fuel' (place (sub ++ Node.ofValues entries)) current rest := by
  -- one line per entry; the fuel stays above the length of what is left to read
  induction entries generalizing sub fuel with
  | nil => exact ⟨fuel, by simpa using enough, by simp⟩
  | cons e more ih =>
    obtain ⟨k, v⟩ := e
    obtain ⟨f, rfl⟩ : ∃ f, fuel = f + 1 := ⟨fuel - 1, by omega⟩
    have lineLength : (entryLine (k, v)).length =
        (writeKey k).length + 3 + (writeInline v).length + 1 := length_entryLine (k, v)
    simp only [List.map_cons, String.join_cons, String.length_append] at enough
    obtain ⟨fuel', enough', later⟩ := ih flat.tail (sub ++ [(k, Node.value v)])
      (fresh_after_first flat.distinct fresh (.value v)) f (by omega)
    refine ⟨fuel', enough', ?_⟩
    have first := readLines_entryLine (flat.bare _ List.mem_cons_self)
      (flat.inline _ List.mem_cons_self) f (place sub) current
      ((String.join (more.map entryLine)).toList ++ rest) (show (writeInline v).length < f by omega)
    rw [List.map_cons, String.join_cons, String.toList_append, List.append_assoc, first, inserts,
      insertKey_fresh (fresh _ List.mem_cons_self)]
    simpa using later

/-- The section of a table: a blank line, the table's header and the lines of its entries. -/
def tableSection (t : String × List (String × Value)) : String :=
  "\n" ++ ("[" ++ writeKey t.1 ++ "]\n" ++ String.join (t.2.map entryLine))

theorem writeValueLines_false (entries : List (String × Value)) :
    writeValueLines false entries = String.join (entries.map entryLine) := by
  simp [writeValueLines]
  rfl

theorem writeValueLines_inline {entries : List (String × Value)} (inline : ∀ e ∈ entries, Inline e.2) :
    writeValueLines true entries = String.join (entries.map entryLine) := by
  induction entries with
  | nil => simp [writeValueLines]
  | cons e more ih =>
    obtain ⟨k, v⟩ := e
    have rest := ih fun e member => inline e (List.mem_cons_of_mem _ member)
    simp only [writeValueLines] at rest ⊢
    cases inline _ List.mem_cons_self <;> simp [rest, entryLine]

theorem writeValueLines_tables (tables : List (String × List (String × Value))) :
    writeValueLines true (tables.map fun t => (t.1, .table t.2)) = "" := by
  simp [writeValueLines, List.filterMap_map]

theorem foldl_joinSections (sections : List String) {acc : String} (started : acc ≠ "") :
    sections.foldl (fun acc s => if acc.isEmpty then s else acc ++ "\n" ++ s) acc =
      acc ++ String.join (sections.map ("\n" ++ ·)) := by
  induction sections generalizing acc with
  | nil => simp
  | cons s more ih =>
    have notEmpty : acc.isEmpty = false := String.isEmpty_eq_false_iff.2 started
    have next : acc ++ "\n" ++ s ≠ "" := by simp [started]
    rw [List.foldl_cons, if_neg (by simp [notEmpty]), ih next]
    simp [String.append_assoc]

/-- A document of plain entries and tables is written as the lines of its plain entries, then one
section per table. -/
theorem write_plain_tables {plain : List (String × Value)}
    (inline : ∀ e ∈ plain, Inline e.2) (nonempty : plain ≠ [])
    (tables : List (String × List (String × Value))) :
    write (plain ++ tables.map fun t => (t.1, .table t.2)) =
      String.join (plain.map entryLine) ++ String.join (tables.map tableSection) := by
  have head : writeValueLines true (plain ++ tables.map fun t => (t.1, .table t.2)) =
      String.join (plain.map entryLine) := by
    rw [writeValueLines, List.filterMap_append, String.join_append, ← writeValueLines,
      ← writeValueLines, writeValueLines_inline inline, writeValueLines_tables, String.append_empty]
  have started : String.join (plain.map entryLine) ≠ "" := by
    obtain ⟨e, more, rfl⟩ := List.exists_cons_of_ne_nil nonempty
    simp [entryLine]
  unfold write
  simp only
  rw [head, foldl_joinSections _ started, List.filterMap_append, List.filterMap_map]
  simp only [List.map_append, String.join_append]
  rw [List.filterMap_eq_nil_iff.2 fun e member => ?_]
  · simp [Function.comp_def, writeValueLines_false]
    rfl
  · obtain ⟨k, v⟩ := e
    have value : Inline v := inline _ member
    cases value <;> rfl

/-- The node of a table defined by its header and filled by the lines of its entries. -/
def tableNode (t : String × List (String × Value)) : String × Node :=
  (t.1, .table false false (Node.ofValues t.2))

theorem length_tableSection (t : String × List (String × Value)) :
    (tableSection t).length = (writeKey t.1).length + 4 + (String.join (t.2.map entryLine)).length := by
  have newlineLength : "\n".length = 1 := by decide
  have openLength : "[".length = 1 := by decide
  have closeLength : "]\n".length = 2 := by decide
  simp only [tableSection, String.length_append, newlineLength, openLength, closeLength]
  omega

theorem readLines_sections {tables : List (String × List (String × Value))}
    (flat : ∀ t ∈ tables, Flat t.2) (bare : ∀ t ∈ tables, Bare t.1)
    (distinct : (tables.map (·.1)).Nodup) (root : List (String × Node))
    (fresh : ∀ t ∈ tables, t.1 ∉ root.map (·.1)) (current : List String) (fuel : Nat)
    (enough : (String.join (tables.map tableSection)).length < fuel) :
    readLines fuel root current (String.join (tables.map tableSection)).toList =
      some (root ++ tables.map tableNode) := by
  -- one section per table: a blank line, the header, then the lines of the table's entries
  induction tables generalizing root current fuel with
  | nil =>
    obtain ⟨f, rfl⟩ : ∃ f, fuel = f + 1 := ⟨fuel - 1, by omega⟩
    simp [readLines_nil]
  | cons t more ih =>
    obtain ⟨name, entries⟩ := t
    have sectionLength := length_tableSection (name, entries)
    simp only [List.map_cons, String.join_cons, String.length_append] at enough
    obtain ⟨f, rfl⟩ : ∃ f, fuel = f + 1 + 1 + 1 := ⟨fuel - 3, by omega⟩
    have nameFresh : name ∉ root.map (·.1) := fresh _ List.mem_cons_self
    let place := fun sub => root ++ [(name, Node.table false false sub)]
    have inserts : ∀ sub k v, atTable (insertKey v [k] true) [name] (place sub) =
        (insertKey v [k] true sub).map place := fun sub k v =>
      atTable_last nameFresh _ false false sub
    obtain ⟨fuel', enough', lines⟩ := readLines_entryLines inserts (flat _ List.mem_cons_self) []
      (by simp) (f + 1) (String.join (more.map tableSection)).toList
      (by rw [String.length_toList]; omega)
    have others := fresh_after_first distinct fresh (tableNode (name, entries)).2
    have later := ih (fun t member => flat t (List.mem_cons_of_mem _ member))
      (fun t member => bare t (List.mem_cons_of_mem _ member)) (List.nodup_cons.1 distinct).2
      (root ++ [tableNode (name, entries)]) others [name] fuel'
      (by simpa only [String.length_toList] using enough')
    have text : (String.join (((name, entries) :: more).map tableSection)).toList =
        '\n' :: (("[" ++ writeKey name ++ "]\n").toList ++
          ((String.join (entries.map entryLine)).toList ++
            (String.join (more.map tableSection)).toList)) := by
      simp [tableSection]
    rw [text, readLines_newline, readLines_header (bare _ List.mem_cons_self), openHeader_fresh nameFresh,
      Option.bind_some]
    refine lines.trans (later.trans ?_)
    simp

theorem Node.entriesToValue_tableNodes (tables : List (String × List (String × Value))) :
    Node.entriesToValue (tables.map tableNode) = tables.map fun t => (t.1, .table t.2) := by
  induction tables with
  | nil => simp [Node.entriesToValue]
  | cons t more ih => simp [Node.entriesToValue, Node.toValue, tableNode, ih]

theorem read_unmarked {text : String} (unmarked : ∀ c ∈ text.toList.head?, c ≠ '\uFEFF') :
    read text = (readLines (2 * text.length + 8) [] [] text.toList).map Node.entriesToValue := by
  unfold read
  split
  · next rest marked => simp [marked] at unmarked
  · simp only [String.length_toList]

/-- A document of plain entries and then tables, every entry written on a line of its own, reads
back as itself. -/
theorem read_write_plain_tables {plain : List (String × Value)}
    {tables : List (String × List (String × Value))} (plainFlat : Flat plain) (nonempty : plain ≠ [])
    (tablesFlat : ∀ t ∈ tables, Flat t.2) (tablesBare : ∀ t ∈ tables, Bare t.1)
    (distinct : (plain.map (·.1) ++ tables.map (·.1)).Nodup) :
    read (write (plain ++ tables.map fun t => (t.1, .table t.2))) =
      some (plain ++ tables.map fun t => (t.1, .table t.2)) := by
  rw [write_plain_tables plainFlat.inline nonempty]
  have unmarked : ∀ c ∈ (String.join (plain.map entryLine) ++
      String.join (tables.map tableSection)).toList.head?, c ≠ '\uFEFF' := by
    obtain ⟨⟨k, v⟩, more, rfl⟩ := List.exists_cons_of_ne_nil nonempty
    have bare := plainFlat.bare _ List.mem_cons_self
    obtain ⟨c, rest, written, -⟩ := bare.front
    have bareChar : isBareKeyChar c = true := bare.2 c (by simp [written])
    intro d first
    have same : d = c := by simpa [entryLine, writeKey_bare bare, written] using first.symm
    rintro rfl
    subst same
    exact absurd bareChar (by decide)
  rw [read_unmarked unmarked, String.toList_append]
  have inserts : ∀ sub k v, atTable (insertKey v [k] true) [] (id sub) =
      (insertKey v [k] true sub).map id := by
    simp [atTable]
  obtain ⟨fuel, enough, lines⟩ := readLines_entryLines inserts plainFlat [] (by simp)
    (2 * (String.join (plain.map entryLine) ++ String.join (tables.map tableSection)).length + 8)
    (String.join (tables.map tableSection)).toList
    (by simp only [String.length_append, String.length_toList]; omega)
  have fresh : ∀ t ∈ tables, t.1 ∉ (Node.ofValues plain).map (·.1) := by
    intro t member inPlain
    have keys : (Node.ofValues plain).map (·.1) = plain.map (·.1) := by simp [Node.ofValues]
    rw [keys] at inPlain
    exact List.disjoint_of_nodup_append distinct inPlain (List.mem_map.2 ⟨t, member, rfl⟩)
  have sections := readLines_sections tablesFlat tablesBare (List.nodup_append.1 distinct).2.1
    (Node.ofValues plain) fresh [] fuel (by simpa only [String.length_toList] using enough)
  simp only [id, List.nil_append] at lines
  rw [lines, sections]
  simp [Node.entriesToValue_tableNodes]

end ZfsReplication.Toml
