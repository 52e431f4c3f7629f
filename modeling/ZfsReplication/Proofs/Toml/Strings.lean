import Mathlib
import ZfsReplication.Toml.Reader
import ZfsReplication.Toml.Writer

/-!
# Reading back written strings

`quote` writes a string in the first of four forms that needs no escape, or escaped between double
quotes. Each form reads back as the string it writes, whatever the string holds, when a character
other than a quote follows it (`readValue_quote`).

The forms that hold the text as it is are chosen by its shape (`shapeOf`): the shape records raw
control characters, newlines and the longest run of single quotes (`le_singleRun`), which is all the
literal forms need. The escaped forms need nothing: every character of the text is read back in
one step of the reader, and in a multi-line string runs of up to two double quotes stand as they
are while the quotes ending the text join the closing delimiter (`readMultiBasic_escapeBody`).
-/

set_option autoImplicit false

namespace ZfsReplication.Toml

/-- A character that only an escape can write: a control character other than tab and newline. -/
def isRawControl (c : Char) : Bool := isEscapeControl c && c != '\n' && c != '\t'

/-- The longest run of single quotes seen so far, the run still open included. -/
def singleSeen (st : StringShape × Nat × Nat) : Nat := max st.1.singleRun st.2.1

section Shape

variable (st : StringShape × Nat × Nat) (c : Char)

theorem control_shapeStep : (shapeStep st c).1.control = (st.1.control || isRawControl c) := by
  obtain ⟨sh, singles, doubles⟩ := st
  simp only [shapeStep]
  split_ifs <;> simp_all [isRawControl, isEscapeControl]

theorem newline_shapeStep : (shapeStep st c).1.newline = (st.1.newline || '\n' == c) := by
  obtain ⟨sh, singles, doubles⟩ := st
  simp only [shapeStep]
  split_ifs <;> simp_all [eq_comm (a := '\n')]

theorem singleSeen_shapeStep : singleSeen st ≤ singleSeen (shapeStep st c) := by
  obtain ⟨sh, singles, doubles⟩ := st
  simp only [shapeStep, singleSeen]
  split_ifs <;> dsimp only <;> omega

theorem singles_shapeStep_quote : (shapeStep st '\'').2.1 = st.2.1 + 1 := by
  obtain ⟨sh, singles, doubles⟩ := st
  simp [shapeStep]

end Shape

section Text

variable (cs : List Char)

theorem control_foldl (st : StringShape × Nat × Nat) :
    (cs.foldl shapeStep st).1.control = (st.1.control || cs.any isRawControl) := by
  induction cs generalizing st with
  | nil => simp
  | cons c rest ih => simp [ih, control_shapeStep, Bool.or_assoc]

theorem newline_foldl (st : StringShape × Nat × Nat) :
    (cs.foldl shapeStep st).1.newline = (st.1.newline || cs.contains '\n') := by
  induction cs generalizing st with
  | nil => simp
  | cons c rest ih =>
    simp only [List.foldl_cons, ih, newline_shapeStep, List.contains_cons, Bool.or_assoc]

theorem singleSeen_foldl (st : StringShape × Nat × Nat) :
    singleSeen st ≤ singleSeen (cs.foldl shapeStep st) := by
  induction cs generalizing st with
  | nil => simp
  | cons c rest ih => exact (singleSeen_shapeStep st c).trans (ih _)

theorem singles_foldl_quotes (m : Nat) (st : StringShape × Nat × Nat) :
    ((List.replicate m '\'').foldl shapeStep st).2.1 = st.2.1 + m := by
  induction m generalizing st with
  | zero => simp
  | succ m ih =>
    rw [List.replicate_succ, List.foldl_cons, ih, singles_shapeStep_quote]
    omega

@[simp] theorem shapeOf_control : (shapeOf cs).control = cs.any isRawControl := by
  simp [shapeOf, control_foldl]

@[simp] theorem shapeOf_newline : (shapeOf cs).newline = cs.contains '\n' := by
  simp [shapeOf, newline_foldl]

theorem shapeOf_singleRun : (shapeOf cs).singleRun = singleSeen (cs.foldl shapeStep ({}, 0, 0)) := by
  simp [shapeOf, singleSeen]

/-- A run of single quotes in a text is no longer than the longest its shape records. -/
theorem le_singleRun {m : Nat} (run : List.replicate m '\'' <:+: cs) : m ≤ (shapeOf cs).singleRun := by
  obtain ⟨before, after, rfl⟩ := run
  rw [shapeOf_singleRun, List.foldl_append, List.foldl_append]
  calc m ≤ ((List.replicate m '\'').foldl shapeStep (before.foldl shapeStep ({}, 0, 0))).2.1 := by
        rw [singles_foldl_quotes]
        omega
    _ ≤ singleSeen ((List.replicate m '\'').foldl shapeStep (before.foldl shapeStep ({}, 0, 0))) :=
        le_max_right _ _
    _ ≤ _ := singleSeen_foldl _ _

end Text

/-! ## Escapes -/

theorem hexValue_hexDigitUpper : ∀ d < 16, hexValue (hexDigitUpper d) = some d := by decide

theorem isControl_eq_false {c : Char} (plain : isEscapeControl c = false) : isControl c = false := by
  simp only [isEscapeControl, Bool.or_eq_false_iff, decide_eq_false_iff_not, beq_eq_false_iff_ne,
    ne_eq] at plain
  simp only [isControl, Bool.or_eq_false_iff, Bool.and_eq_false_imp, decide_eq_true_eq, ne_eq,
    beq_eq_false_iff_ne]
  constructor
  · intro low
    omega
  · exact plain.2

theorem readEscape_control {c : Char} (control : isEscapeControl c = true) (rest : List Char) :
    readEscape ('u' :: '0' :: '0' :: hexDigitUpper (c.toNat / 16) ::
      hexDigitUpper (c.toNat % 16) :: rest) = some (c, rest) := by
  have small : c.toNat < 128 := by
    simp only [isEscapeControl, Bool.or_eq_true, decide_eq_true_eq, beq_iff_eq] at control
    omega
  have high := hexValue_hexDigitUpper (c.toNat / 16) (by omega)
  have low := hexValue_hexDigitUpper (c.toNat % 16) (Nat.mod_lt _ (by omega))
  have hex : readHex 4 0 ('0' :: '0' :: hexDigitUpper (c.toNat / 16) ::
      hexDigitUpper (c.toNat % 16) :: rest) = some (c.toNat, rest) := by
    simp only [readHex, show hexValue '0' = some 0 from rfl, high, low, Option.bind_some]
    congr 2
    omega
  have scalar : scalar? c.toNat = some c := by
    simp [scalar?, show c.toNat < 0xD800 by omega]
  simp [readEscape, hex, scalar]

theorem escapeBody_cons {c : Char} (other : c ≠ '"') (m : Bool) (quotes run : Nat)
    (more : List Char) :
    escapeBody m quotes run (c :: more) = escapeBasic m c ++ escapeBody m quotes 0 more := by
  simp [escapeBody]

theorem length_escapeBasic_pos (m : Bool) (c : Char) : 0 < (escapeBasic m c).length := by
  unfold escapeBasic
  split
  all_goals try split
  all_goals simp

theorem length_le_escapeBody (m : Bool) (quotes run : Nat) (cs : List Char) :
    cs.length ≤ (escapeBody m quotes run cs).length := by
  induction cs generalizing run with
  | nil => simp [escapeBody]
  | cons c more ih =>
    by_cases quote : c = '"'
    · subst quote
      have later := ih 0
      have later' := ih (run + 1)
      simp only [escapeBody]
      split <;> simp <;> omega
    · rw [escapeBody_cons quote, List.length_append, List.length_cons]
      have later := ih 0
      have pos := length_escapeBasic_pos m c
      omega

theorem escapeBasic_front {c : Char} (notQuote : c ≠ '"') (m : Bool) (more : List Char) :
    ∀ d ∈ (escapeBasic m c ++ more).head?, d ≠ '"' := by
  unfold escapeBasic
  split
  all_goals try split
  all_goals simp_all

theorem escapeBasic_front_line {c : Char} (notNewline : c ≠ '\n') (m : Bool) (more : List Char) :
    ∀ d ∈ (escapeBasic m c ++ more).head?, d ≠ '\n' ∧ d ≠ '\r' := by
  unfold escapeBasic
  split
  all_goals try split
  all_goals simp_all

/-! ## Basic and literal strings -/

theorem readBasic_escapeBasic {c : Char} (notQuote : c ≠ '"') (fuel : Nat) (acc more : List Char) :
    readBasic (fuel + 1) acc (escapeBasic false c ++ more) = readBasic fuel (c :: acc) more := by
  unfold escapeBasic
  split
  · simp [readBasic, readEscape]
  · simp [readBasic, readEscape]
  · simp [readBasic, readEscape]
  · simp [readBasic, readEscape]
  · simp [readBasic, readEscape]
  · simp [readBasic, readEscape]
  · split
    · next control => simp [readBasic, readEscape_control control]
    · next plain => simp [readBasic, isControl_eq_false (Bool.eq_false_iff.2 plain)]

/-- The body of a basic string reads back as the text it escapes, whatever that text holds. -/
theorem readBasic_escapeBody (cs : List Char) (fuel : Nat) (acc rest : List Char)
    (enough : cs.length < fuel) :
    readBasic fuel acc (escapeBody false 0 0 cs ++ '"' :: rest) =
      some (String.ofList (acc.reverse ++ cs), rest) := by
  -- one step of the reader for each character of the text, escaped or not
  induction cs generalizing fuel acc with
  | nil =>
    obtain ⟨f, rfl⟩ : ∃ f, fuel = f + 1 := ⟨fuel - 1, by omega⟩
    simp [escapeBody, readBasic]
  | cons c more ih =>
    obtain ⟨f, rfl⟩ : ∃ f, fuel = f + 1 := ⟨fuel - 1, by omega⟩
    have later := ih f (c :: acc) (by simp at enough; omega)
    simp only [List.reverse_cons, List.append_assoc, List.singleton_append] at later
    by_cases quote : c = '"'
    · subst quote
      simpa [escapeBody, readBasic, readEscape] using later
    · rw [escapeBody_cons quote, List.append_assoc, readBasic_escapeBasic quote, later]

/-- A text without single quotes or control characters other than tab reads back from between
single quotes. -/
theorem readLiteral_plain {cs : List Char} (plain : ∀ c ∈ cs, c ≠ '\'' ∧ isControl c = false)
    (acc rest : List Char) :
    readLiteral acc (cs ++ '\'' :: rest) = some (String.ofList (acc.reverse ++ cs), rest) := by
  induction cs generalizing acc with
  | nil => simp [readLiteral]
  | cons c more ih =>
    obtain ⟨notQuote, notControl⟩ := plain c List.mem_cons_self
    have later := ih (fun d member => plain d (List.mem_cons_of_mem c member)) (c :: acc)
    simp only [List.reverse_cons, List.append_assoc, List.singleton_append] at later
    simp [readLiteral, notControl, later]

/-! ## Multi-line strings -/

theorem front_cases (q : Char) (cs : List Char) :
    cs = [] ∨ cs = [q] ∨ cs = [q, q] ∨ (∃ more, cs = q :: q :: q :: more) ∨
      (∃ c more, c ≠ q ∧ cs = q :: q :: c :: more) ∨ (∃ c more, c ≠ q ∧ cs = q :: c :: more) ∨
      (∃ c more, c ≠ q ∧ cs = c :: more) := by
  rcases cs with _ | ⟨a, _ | ⟨b, _ | ⟨d, more⟩⟩⟩
  · exact .inl rfl
  · by_cases first : a = q
    · exact .inr (.inl (by rw [first]))
    · exact .inr (.inr (.inr (.inr (.inr (.inr ⟨a, [], first, rfl⟩)))))
  · by_cases first : a = q
    · subst first
      by_cases second : b = a
      · exact .inr (.inr (.inl (by rw [second])))
      · exact .inr (.inr (.inr (.inr (.inr (.inl ⟨b, [], second, rfl⟩)))))
    · exact .inr (.inr (.inr (.inr (.inr (.inr ⟨a, [b], first, rfl⟩)))))
  · by_cases first : a = q
    · subst first
      by_cases second : b = a
      · subst second
        by_cases third : d = b
        · exact .inr (.inr (.inr (.inl ⟨more, by rw [third]⟩)))
        · exact .inr (.inr (.inr (.inr (.inl ⟨d, more, third, rfl⟩))))
      · exact .inr (.inr (.inr (.inr (.inr (.inl ⟨b, d :: more, second, rfl⟩)))))
    · exact .inr (.inr (.inr (.inr (.inr (.inr ⟨a, b :: d :: more, first, rfl⟩)))))

theorem takeWhile_stop {p : Char → Bool} {rest : List Char} (stop : ∀ c ∈ rest.head?, p c = false) :
    rest.takeWhile p = [] ∧ rest.dropWhile p = rest := by
  cases rest with
  | nil => simp
  | cons c more =>
    have stops : p c = false := stop c rfl
    simp [stops]

/-- A token `body` followed by a character outside its class is split off whole. -/
theorem span_append {p : Char → Bool} {body rest : List Char} (inside : ∀ c ∈ body, p c = true)
    (stop : ∀ c ∈ rest.head?, p c = false) :
    (body ++ rest).takeWhile p = body ∧ (body ++ rest).dropWhile p = rest := by
  obtain ⟨none, after⟩ := takeWhile_stop stop
  rw [List.takeWhile_append_of_pos inside, List.dropWhile_append_of_pos inside, none, after,
    List.append_nil]
  exact ⟨rfl, rfl⟩

theorem takeWhile_delimiter {q : Char} {rest : List Char} (stops : ∀ c ∈ rest.head?, c ≠ q) :
    rest.takeWhile (· == q) = [] ∧ rest.dropWhile (· == q) = rest :=
  takeWhile_stop fun c first => by simpa using stops c first

theorem readMultiBasic_escapeBasic {c : Char} (notQuote : c ≠ '"') (fuel : Nat)
    (acc more : List Char) :
    readMultiBasic (fuel + 1) acc (escapeBasic true c ++ more) = readMultiBasic fuel (c :: acc) more := by
  unfold escapeBasic
  split
  · simp [readMultiBasic, readEscape, skipSpace, isSpace]
  · simp [readMultiBasic, readEscape, skipSpace, isSpace]
  · simp [readMultiBasic]
  · simp [readMultiBasic, readEscape, skipSpace, isSpace]
  · simp [readMultiBasic, readEscape, skipSpace, isSpace]
  · simp [readMultiBasic, readEscape, skipSpace, isSpace]
  · next _ _ _ _ _ notReturn _ =>
    split
    · next control => simp [readMultiBasic, readEscape_control control, skipSpace, isSpace]
    · next plain =>
      -- a plain character: neither a delimiter, an escape, nor the start of a line break
      have notReturn : c ≠ '\r' := notReturn
      simp [readMultiBasic, notReturn, isControl_eq_false (Bool.eq_false_iff.2 plain)]

/-- The body of a multi-line basic string, closed by three double quotes, reads back as the text
it escapes: runs of up to two quotes stand as they are, and the quotes that end the body join the
closing run. -/
theorem readMultiBasic_escapeBody (cs : List Char) (fuel : Nat) (acc rest : List Char)
    (enough : cs.length < fuel) (stops : ∀ c ∈ rest.head?, c ≠ '"') :
    readMultiBasic fuel acc (escapeBody true 2 0 cs ++ '"' :: '"' :: '"' :: rest) =
      some (String.ofList (acc.reverse ++ cs), rest) := by
  obtain ⟨f, rfl⟩ : ∃ f, fuel = f + 1 := ⟨fuel - 1, by omega⟩
  obtain ⟨none, after⟩ := takeWhile_delimiter stops
  rcases front_cases '"' cs with rfl | rfl | rfl | ⟨more, rfl⟩ | ⟨c, more, other, rfl⟩ |
    ⟨c, more, other, rfl⟩ | ⟨c, more, other, rfl⟩
  · simp [escapeBody, readMultiBasic, closeRun, none, after]
  · simp [escapeBody, readMultiBasic, closeRun, none, after]
  · simp [escapeBody, readMultiBasic, closeRun, none, after]
  · -- two quotes stand as they are and the third is escaped
    obtain ⟨g, rfl⟩ : ∃ g, f = g + 1 := ⟨f - 1, by simp at enough; omega⟩
    have later := readMultiBasic_escapeBody more g ('"' :: '"' :: '"' :: acc) rest
      (by simp at enough; omega) stops
    simp [escapeBody, readMultiBasic, readEscape, skipSpace, isSpace, later]
  · -- two quotes before another character
    have later := readMultiBasic_escapeBody (c :: more) f ('"' :: '"' :: acc) rest
      (by simp at enough ⊢; omega) stops
    obtain ⟨none', after'⟩ := takeWhile_delimiter (escapeBasic_front other true
      (escapeBody true 2 0 more ++ '"' :: '"' :: '"' :: rest))
    rw [escapeBody_cons other] at later
    simpa [escapeBody, readMultiBasic, escapeBody_cons other, none', after'] using later
  · -- one quote before another character
    have later := readMultiBasic_escapeBody (c :: more) f ('"' :: acc) rest
      (by simp at enough ⊢; omega) stops
    obtain ⟨none', after'⟩ := takeWhile_delimiter (escapeBasic_front other true
      (escapeBody true 2 0 more ++ '"' :: '"' :: '"' :: rest))
    rw [escapeBody_cons other] at later
    simpa [escapeBody, readMultiBasic, escapeBody_cons other, none', after'] using later
  · -- any other character
    have later := readMultiBasic_escapeBody more f (c :: acc) rest (by simp at enough; omega) stops
    rw [escapeBody_cons other, List.append_assoc, readMultiBasic_escapeBasic other, later]
    simp
termination_by cs.length

theorem readMultiLiteral_plainChar {c : Char} (notQuote : c ≠ '\'')
    (plain : isControl c = false ∨ c = '\n') (fuel : Nat) (acc more : List Char) :
    readMultiLiteral (fuel + 1) acc (c :: more) = readMultiLiteral fuel (c :: acc) more := by
  rcases plain with plain | rfl
  · have notReturn : c ≠ '\r' := by
      rintro rfl
      simp [isControl] at plain
    have notNewline : c ≠ '\n' := by
      rintro rfl
      simp [isControl] at plain
    simp [readMultiLiteral, notReturn, plain]
  · simp [readMultiLiteral]

/-- A text without control characters other than tab and newline, and without three single quotes
in a row, reads back from before three single quotes; quotes that end the text join the closing
run. -/
theorem readMultiLiteral_plain (cs : List Char) (fuel : Nat) (acc rest : List Char)
    (enough : cs.length < fuel) (plain : ∀ c ∈ cs, isControl c = false ∨ c = '\n')
    (noTriple : ¬ ['\'', '\'', '\''] <:+: cs) (stops : ∀ c ∈ rest.head?, c ≠ '\'') :
    readMultiLiteral fuel acc (cs ++ '\'' :: '\'' :: '\'' :: rest) =
      some (String.ofList (acc.reverse ++ cs), rest) := by
  obtain ⟨f, rfl⟩ : ∃ f, fuel = f + 1 := ⟨fuel - 1, by omega⟩
  obtain ⟨none, after⟩ := takeWhile_delimiter stops
  rcases front_cases '\'' cs with rfl | rfl | rfl | ⟨more, rfl⟩ | ⟨c, more, other, rfl⟩ |
    ⟨c, more, other, rfl⟩ | ⟨c, more, other, rfl⟩
  · simp [readMultiLiteral, closeRun, none, after]
  · simp [readMultiLiteral, closeRun, none, after]
  · simp [readMultiLiteral, closeRun, none, after]
  · exact absurd (List.infix_append [] _ more) noTriple
  · -- two quotes before another character
    have later := readMultiLiteral_plain (c :: more) f ('\'' :: '\'' :: acc) rest
      (by simp at enough ⊢; omega) (fun d member => plain d (by simp [member]))
      (fun triple => noTriple (triple.trans (List.infix_cons (List.infix_cons (List.infix_refl _)))))
      stops
    simpa [readMultiLiteral, other] using later
  · -- one quote before another character
    have later := readMultiLiteral_plain (c :: more) f ('\'' :: acc) rest
      (by simp at enough ⊢; omega) (fun d member => plain d (by simp [member]))
      (fun triple => noTriple (triple.trans (List.infix_cons (List.infix_refl _)))) stops
    simpa [readMultiLiteral, other] using later
  · -- any other character
    have later := readMultiLiteral_plain more f (c :: acc) rest (by simp at enough; omega)
      (fun d member => plain d (List.mem_cons_of_mem c member))
      (fun triple => noTriple (triple.trans (List.infix_cons (List.infix_refl _)))) stops
    rw [List.cons_append, readMultiLiteral_plainChar other (plain c List.mem_cons_self), later]
    simp
termination_by cs.length

/-! ## Strings as values -/

theorem chooseForm_literal {sh : StringShape} (literal : chooseForm sh = .literal) :
    sh.control = false ∧ sh.singleRun = 0 ∧ sh.newline = false := by
  unfold chooseForm at literal
  split_ifs at literal with basic plain
  simp_all

theorem chooseForm_multiLiteral {sh : StringShape} (multiLiteral : chooseForm sh = .multiLiteral) :
    sh.control = false ∧ sh.singleRun ≤ 2 := by
  unfold chooseForm at multiLiteral
  split_ifs at multiLiteral with basic literal multiBasic plain
  simp_all

theorem readValue_basic (fuel : Nat) {body : List Char}
    (notTriple : ∀ more, body ≠ '"' :: '"' :: more) :
    readValue (fuel + 1) ('"' :: body) = (readBasic fuel [] body).map fun x => (.str x.1, x.2) := by
  rcases body with _ | ⟨a, _ | ⟨b, more⟩⟩
  · simp [readValue]
  · simp [readValue]
  · by_cases quotes : a = '"' ∧ b = '"'
    · obtain ⟨rfl, rfl⟩ := quotes
      exact absurd rfl (notTriple more)
    · simp [readValue]

theorem readValue_literal (fuel : Nat) {body : List Char}
    (notTriple : ∀ more, body ≠ '\'' :: '\'' :: more) :
    readValue (fuel + 1) ('\'' :: body) = (readLiteral [] body).map fun x => (.str x.1, x.2) := by
  rcases body with _ | ⟨a, _ | ⟨b, more⟩⟩
  · simp [readValue]
  · simp [readValue]
  · by_cases quotes : a = '\'' ∧ b = '\''
    · obtain ⟨rfl, rfl⟩ := quotes
      exact absurd rfl (notTriple more)
    · simp [readValue]

theorem readValue_multiBasic (fuel : Nat) (body : List Char) :
    readValue (fuel + 1) ('"' :: '"' :: '"' :: body) =
      (readMultiBasic fuel [] (dropNewline body)).map fun x => (.str x.1, x.2) := by
  simp [readValue]

theorem readValue_multiLiteral (fuel : Nat) (body : List Char) :
    readValue (fuel + 1) ('\'' :: '\'' :: '\'' :: body) =
      (readMultiLiteral fuel [] (dropNewline body)).map fun x => (.str x.1, x.2) := by
  simp [readValue]

theorem dropNewline_of_front {cs : List Char} (front : ∀ d ∈ cs.head?, d ≠ '\n' ∧ d ≠ '\r') :
    dropNewline cs = cs := by
  rcases cs with _ | ⟨a, more⟩
  · rfl
  · obtain ⟨notNewline, notReturn⟩ := front a rfl
    simp [dropNewline, notNewline, notReturn]

theorem isControl_of_shape {cs : List Char} (control : (shapeOf cs).control = false) :
    ∀ c ∈ cs, isControl c = false ∨ c = '\n' := by
  intro c member
  have raw : isRawControl c = false := by
    simp only [shapeOf_control, List.any_eq_false] at control
    simpa using control c member
  by_cases escape : isEscapeControl c
  · -- an escape control that is not raw is a tab or a newline
    simp only [isRawControl, escape, Bool.true_and, Bool.and_eq_false_iff, bne_eq_false_iff_eq]
      at raw
    rcases raw with rfl | rfl
    · exact .inr rfl
    · exact .inl rfl
  · exact .inl (isControl_eq_false (Bool.eq_false_iff.2 escape))

theorem escapeBody_basic_front (cs : List Char) {rest : List Char}
    (noQuote : ∀ c ∈ rest.head?, c ≠ '"') :
    ∀ more, escapeBody false 0 0 cs ++ '"' :: rest ≠ '"' :: '"' :: more := by
  intro more same
  rcases cs with _ | ⟨c, cs⟩
  · cases rest with
    | nil => simp [escapeBody] at same
    | cons d rest => exact noQuote d rfl (by simp_all [escapeBody])
  · by_cases quote : c = '"'
    · subst quote
      simp [escapeBody] at same
    · rw [escapeBody_cons quote, List.append_assoc] at same
      exact escapeBasic_front quote false _ '"' (by rw [same]; rfl) rfl

/-- The newline that opens a multi-line string holding one is dropped, and nothing is dropped
from a body that starts with no line break. -/
theorem dropNewline_opening (cs body : List Char)
    (front : (shapeOf cs).newline = false → ∀ d ∈ body.head?, d ≠ '\n' ∧ d ≠ '\r') :
    dropNewline ((if (shapeOf cs).newline = true then ['\n'] else []) ++ body) = body := by
  split
  · simp [dropNewline]
  · next newline => exact dropNewline_of_front (front (by simpa using newline))

section Forms

variable (s : String) (f : Nat) (rest : List Char)

theorem readValue_quote_basic (form : chooseForm (shapeOf s.toList) = .basic)
    (enough : (quote s).length < f + 1) (noQuote : ∀ c ∈ rest.head?, c ≠ '"') :
    readValue (f + 1) ((quote s).toList ++ rest) = some (.str s, rest) := by
  unfold quote at enough ⊢
  dsimp only at enough ⊢
  simp only [form] at enough ⊢
  have fits := length_le_escapeBody false 0 0 s.toList
  have quoteLength : "\"".length = 1 := by decide
  simp only [String.length_append, String.length_ofList, quoteLength] at enough
  have opened : ("\"" ++ String.ofList (escapeBody false 0 0 s.toList) ++ "\"").toList ++ rest =
      '"' :: (escapeBody false 0 0 s.toList ++ '"' :: rest) := by
    simp
  rw [opened, readValue_basic f (escapeBody_basic_front s.toList noQuote),
    readBasic_escapeBody _ f [] rest (by simp at enough; omega)]
  simp

theorem readValue_quote_literal (form : chooseForm (shapeOf s.toList) = .literal)
    (noApostrophe : ∀ c ∈ rest.head?, c ≠ '\'') :
    readValue (f + 1) ((quote s).toList ++ rest) = some (.str s, rest) := by
  unfold quote
  dsimp only
  simp only [form]
  obtain ⟨control, single, newline⟩ := chooseForm_literal form
  -- the shape rules out single quotes, and every control character but tab
  have plain : ∀ c ∈ s.toList, c ≠ '\'' ∧ isControl c = false := by
    intro c member
    refine ⟨?_, ?_⟩
    · rintro rfl
      have run := le_singleRun s.toList (m := 1) ((List.singleton_infix_iff _ _).2 member)
      omega
    · rcases isControl_of_shape control c member with plain | rfl
      · exact plain
      · simp [member] at newline
  have front : ∀ more, s.toList ++ '\'' :: rest ≠ '\'' :: '\'' :: more := by
    intro more same
    cases text : s.toList with
    | nil =>
      rw [text, List.nil_append, List.cons.injEq] at same
      exact noApostrophe '\'' (by rw [same.2]; rfl) rfl
    | cons c cs =>
      rw [text, List.cons_append, List.cons.injEq] at same
      exact (plain c (by simp [text])).1 same.1
  have opened : ("'" ++ s ++ "'").toList ++ rest = '\'' :: (s.toList ++ '\'' :: rest) := by simp
  rw [opened, readValue_literal f front, readLiteral_plain plain]
  simp

theorem readValue_quote_multiBasic (form : chooseForm (shapeOf s.toList) = .multiBasic)
    (enough : (quote s).length < f + 1) (noQuote : ∀ c ∈ rest.head?, c ≠ '"') :
    readValue (f + 1) ((quote s).toList ++ rest) = some (.str s, rest) := by
  unfold quote at enough ⊢
  dsimp only at enough ⊢
  simp only [form] at enough ⊢
  have fits := length_le_escapeBody true 2 0 s.toList
  have tripleLength : tripleDouble.length = 3 := by decide
  simp only [String.length_append, String.length_ofList, tripleLength] at enough
  have opened : (tripleDouble ++ (if (shapeOf s.toList).newline = true then "\n" else "") ++
      String.ofList (escapeBody true 2 0 s.toList) ++ tripleDouble).toList ++ rest =
      '"' :: '"' :: '"' :: ((if (shapeOf s.toList).newline = true then ['\n'] else []) ++
        (escapeBody true 2 0 s.toList ++ '"' :: '"' :: '"' :: rest)) := by
    split <;> simp [tripleDouble]
  -- without a newline in the text, its escaped body starts with no line break
  have dropped := dropNewline_opening s.toList
    (escapeBody true 2 0 s.toList ++ '"' :: '"' :: '"' :: rest) fun newline => by
      rcases text : s.toList with _ | ⟨c, more⟩
      · simp [escapeBody]
      · have notNewline : c ≠ '\n' := by
          rintro rfl
          simp [text] at newline
        by_cases quote : c = '"'
        · subst quote
          simp [escapeBody]
        · rw [escapeBody_cons quote, List.append_assoc]
          exact escapeBasic_front_line notNewline true _
  rw [opened, readValue_multiBasic, dropped,
    readMultiBasic_escapeBody _ f [] rest (by split at enough <;> simp at enough <;> omega) noQuote]
  simp

theorem readValue_quote_multiLiteral (form : chooseForm (shapeOf s.toList) = .multiLiteral)
    (enough : (quote s).length < f + 1) (noApostrophe : ∀ c ∈ rest.head?, c ≠ '\'') :
    readValue (f + 1) ((quote s).toList ++ rest) = some (.str s, rest) := by
  unfold quote at enough ⊢
  dsimp only at enough ⊢
  simp only [form] at enough ⊢
  obtain ⟨control, single⟩ := chooseForm_multiLiteral form
  have plain := isControl_of_shape control
  have tripleLength : tripleSingle.length = 3 := by decide
  have newlineLength : "\n".length = 1 := by decide
  simp only [String.length_append, tripleLength] at enough
  have opened : (tripleSingle ++ (if (shapeOf s.toList).newline = true then "\n" else "") ++
      s ++ tripleSingle).toList ++ rest =
      '\'' :: '\'' :: '\'' :: ((if (shapeOf s.toList).newline = true then ['\n'] else []) ++
        (s.toList ++ '\'' :: '\'' :: '\'' :: rest)) := by
    split <;> simp [tripleSingle]
  -- without a newline in the text, it starts with no line break: a return would be a control
  have dropped := dropNewline_opening s.toList
    (s.toList ++ '\'' :: '\'' :: '\'' :: rest) fun newline => by
      rcases text : s.toList with _ | ⟨c, more⟩
      · simp
      · have notNewline : c ≠ '\n' := by
          rintro rfl
          simp [text] at newline
        have notReturn : c ≠ '\r' := by
          rintro rfl
          rcases plain '\r' (by simp [text]) with control | same
          · simp [isControl] at control
          · exact absurd same (by decide)
        simpa using ⟨notNewline, notReturn⟩
  have noTriple : ¬ ['\'', '\'', '\''] <:+: s.toList := fun triple => by
    have run := le_singleRun s.toList (m := 3) triple
    omega
  rw [opened, readValue_multiLiteral, dropped,
    readMultiLiteral_plain _ f [] rest
      (by split at enough <;> simp [newlineLength, String.length_toList] at enough ⊢ <;> omega) plain
      noTriple noApostrophe]
  simp

end Forms

/-- A string written by `quote` and followed by anything but a quote reads back as that string. -/
theorem readValue_quote (s : String) (fuel : Nat) (rest : List Char) (enough : (quote s).length < fuel)
    (stops : ∀ c ∈ rest.head?, c ≠ '"' ∧ c ≠ '\'') :
    readValue fuel ((quote s).toList ++ rest) = some (.str s, rest) := by
  obtain ⟨f, rfl⟩ : ∃ f, fuel = f + 1 := ⟨fuel - 1, by omega⟩
  have noQuote : ∀ c ∈ rest.head?, c ≠ '"' := fun c first => (stops c first).1
  have noApostrophe : ∀ c ∈ rest.head?, c ≠ '\'' := fun c first => (stops c first).2
  -- one lemma per form that `quote` may choose
  cases form : chooseForm (shapeOf s.toList) with
  | basic => exact readValue_quote_basic s f rest form enough noQuote
  | literal => exact readValue_quote_literal s f rest form noApostrophe
  | multiBasic => exact readValue_quote_multiBasic s f rest form enough noQuote
  | multiLiteral => exact readValue_quote_multiLiteral s f rest form enough noApostrophe

end ZfsReplication.Toml