import ZfsReplication.Shell.Command

/-!
# Reading command text back

A shell that splits the text of a command into words and stages gets the command's stages back,
provided no stage is empty (`read_render`). Quoting is built so that reading can follow it
character by character: outside a quoted run a bare character is read as itself and a quote is
escaped, inside one everything but a quote is literal, and the reader is inside a quoted run
exactly when the writer has one open (`readTokens_quoteChars`). A word written alone ends at the
next blank, and a lone `|` between blanks, never the text of a quoted word, separates stages.

A command for another machine is one `ssh` stage ending with the text of the whole pipeline, so the
remote shell reads the same stages again.
-/

set_option autoImplicit false

namespace ZfsReplication.Shell

/-! ## Characters written bare -/

section Bare

variable {c : Char}

theorem ne_space_of_isBare (bare : isBare c = true) : c ≠ ' ' := by
  rintro rfl
  exact absurd bare (by decide)

theorem ne_quote_of_isBare (bare : isBare c = true) : c ≠ '\'' := by
  rintro rfl
  exact absurd bare (by decide)

theorem ne_backslash_of_isBare (bare : isBare c = true) : c ≠ '\\' := by
  rintro rfl
  exact absurd bare (by decide)

theorem isBare_of_isInert (inert : isInert c = true) : isBare c = true := by
  simp [isBare, inert]

end Bare

/-! ## Reading quoted characters -/

/-- Outside a quoted run, a bare character is read as a plain character of the word. -/
theorem readTokens_bare {c : Char} (bare : isBare c = true) (rest : List Char)
    (started literal : Bool) (word : List Char) :
    readTokens (c :: rest) false started literal word = readTokens rest false true literal (c :: word) :=
  readTokens.eq_6 _ _ _ _ _ (ne_space_of_isBare bare) (ne_quote_of_isBare bare)
    fun _ _ same _ => ne_backslash_of_isBare bare same

/-- Reading the quoted form of `cs` adds `cs` to the word being read and leaves the reader outside
any quoted run; the word is started, and it is literal once a quoted run was open or a character
needed quoting. -/
theorem readTokens_quoteChars (cs : List Char) (inside started literal : Bool)
    (word rest : List Char) :
    readTokens (quoteChars cs inside ++ rest) inside started literal word =
      readTokens rest false (started || inside || !cs.isEmpty)
        (literal || inside || cs.any fun c => !isBare c) (cs.reverse ++ word) := by
  -- the writer's open run and the reader's quoted mode stay the same after every character
  induction cs generalizing inside started literal word with
  | nil =>
    cases inside with
    | false => simp [quoteChars]
    | true => simp [quoteChars, readTokens]
  | cons c cs ih =>
    by_cases bare : isBare c = true
    · have notQuote : (c == '\'') = false := by simpa using ne_quote_of_isBare bare
      cases inside with
      | false =>
        simp only [quoteChars, bare, ↓reduceIte, List.cons_append]
        rw [readTokens_bare bare, ih]
        simp [bare]
      | true =>
        simp only [quoteChars, bare, ↓reduceIte, List.cons_append]
        rw [readTokens.eq_2, notQuote, if_neg Bool.false_ne_true, ih]
        simp
    · by_cases quoteChar : c = '\''
      · subst quoteChar
        cases inside with
        | false =>
          simp only [quoteChars, bare, Bool.false_eq_true, ↓reduceIte, beq_self_eq_true,
            List.cons_append]
          rw [readTokens.eq_5, ih]
          simp [bare]
        | true =>
          simp only [quoteChars, bare, Bool.false_eq_true, ↓reduceIte, beq_self_eq_true,
            List.cons_append]
          rw [readTokens.eq_2, if_pos (beq_self_eq_true _), readTokens.eq_5, ih]
          simp
      · have notQuote : (c == '\'') = false := by simpa using quoteChar
        cases inside with
        | false =>
          simp only [quoteChars, bare, notQuote, Bool.false_eq_true, ↓reduceIte, List.cons_append]
          rw [readTokens.eq_4, readTokens.eq_2, notQuote, if_neg Bool.false_ne_true, ih]
          simp [bare]
        | true =>
          simp only [quoteChars, bare, notQuote, Bool.false_eq_true, ↓reduceIte, List.cons_append]
          rw [readTokens.eq_2, notQuote, if_neg Bool.false_ne_true, ih]
          simp

/-- The characters of a quoted word. -/
theorem toList_quote (w : String) :
    (quote w).toList = if w.isEmpty then ['\'', '\''] else quoteChars w.toList false := by
  unfold quote
  split
  · rfl
  · split
    · next inert =>
      -- a word of inert characters is its own quoted form
      have same : ∀ cs : List Char, cs.all isInert = true → quoteChars cs false = cs := by
        intro cs
        induction cs with
        | nil => intro _; rfl
        | cons c cs ih =>
          intro all
          simp only [List.all_cons, Bool.and_eq_true] at all
          simp [quoteChars, isBare_of_isInert all.1, ih all.2]
      rw [same _ inert]
    · simp

/-- Reading a quoted word starts a word holding exactly its characters; it is literal when the word
is empty or has a character that needed quoting. -/
theorem readTokens_quote (w : String) (rest : List Char) :
    readTokens ((quote w).toList ++ rest) false false false [] =
      readTokens rest false true (w.isEmpty || w.toList.any fun c => !isBare c) w.toList.reverse := by
  rw [toList_quote]
  split
  · next empty =>
    simp only [empty, Bool.true_or]
    rw [String.isEmpty_iff.1 empty]
    simp [readTokens]
  · next nonempty =>
    rw [readTokens_quoteChars]
    have started : w.toList.isEmpty = false := by
      simpa [String.isEmpty_iff] using nonempty
    simp [started, nonempty]

/-- The word a quoted word is read as: never a bar, since a lone `|` needs quoting. -/
theorem ofChars_quoted (w : String) :
    Token.ofChars w.toList (w.isEmpty || w.toList.any fun c => !isBare c) = .word w := by
  unfold Token.ofChars
  by_cases bar : w.toList = ['|']
  · have literal : (w.toList.any fun c => !isBare c) = true := by
      rw [bar]
      decide
    simp [literal, String.ofList_toList]
  · simp [bar, String.ofList_toList]

/-- A quoted word followed by a blank is read as that word. -/
theorem readTokens_quote_space (w : String) (rest : List Char) :
    readTokens ((quote w).toList ++ ' ' :: rest) false false false [] =
      .word w :: readTokens rest false false false [] := by
  rw [readTokens_quote, readTokens.eq_3, List.reverse_reverse, ofChars_quoted]
  rfl

/-- A quoted word at the end of the text is read as that word. -/
theorem readTokens_quote_end (w : String) :
    readTokens (quote w).toList false false false [] = [.word w] := by
  have whole := readTokens_quote w []
  rw [List.append_nil] at whole
  rw [whole, readTokens.eq_1, List.reverse_reverse, ofChars_quoted]
  rfl

/-! ## Reading stages -/

/-- The characters of one stage: its quoted words separated by blanks. -/
def stageChars (stage : List String) : List Char :=
  [' '].intercalate (stage.map fun w => (quote w).toList)

theorem readTokens_stageChars_space {stage : List String} (nonempty : stage ≠ [])
    (rest : List Char) :
    readTokens (stageChars stage ++ ' ' :: rest) false false false [] =
      stage.map .word ++ readTokens rest false false false [] := by
  induction stage with
  | nil => exact absurd rfl nonempty
  | cons w ws ih =>
    cases ws with
    | nil => simp [stageChars, readTokens_quote_space]
    | cons w' ws =>
      have later := ih (List.cons_ne_nil w' ws)
      simp only [stageChars, List.map_cons, List.intercalate_cons_cons, List.append_assoc,
        List.cons_append, List.nil_append] at later ⊢
      rw [readTokens_quote_space, later]

theorem readTokens_stageChars_end {stage : List String} (nonempty : stage ≠ []) :
    readTokens (stageChars stage) false false false [] = stage.map .word := by
  induction stage with
  | nil => exact absurd rfl nonempty
  | cons w ws ih =>
    cases ws with
    | nil => simp [stageChars, readTokens_quote_end]
    | cons w' ws =>
      have later := ih (List.cons_ne_nil w' ws)
      simp only [stageChars, List.map_cons, List.intercalate_cons_cons, List.append_assoc,
        List.cons_append, List.nil_append] at later ⊢
      rw [readTokens_quote_space, later]

/-- A lone `|` between blanks is read as a bar. -/
theorem readTokens_bar (rest : List Char) :
    readTokens ('|' :: ' ' :: rest) false false false [] = .bar :: readTokens rest false false false [] := by
  rw [readTokens.eq_6 _ _ _ _ _ (by decide) (by decide) fun _ _ same _ => absurd same (by decide),
    readTokens.eq_3]
  rfl

theorem toList_render (c : Command) :
    c.render.toList = [' ', '|', ' '].intercalate (c.stages.map stageChars) := by
  simp [Command.render, String.toList_intercalate, Function.comp_def]
  rfl

/-- The text of non-empty stages is read as their words with a bar between two stages. -/
theorem tokens_render {c : Command} (nonempty : ∀ stage ∈ c.stages, stage ≠ []) :
    tokens c.render = [Token.bar].intercalate (c.stages.map (·.map Token.word)) := by
  unfold tokens
  rw [toList_render]
  obtain ⟨stages⟩ := c
  simp only at nonempty ⊢
  induction stages with
  | nil => simp [readTokens]
  | cons stage later ih =>
    have here := nonempty stage List.mem_cons_self
    cases later with
    | nil => simp [readTokens_stageChars_end here]
    | cons next later =>
      have rest := ih fun s member => nonempty s (List.mem_cons_of_mem stage member)
      simp only [List.map_cons, List.intercalate_cons_cons, List.append_assoc,
        List.cons_append, List.nil_append] at rest ⊢
      rw [readTokens_stageChars_space here, readTokens_bar, rest]

/-! ## Grouping words into stages -/

namespace Command

/-- Words before the first bar join the first stage of what follows. -/
theorem stagesOf_words (ws : List String) {rest : List Token} {stage : List String}
    {later : List (List String)} (grouped : stagesOf rest = stage :: later) :
    stagesOf (ws.map Token.word ++ rest) = (ws ++ stage) :: later := by
  induction ws with
  | nil => simpa using grouped
  | cons w ws ih => simp [stagesOf, ih]

/-- Grouping the words of stages, a bar between two stages, gives the stages back. -/
theorem stagesOf_intercalate {stages : List (List String)} (nonempty : stages ≠ []) :
    stagesOf ([Token.bar].intercalate (stages.map (·.map Token.word))) = stages := by
  induction stages with
  | nil => exact absurd rfl nonempty
  | cons stage later ih =>
    cases later with
    | nil =>
      have last := stagesOf_words stage (show stagesOf [] = [[]] from rfl)
      simpa using last
    | cons next later =>
      have grouped : stagesOf (Token.bar :: [Token.bar].intercalate
          ((next :: later).map (·.map Token.word))) = [] :: next :: later := by
        rw [stagesOf, ih (List.cons_ne_nil next later)]
      have whole := stagesOf_words stage grouped
      simp only [List.append_nil] at whole
      simpa [List.intercalate_cons_cons] using whole

/-- Reading the text of a command whose stages all have words gives its stages. -/
theorem read_render_of_nonempty {c : Command} (nonempty : ∀ stage ∈ c.stages, stage ≠ []) :
    read c.render = c.stages := by
  unfold read
  rw [tokens_render nonempty]
  cases stages : c.stages with
  | nil => rfl
  | cons stage later =>
    have first := nonempty stage (by simp [stages])
    obtain ⟨w, ws, rfl⟩ := List.exists_cons_of_ne_nil first
    -- the first stage has a word, so the text has a token
    split
    · next empty => simp [List.intercalate_cons_cons_left] at empty
    · exact stagesOf_intercalate (List.cons_ne_nil _ _)

/-- A command for a machine other than `localhost` is one `ssh` stage whose last argument is the
text of the whole pipeline. -/
theorem onSide_remote (c : Command) {side : SideConfig} (ssh : SshConfig)
    (remote : side.host ≠ "localhost") :
    ∃ args, c.onSide side ssh = single (("ssh" :: args) ++ [c.render]) := by
  have notLocal : side.isLocal = false := by simpa [SideConfig.isLocal] using remote
  simp only [onSide, notLocal, Bool.false_eq_true, ↓reduceIte]
  refine ⟨"-T" :: ((if side.port != 0 then ["-p", toString side.port] else []) ++
    ["-o", if ssh.compression then "Compression=yes" else "Compression=no"] ++
    ssh.cipher.elim [] (fun name => ["-c", name]) ++
    [if side.user.isEmpty then side.host else side.user ++ "@" ++ side.host]), ?_⟩
  cases ssh.cipher <;> simp

/-- Reading the text of a command whose stages all have words gives exactly its stages. On another
machine the command is one `ssh` stage, which the local shell reads back whole and whose last
argument is that text, so the remote shell runs the whole pipeline. -/
theorem read_render (c : Command) (nonempty : ∀ stage ∈ c.stages, stage ≠ []) :
    read c.render = c.stages ∧
      ∀ side ssh, side.host ≠ "localhost" →
        ∃ args, c.onSide side ssh = single (("ssh" :: args) ++ [c.render]) ∧
          read (c.onSide side ssh).render = [("ssh" :: args) ++ [c.render]] := by
  refine ⟨read_render_of_nonempty nonempty, fun side ssh remote => ?_⟩
  obtain ⟨args, wrapped⟩ := onSide_remote c ssh remote
  refine ⟨args, wrapped, ?_⟩
  rw [wrapped, read_render_of_nonempty (by simp [single])]
  rfl

/-- A compressed send of `tank@1`: `zfs send` piped into a script that itself holds a pipe. -/
def compressedSend : Command := ⟨[["zfs", "send", "-c", "tank@1"], ["sh", "-c", "gzip -1 | cat"]]⟩

theorem read_render_compressedSend :
    (∀ stage ∈ compressedSend.stages, stage ≠ []) ∧
      read compressedSend.render = compressedSend.stages ∧
      ∀ side ssh, side.host ≠ "localhost" →
        ∃ args, compressedSend.onSide side ssh =
            single (("ssh" :: args) ++ [compressedSend.render]) ∧
          read (compressedSend.onSide side ssh).render =
            [("ssh" :: args) ++ [compressedSend.render]] :=
  ⟨by decide, read_render compressedSend (by decide)⟩

end Command

end ZfsReplication.Shell
