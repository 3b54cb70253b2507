/-
# SqlLex.Proofs.Halting -- what an error says of the text

A run over a text fails for one of two reasons: a character that begins nothing, or
a construct that is still open at the end.  `Error.Explains` says what the error
then tells of the text that was read, of the rest, and of the tokenizer that
stopped; `Enclosed.Open` says that a construct begins at the front of a text and
that no prefix of the text closes it.

A source over a text never fails, so no other error occurs
(`tokenize_failure_explained`).
-/
import Mathlib.Control.Monad.Basic
import SqlLex.Dialect.Preset
import SqlLex.Proofs.Contiguity

namespace SqlLex

set_option autoImplicit false

variable {d : Dialect} {r : Rule} {construct : Enclosed} {cs u w : List Char}

/-- The construct begins at the front of the text, and no prefix of the text is the whole of it: a
string that looks closed is followed by one more quote. -/
def Enclosed.Open (d : Dialect) (cs : List Char) : Enclosed → Prop
  | .string =>
      (∃ body, cs = Literal.quote :: body ∨
          cs = 'N' :: Literal.quote :: body ∨ cs = 'n' :: Literal.quote :: body) ∧
        ∀ national u w, cs = u ++ w → Rule.Spells d (.string national) u →
          w.head? = some Literal.quote
  | .comment => ['/', '*'] <+: cs ∧ ∀ u, u <+: cs → ¬ Rule.Spells d .blockComment u
  | .quotedIdentifier =>
      (∃ opening ∈ cs.head?, d.opensQuoted opening = true) ∧
        ∀ opening u, u <+: cs → ¬ Rule.Spells d (.quoted opening) u

/-- What an error tells of the text read before it, of the rest, and of the tokenizer that stopped
between or behind them. -/
def Error.Explains (d : Dialect) (before rest : List Char) (after : Tokenizer) : Error → Prop
  | .invalidCharacter c position =>
      rest.head? = some c ∧ position = Cursor.behind before ∧
        after.source.pending = rest.map .char
  | .unterminated construct start stop =>
      start = Cursor.behind before ∧ stop = Cursor.behind (before ++ rest) ∧
        after.source.pending = [] ∧ construct.Open d rest
  | .io _ | .configuration _ => False

/-! ## Open constructs -/

namespace Rule

/-- Where a rule takes everything and has not come to an end, no prefix of the text is a whole
lexeme of the rule. -/
theorem not_ends_of_ended
    (whole : ∀ s : Source, s.pending = cs.map .char → (r.cut d s).Yields cs .ended [])
    (same : cs = u ++ w) (spells : Spells d r u) : ¬ Ends d r u w := by
  intro ends
  -- the rule would have completed on the prefix, but a rule stops in one way only
  have complete := cut_of_spells spells ends (s := .ofChars (u ++ w)) rfl
  have ended := whole (.ofChars (u ++ w)) (by rw [same]; rfl)
  have stops : Stop.complete = .ended := complete.stop.symm.trans ended.stop
  cases stops

end Rule

/-- **A construct that takes everything and has not come to an end is open.** -/
theorem Enclosed.open_of_ended (chosen : Rule.choice d cs = .rule r)
    (has : r.construct = some construct)
    (whole : ∀ s : Source, s.pending = cs.map .char → (r.cut d s).Yields cs .ended []) :
    construct.Open d cs := by
  obtain ⟨c, cs, rfl⟩ : ∃ c t, cs = c :: t := by
    cases cs with
    | nil => simp [Rule.choice] at chosen
    | cons c t => exact ⟨c, t, rfl⟩
  have begins := Rule.begins_of_choice chosen
  cases r with
  | string national =>
      obtain rfl : .string = construct := Option.some.inj has
      constructor
      · cases national with
        | false =>
            obtain rfl : c = Literal.quote := begins
            exact ⟨cs, .inl rfl⟩
        | true =>
            obtain ⟨rfl | rfl, second⟩ := begins
            all_goals
              obtain ⟨body, rfl⟩ := List.head?_eq_some_iff.1 second
              exact ⟨body, by simp⟩
      · -- a complete literal of the other sort would have been chosen in place of this one
        intro other u w same spells
        obtain rfl : national = other := by
          rw [same, Rule.choice_of_string spells] at chosen
          simpa using chosen.symm
        exact Decidable.not_not.1 (Rule.not_ends_of_ended whole same spells)
  | quoted opening =>
      obtain rfl : .quotedIdentifier = construct := Option.some.inj has
      obtain ⟨rfl, opens⟩ := begins
      refine ⟨⟨c, rfl, opens⟩, ?_⟩
      rintro other u ⟨w, same⟩ spells
      obtain rfl : other = c := by
        cases spells
        simpa using congrArg List.head? same
      exact Rule.not_ends_of_ended whole same.symm spells trivial
  | blockComment =>
      obtain rfl : .comment = construct := Option.some.inj has
      obtain ⟨rfl, second⟩ := begins
      obtain ⟨rest, rfl⟩ := List.head?_eq_some_iff.1 second
      refine ⟨⟨rest, rfl⟩, ?_⟩
      rintro u ⟨w, same⟩ spells
      exact Rule.not_ends_of_ended whole same.symm spells trivial
  | _ => cases has

/-! ## Failing runs -/

/-- **A run over a text fails only for a lexical reason.  Some text is left then, the tokenizer is
done, and the error says where and on what it stopped.** -/
theorem tokenize_failure_explained (d : Dialect) (s : String) (failure : Failure)
    (failed : (Tokenizer.ofString d s).tokenize.1 = .error failure) :
    let after := (Tokenizer.ofString d s).tokenize.2
    ∃ (ps : List Piece) (rest : List Char),
      Reading d rest s.toList ps ∧ failure.tokens = Piece.place d .start ps ∧
        rest ≠ [] ∧ after.done = true ∧ failure.error.isLexical = true ∧
        failure.error.position = some after.position ∧
        failure.error.Explains d (Piece.slices ps) rest after := by
  intro after
  obtain ⟨ps, fault, taken, left, reading, halts, source, pending, run⟩ :=
    Tokenizer.exists_reading_run d s
  have stopped : after = _ := congrArg Prod.snd run
  rw [run] at failed
  rw [stopped]
  have some : taken ++ left ≠ [] := by
    intro none
    rw [halts.text_eq_nil_iff.1 none] at failed
    cases failed
  refine ⟨ps, taken ++ left, reading, ?_⟩
  cases halts with
  | finished => exact absurd rfl some
  | invalid chosen =>
      obtain rfl := Except.error.inj failed
      refine ⟨rfl, some, rfl, rfl, ?_, rfl, rfl, pending⟩
      simp [Fault.error, Error.position, Tokenizer.position]
  | unterminated chosen has whole =>
      obtain rfl := Except.error.inj failed
      refine ⟨rfl, some, rfl, rfl, ?_, rfl, ?_, pending, ?_⟩
      · simp [Fault.error, Error.position, Tokenizer.position, Cursor.advanceAll_append]
      · simp [Cursor.behind, Cursor.advanceAll_append]
      · rw [List.append_nil]
        exact Enclosed.open_of_ended chosen has whole

/-- The last quote is escaped, so the literal behind the line break stays open. -/
theorem tokenize_failure_escaped_quote :
    let run := (Tokenizer.ofString Preset.mysql.dialect "a\n'it''s\\'").tokenize
    ∃ tokens, run.1 = .error ⟨.unterminated .string ⟨2, 0⟩ ⟨2, 8⟩, tokens⟩ ∧
      tokens.length = 2 ∧ run.2.source.pending = [] ∧
      ∃ rest, rest ≠ [] ∧ Enclosed.string.Open Preset.mysql.dialect rest := by
  intro run
  have failed : run.1 = .error ⟨.unterminated .string ⟨2, 0⟩ ⟨2, 8⟩,
      [⟨⟨.word, .word ⟨"a", none, none⟩, none⟩, ⟨1, 0⟩, ⟨1, 1⟩⟩,
        ⟨⟨.whitespace, .text "\n", none⟩, ⟨1, 1⟩, ⟨2, 0⟩⟩]⟩ := by
    decide +kernel
  obtain ⟨ps, rest, -, -, some, -, -, -, -, -, consumed, unclosed⟩ :=
    tokenize_failure_explained Preset.mysql.dialect _ _ failed
  exact ⟨_, failed, rfl, consumed, rest, some, unclosed⟩

end SqlLex
