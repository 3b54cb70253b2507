/-
# SqlLex.Proofs.Boundary -- a run can be cut between any two tokens

Between two tokens nothing is remembered but the cursor.  A reading can therefore
be cut behind any of its pieces (`Reading.take`, `Reading.drop`), and the pieces
read so far are read in the same way when nothing stands behind them
(`Reading.alone`): no rule is chosen, and none stops, for the sake of a character
that comes later than the text it covers, unless that character would have
lengthened it.

So a text cut at a boundary makes two runs that together are the run over the whole
text (`tokenize_cut`).  The second one reads the same pieces from whatever cursor
it is started with; `Tokenizer.unplaced` is what an outcome says apart from
positions.
-/
import SqlLex.Proofs.Contiguity

namespace SqlLex

set_option autoImplicit false

variable {d : Dialect} {r : Rule} {c : Char} {cs last middle u w x : List Char}
variable {ps qs : List Piece}

/-! ## A lexeme with nothing behind it -/

namespace Rule

/-- A rule takes its first characters from every spelling. -/
theorem Spells.head_le_length (h : Spells d r u) : r.head ≤ u.length := by
  have some : 0 < u.length := List.length_pos_iff.2 h.ne_nil
  cases h with
  | whitespace | whole | decimal => exact some
  | operator spelled => exact Nat.le_of_eq spelled.width
  | _ => simp [head]

/-- The character behind the first one only counts where it is taken too. -/
theorem operatorChoice_alone_or (c : Char) (second : Option Char) :
    operatorChoice c second = operatorChoice c none ∨
      ∃ r, operatorChoice c second = .rule r ∧ r.head = 2 := by
  cases second with
  | none => exact .inl rfl
  | some e =>
      cases pair : Operator.ofPair? c e with
      | none => exact .inl (by simp [operatorChoice, Operator.longest?, pair])
      | some o =>
          obtain ⟨kind, -, rfl⟩ := Option.map_eq_some_iff.1 pair
          exact .inr ⟨_, by rw [operatorChoice, Operator.longest?_pair pair], rfl⟩

theorem wordChoice_alone_or (d : Dialect) (c : Char) (second : Option Char) :
    wordChoice d c second = wordChoice d c none ∨
      ∃ r, wordChoice d c second = .rule r ∧ r.head = 2 := by
  by_cases opens : d.opensQuoted c
  · exact .inl (by simp [wordChoice, opens])
  by_cases begins : d.beginsWord c
  · exact .inl (by simp [wordChoice, begins])
  by_cases digit : c.isDigit
  · exact .inl (by simp [wordChoice, digit])
  by_cases dashes : c = '-' ∧ second = some '-'
  · obtain ⟨rfl, rfl⟩ := dashes
    exact .inr ⟨.lineComment, by simp [wordChoice, opens, begins], rfl⟩
  by_cases opening : c = '/' ∧ second = some '*'
  · obtain ⟨rfl, rfl⟩ := opening
    exact .inr ⟨.blockComment, by simp [wordChoice, opens, begins], rfl⟩
  · simpa [wordChoice, opens, begins, digit, dashes, opening] using
      operatorChoice_alone_or c second

theorem charChoice_alone_or (d : Dialect) (c : Char) (second : Option Char) :
    charChoice d c second = charChoice d c none ∨
      ∃ r, charChoice d c second = .rule r ∧ r.head = 2 := by
  cases blank : Blank.of? c with
  | some b => exact .inl (by simp [charChoice, blank])
  | none =>
      by_cases quote : c = Literal.quote
      · exact .inl (by simp [charChoice, quote])
      by_cases letter : (c = 'N' ∨ c = 'n') ∧ second = some Literal.quote
      · exact .inr ⟨.string true, by simp [charChoice, blank, quote, letter], rfl⟩
      · simpa [charChoice, blank, quote, letter] using wordChoice_alone_or d c second

/-- A rule is chosen whatever stands behind the text that it covers. -/
theorem choice_truncate (spells : Spells d r u) (chosen : choice d (u ++ (w ++ x)) = .rule r) :
    choice d (u ++ w) = .rule r := by
  obtain ⟨c, t, rfl⟩ := List.exists_cons_of_ne_nil spells.ne_nil
  simp only [List.cons_append, choice] at chosen ⊢
  cases rest : t ++ w with
  | cons e rest' =>
      rw [← List.append_assoc, rest] at chosen
      exact chosen
  | nil =>
      obtain ⟨rfl, rfl⟩ := List.append_eq_nil_iff.1 rest
      rcases charChoice_alone_or d c x.head? with same | ⟨longer, other, wide⟩
      · rw [← chosen]
        exact same.symm
      · -- a rule that takes two characters has no spelling of one
        obtain rfl := Choice.rule.inj (other.symm.trans chosen)
        have narrow : longer.head ≤ 1 := spells.head_le_length
        omega

/-- A lexeme ends where less stands behind it. -/
theorem Ends.truncate (ends : Ends d r u (w ++ x)) : Ends d r u w := by
  have fronts : ∀ c ∈ w.head?, c ∈ (w ++ x).head? := by
    intro c front
    obtain ⟨t, rfl⟩ := List.head?_eq_some_iff.1 front
    rfl
  cases r with
  | whitespace blank => exact fun c front => ends c (fronts c front)
  | string national => exact fun front => ends (fronts _ front)
  | quoted opening => trivial
  | word =>
      exact ⟨fun c front => ends.1 c (fronts c front),
        fun letter front => ends.2 letter (fronts _ front)⟩
  | number =>
      refine ⟨fun c front => ends.1 c (fronts c front), ?_⟩
      rintro bare c rest rfl
      exact ends.2 bare c (rest ++ x) rfl
  | lineComment => exact fun c front => ends c (fronts c front)
  | blockComment => trivial
  | operator o => exact fun c single e front => ends c single e (fronts e front)

theorem Covers.truncate (covers : Covers d r u (w ++ x)) : Covers d r u w :=
  ⟨choice_truncate covers.spells covers.chosen, covers.spells, covers.ends.truncate⟩

end Rule

/-! ## Parts of a reading -/

namespace Reading

theorem append (first : Reading d middle cs ps) (more : Reading d last middle qs) :
    Reading d last cs (ps ++ qs) := by
  induction first with
  | done => exact more
  | step covers _ ih => exact .step covers ih

theorem take (h : Reading d last cs ps) (n : Nat) :
    Reading d (Piece.slices (ps.drop n) ++ last) cs (ps.take n) := by
  induction h generalizing n with
  | done => simpa using .done
  | @step p rest ps covers reading ih =>
      cases n with
      | zero =>
          have text : p.slice ++ rest = Piece.slices (p :: ps) ++ last := by
            rw [reading.text, Piece.slices_cons, List.append_assoc]
          rw [text]
          exact .done
      | succ n => exact .step covers (ih n)

theorem drop (h : Reading d last cs ps) (n : Nat) :
    Reading d last (Piece.slices (ps.drop n) ++ last) (ps.drop n) := by
  induction h generalizing n with
  | done => simpa using .done
  | @step p rest ps covers reading ih =>
      cases n with
      | zero =>
          have text : Piece.slices (p :: ps) ++ last = p.slice ++ rest := by
            rw [reading.text, Piece.slices_cons, List.append_assoc]
          rw [List.drop_zero, text]
          exact .step covers reading
      | succ n => exact ih n

/-- **The pieces of a reading are read when nothing stands behind them.** -/
theorem alone (h : Reading d last cs ps) : Reading d [] (Piece.slices ps) ps := by
  induction h with
  | done => exact .done
  | @step p rest ps covers reading ih =>
      rw [reading.text] at covers
      exact .step covers.truncate ih

/-- **A text can be cut behind any piece of its reading.** -/
theorem exists_cut {s : String} (h : Reading d last s.toList ps) (n : Nat) :
    ∃ p r : String, s = p ++ r ∧ p.toList = Piece.slices (ps.take n) ∧
      Reading d [] p.toList (ps.take n) ∧ Reading d last r.toList (ps.drop n) := by
  let p : String := .ofList (Piece.slices (ps.take n))
  let r : String := .ofList (Piece.slices (ps.drop n) ++ last)
  have before : p.toList = Piece.slices (ps.take n) := String.toList_ofList
  have behind : r.toList = Piece.slices (ps.drop n) ++ last := String.toList_ofList
  refine ⟨p, r, ?_, before, ?_, ?_⟩
  · rw [← String.toList_inj, String.toList_append, before, behind, h.text, ← List.append_assoc,
      ← Piece.slices_append, List.take_append_drop]
  · rw [before]
    exact (h.take n).alone
  · rw [behind]
    exact h.drop n

end Reading

theorem Piece.take_place (k : Cursor) (ps : List Piece) (n : Nat) :
    (place d k ps).take n = place d k (ps.take n) := by
  induction ps generalizing k n with
  | nil => simp [place]
  | cons p ps ih =>
      cases n with
      | zero => rfl
      | succ n => simp [place, ih]

/-! ## Outcomes -/

/-- What an error says apart from positions. -/
def Error.fault : Error → Fault
  | .unterminated construct _ _ => .unterminated construct
  | .invalidCharacter c _ => .invalidCharacter c
  | e => .source e

theorem Halts.fault_error {f : Fault} {taken left : List Char} (h : Halts d (some f) taken left)
    (start stop : Position) : (f.error start stop).fault = f := by
  cases h <;> rfl

namespace Tokenizer

/-- An outcome with these tokens read before. -/
def prepend (tokens : List Token) : Except Failure (List Token) → Except Failure (List Token)
  | .ok more => .ok (tokens ++ more)
  | .error failure => .error ⟨failure.error, tokens ++ failure.tokens⟩

/-- What an outcome says apart from positions: the lexemes, and the fault if there was one. -/
def unplaced : Except Failure (List Token) → List Lexeme × Option Fault
  | .ok tokens => (tokens.map Token.toLexeme, none)
  | .error failure => (failure.tokens.map Token.toLexeme, some failure.error.fault)

theorem prepend_outcome (tokens more : List Token) (k : Cursor) (taken : List Char)
    (fault : Option Fault) :
    prepend tokens (Fault.outcome more k taken fault) =
      Fault.outcome (tokens ++ more) k taken fault := by
  cases fault <;> rfl

theorem unplaced_outcome {fault : Option Fault} {taken left : List Char}
    (halts : Halts d fault taken left) (tokens : List Token) (k : Cursor) :
    unplaced (Fault.outcome tokens k taken fault) = (tokens.map Token.toLexeme, fault) := by
  cases fault with
  | none => rfl
  | some f => simp [Fault.outcome, unplaced, halts.fault_error]

/-- The outcome of a run from any cursor, by the reading of the text. -/
theorem outcome_of_reading {fault : Option Fault} {taken left : List Char} {s : String}
    (reading : Reading d (taken ++ left) s.toList ps) (halts : Halts d fault taken left)
    (k : Cursor) :
    ({ ofString d s with cursor := k } : Tokenizer).tokenize.1 =
      Fault.outcome (Piece.place d k ps) (k.advanceAll (Piece.slices ps)) taken fault := by
  obtain ⟨rest, -, run⟩ := tokenize_of_reading (s := .ofString s) reading halts k rfl
  exact congrArg Prod.fst run

/-- From every cursor a text says the same. -/
theorem unplaced_tokenize (d : Dialect) (s : String) (k : Cursor) :
    unplaced ({ ofString d s with cursor := k } : Tokenizer).tokenize.1 =
      unplaced (ofString d s).tokenize.1 := by
  obtain ⟨ps, fault, taken, left, reading, halts⟩ := exists_reading d s.toList
  have lexemes : ∀ k : Cursor,
      unplaced ({ ofString d s with cursor := k } : Tokenizer).tokenize.1 =
        (ps.map (Piece.lexeme d), fault) := by
    intro k
    rw [outcome_of_reading reading halts, unplaced_outcome halts, Piece.toLexeme_place]
  exact (lexemes k).trans (lexemes .start).symm

end Tokenizer

/-! ## Two runs in place of one -/

/-- **A run can be cut behind any of its tokens.**  The text `p` that the first tokens cover is
tokenized to them, and the text `r` behind it to the others with the same end, from the cursor
behind `p`; from a fresh cursor `r` gives the same up to positions. -/
theorem tokenize_cut (d : Dialect) (s : String) (n : Nat) :
    let run := (Tokenizer.ofString d s).tokenize.1
    let first := (Tokenizer.tokensOf run).take n
    ∃ (ps : List Piece) (last : List Char) (p r : String),
      Reading d last s.toList ps ∧ Tokenizer.tokensOf run = Piece.place d .start ps ∧
        p.toList = Piece.slices (ps.take n) ∧ s = p ++ r ∧
        (Tokenizer.ofString d p).tokenize.1 = .ok first ∧
        let fresh := Tokenizer.ofString d r
        let moved : Tokenizer := { fresh with cursor := Cursor.start.advanceAll p.toList }
        run = Tokenizer.prepend first moved.tokenize.1 ∧
          Tokenizer.unplaced fresh.tokenize.1 = Tokenizer.unplaced moved.tokenize.1 := by
  intro run first
  obtain ⟨ps, fault, taken, left, reading, halts⟩ := exists_reading d s.toList
  obtain ⟨p, r, joined, covered, former, latter⟩ := reading.exists_cut n
  have whole : run = _ := Tokenizer.outcome_of_reading reading halts .start
  have tokens : Tokenizer.tokensOf run = Piece.place d .start ps := by
    rw [whole, Tokenizer.tokensOf_outcome]
  have taking : first = Piece.place d .start (ps.take n) := by
    rw [← Piece.take_place, ← tokens]
  refine ⟨ps, taken ++ left, p, r, reading, tokens, covered, joined, ?_, ?_, ?_⟩
  · rw [taking]
    exact Tokenizer.outcome_of_reading former .finished .start
  · -- both sides place all pieces and end where all of them end
    rw [Tokenizer.outcome_of_reading latter halts, Tokenizer.prepend_outcome, taking, covered,
      ← Piece.place_append, ← Cursor.advanceAll_append, ← Piece.slices_append,
      List.take_append_drop, whole]
  · exact (Tokenizer.unplaced_tokenize d r _).symm

end SqlLex
