/-
# SqlLex.Proofs.LineFeed -- texts one below the other

In an orderly dialect a line feed belongs to nothing but whitespace, so every
lexeme that ends a text ends in front of a line feed too (`Ends.lineFeed`).  Behind
the line feed the cursor stands at the beginning of a line, as it does in front of
a text, only further down; and reading moves a cursor in the same way on every
line (`Cursor.advance_down`).

So when two texts are written one below the other, the run over both is the run
over the first, the line feed, and the run over the second with its lines counted
on (`Preset.tokenize_lineFeed`).
-/
import Mathlib.Control.Monad.Basic
import SqlLex.Proofs.Boundary
import SqlLex.Proofs.Orderly

namespace SqlLex

set_option autoImplicit false

variable {d : Dialect} {r : Rule} {b cs u w : List Char} {ps : List Piece}

/-! ## Further down -/

/-- The position `n` lines further down. -/
def Position.down (n : Nat) (p : Position) : Position := ⟨p.line + n, p.column⟩

/-- The token `n` lines further down. -/
def Token.down (n : Nat) (t : Token) : Token := ⟨t.toLexeme, t.start.down n, t.stop.down n⟩

/-- The error `n` lines further down. -/
def Error.down (n : Nat) : Error → Error
  | .unterminated construct start stop => .unterminated construct (start.down n) (stop.down n)
  | .invalidCharacter c position => .invalidCharacter c (position.down n)
  | e => e

/-- The outcome of a run `n` lines further down. -/
def Tokenizer.down (n : Nat) : Except Failure (List Token) → Except Failure (List Token)
  | .ok tokens => .ok (tokens.map (Token.down n))
  | .error failure => .error ⟨failure.error.down n, failure.tokens.map (Token.down n)⟩

namespace Cursor

/-- The cursor `n` lines further down. -/
def down (n : Nat) (k : Cursor) : Cursor := ⟨k.position.down n, k.afterReturn⟩

@[simp] theorem position_down (n : Nat) (k : Cursor) : (k.down n).position = k.position.down n :=
  rfl

/-- A character moves a cursor in the same way on every line. -/
theorem advance_down (n : Nat) (k : Cursor) (c : Char) :
    (k.down n).advance c = (k.advance c).down n := by
  by_cases second : c = '\n' ∧ k.afterReturn = true
  · simp [advance, down, second]
  by_cases breaks : c = '\n' ∨ c = '\r'
  · simp [advance, down, Position.down, second, breaks, Nat.add_right_comm]
  · simp [advance, down, Position.down, second, breaks]

theorem advanceAll_down (n : Nat) (k : Cursor) (cs : List Char) :
    (k.down n).advanceAll cs = (k.advanceAll cs).down n := by
  induction cs generalizing k with
  | nil => rfl
  | cons c cs ih => rw [advanceAll_cons, advanceAll_cons, advance_down, ih]

/-- Behind a text that does not end in a return a line feed counts. -/
theorem off_of_last (other : '\r' ∉ cs.getLast?) :
    (start.advanceAll cs).afterReturn = false := by
  cases cs with
  | nil => rfl
  | cons c cs =>
      apply Bool.eq_false_iff.2
      intro on
      exact other (last_of_afterReturn (List.cons_ne_nil c cs) on)

/-- Behind a line feed the cursor is that of an empty text, further down. -/
theorem advance_lineFeed {k : Cursor} (off : k.afterReturn = false) :
    k.advance '\n' = start.down k.position.line := by
  simp [advance, down, Position.down, start, Position.origin, off, Nat.add_comm]

/-- Behind a line feed a text moves the cursor as from the beginning, further down. -/
theorem advanceAll_lineFeed {k : Cursor} (off : k.afterReturn = false) (cs : List Char) :
    k.advanceAll ('\n' :: cs) = (start.advanceAll cs).down k.position.line := by
  rw [advanceAll_cons, advance_lineFeed off, advanceAll_down]

end Cursor

namespace Piece

theorem place_down (n : Nat) (k : Cursor) (ps : List Piece) :
    place d (k.down n) ps = (place d k ps).map (Token.down n) := by
  induction ps generalizing k with
  | nil => rfl
  | cons p ps ih => simp [place, Cursor.advanceAll_down, ih, Token.down]

/-- A line feed. -/
def lineFeed : Piece := ⟨.whitespace .lineBreak, ['\n']⟩

/-- Pieces behind a line feed are placed as from the beginning, further down. -/
theorem place_lineFeed {k : Cursor} (off : k.afterReturn = false) (ps : List Piece) :
    place d k (lineFeed :: ps) =
      ⟨⟨.whitespace, .text "\n", none⟩, k.position, ⟨k.position.line + 1, 0⟩⟩ ::
        (place d .start ps).map (Token.down k.position.line) := by
  have beyond : k.advanceAll lineFeed.slice = Cursor.start.down k.position.line :=
    Cursor.advance_lineFeed off
  have column : (Cursor.start.down k.position.line).position = ⟨k.position.line + 1, 0⟩ := by
    rw [Cursor.position_down, Nat.add_comm]
    rfl
  rw [place, beyond, place_down, column]
  rfl

end Piece

theorem Halts.outcome_down {fault : Option Fault} {taken left : List Char}
    (halts : Halts d fault taken left) (n : Nat) (tokens : List Token) (k : Cursor) :
    Fault.outcome (tokens.map (Token.down n)) (k.down n) taken fault =
      Tokenizer.down n (Fault.outcome tokens k taken fault) := by
  cases halts with
  | finished => rfl
  | invalid => rfl
  | unterminated =>
      simp only [Fault.outcome, Cursor.advanceAll_down]
      rfl

/-! ## In front of a line feed -/

/-- **In an orderly dialect every lexeme but a line break ends in front of a line feed.** -/
theorem Rule.Ends.lineFeed (orderly : d.Orderly) (spells : Spells d r u) (ends : Ends d r u w)
    (closed : ∀ c ∈ (u ++ w).getLast?, c ≠ '\n' ∧ c ≠ '\r') :
    Ends d r u (w ++ '\n' :: b) := by
  cases w with
  | cons c w =>
      -- only a number looks beyond the first character behind it
      cases r with
      | number =>
          refine ⟨ends.1, ?_⟩
          intro bare e rest same
          cases w with
          | nil =>
              obtain rfl : '\n' = e := by simpa using (List.cons.inj (List.cons.inj same).2).1
              rfl
          | cons x w =>
              obtain ⟨rfl, rfl, -⟩ : c = '.' ∧ x = e ∧ _ := by simpa using same
              exact ends.2 bare x w rfl
      | _ => exact ends
  | nil =>
      -- the line feed stands right behind the lexeme
      cases r with
      | whitespace blank =>
          cases spells with
          | whitespace some all =>
              rintro _ ⟨⟩ feed
              obtain rfl := Blank.eq_of_mem_chars (b := .lineBreak) (by decide) feed
              have last : u.getLast some ∈ (u ++ []).getLast? := by
                rw [List.append_nil, List.getLast?_eq_some_getLast some]
                rfl
              have breaks := all _ (List.getLast_mem some)
              simp [Blank.chars, closed _ last] at breaks
      | string national => simp [Ends, Literal.quote]
      | quoted opening => trivial
      | word =>
          constructor
          · rintro _ ⟨⟩
            exact orderly.continues_mark '\n' (by simp)
          · simp [Literal.quote]
      | number => exact ⟨by simp, by simp⟩
      | lineComment =>
          rintro _ ⟨⟩
          exact .inl rfl
      | blockComment => trivial
      | operator o =>
          rintro c - _ ⟨⟩
          exact Operator.not_joins c (by decide)

/-- A text that does not end in a line break is read in the same way in front of a line feed. -/
theorem Reading.lineFeed (orderly : d.Orderly) (h : Reading d [] cs ps)
    (closed : ∀ c ∈ cs.getLast?, c ≠ '\n' ∧ c ≠ '\r') :
    Reading d ('\n' :: b) (cs ++ '\n' :: b) ps := by
  induction h with
  | done => exact .done
  | @step p rest ps covers reading ih =>
      have later : ∀ c ∈ rest.getLast?, c ≠ '\n' ∧ c ≠ '\r' := by
        intro c last
        exact closed c (by simp [List.getLast?_append, Option.mem_def.1 last])
      rw [List.append_assoc]
      exact .step (Rule.covers_of_spells orderly covers.spells
        (covers.ends.lineFeed orderly covers.spells closed)) (ih later)

/-- A text that does not begin with a line break is read in the same way behind a line feed. -/
theorem Reading.behind_lineFeed {last : List Char} (h : Reading d last cs ps)
    (opens : ∀ c ∈ cs.head?, c ≠ '\n' ∧ c ≠ '\r') :
    Reading d last ('\n' :: cs) (Piece.lineFeed :: ps) := by
  have spells : Rule.Spells d (.whitespace .lineBreak) ['\n'] :=
    .whitespace (List.cons_ne_nil _ _) (by simp [Blank.chars])
  refine .step (p := Piece.lineFeed) ⟨rfl, spells, ?_⟩ h
  intro c front
  simpa [Blank.chars] using opens c front

/-- **Texts one below the other are read one after the other, with the line feed between.** -/
theorem Reading.stacked (orderly : d.Orderly) {a b : String} {last : List Char} {qs : List Piece}
    (above : Reading d [] a.toList ps) (below : Reading d last b.toList qs)
    (closed : ∀ c ∈ a.toList.getLast?, c ≠ '\n' ∧ c ≠ '\r')
    (opens : ∀ c ∈ b.toList.head?, c ≠ '\n' ∧ c ≠ '\r') :
    Reading d last (a ++ "\n" ++ b).toList (ps ++ Piece.lineFeed :: qs) := by
  have lines : (a ++ "\n" ++ b).toList = a.toList ++ '\n' :: b.toList := by simp
  rw [lines]
  exact (above.lineFeed orderly closed).append (below.behind_lineFeed opens)

/-! ## Two texts -/

/-- **Texts one below the other are read one after the other.**  Between their tokens stands the
line feed, and behind it every line is counted on from the last line of the first text. -/
theorem Preset.tokenize_lineFeed (p : Preset) (a b : String)
    (accepted : (Tokenizer.ofString p.dialect a).tokenize.1.isOk = true)
    (closed : ∀ c ∈ a.toList.getLast?, c ≠ '\n' ∧ c ≠ '\r')
    (opens : ∀ c ∈ b.toList.head?, c ≠ '\n' ∧ c ≠ '\r') :
    let above := (Tokenizer.ofString p.dialect a).tokenize
    let below := (Tokenizer.ofString p.dialect b).tokenize
    let stop := above.2.position
    let feed : Token := ⟨⟨.whitespace, .text "\n", none⟩, stop, ⟨stop.line + 1, 0⟩⟩
    (Tokenizer.ofString p.dialect (a ++ "\n" ++ b)).tokenize.1 =
      Tokenizer.prepend (Tokenizer.tokensOf above.1 ++ [feed])
        (Tokenizer.down stop.line below.1) := by
  intro above below stop feed
  obtain ⟨ps, reading, tokens, stands⟩ := Tokenizer.exists_reading_of_isOk accepted
  have stands : (Cursor.start.advanceAll a.toList).position = stop := stands.symm
  obtain ⟨qs, fault, taken, left, reading', halts⟩ := exists_reading p.dialect b.toList
  have second : below.1 = _ := Tokenizer.outcome_of_reading reading' halts .start
  have text : Piece.slices ps = a.toList := by simpa using reading.text.symm
  have off : (Cursor.start.advanceAll a.toList).afterReturn = false :=
    Cursor.off_of_last fun back => (closed _ back).2 rfl
  have placed : Piece.place p.dialect .start (ps ++ Piece.lineFeed :: qs) =
      (Tokenizer.tokensOf above.1 ++ [feed]) ++
        (Piece.place p.dialect .start qs).map (Token.down stop.line) := by
    rw [Piece.place_append, text, Piece.place_lineFeed off, stands, tokens, List.append_assoc]
    rfl
  have cursor : Cursor.start.advanceAll (Piece.slices (ps ++ Piece.lineFeed :: qs)) =
      (Cursor.start.advanceAll (Piece.slices qs)).down stop.line := by
    rw [Piece.slices_append, Cursor.advanceAll_append, text, ← stands]
    exact Cursor.advanceAll_lineFeed off _
  have whole := Tokenizer.outcome_of_reading (reading.stacked p.orderly reading' closed opens)
    halts .start
  rw [placed, cursor] at whole
  rw [second, ← halts.outcome_down, Tokenizer.prepend_outcome]
  exact whole

/-- The line feed keeps a letter from the quote below it, and the string stays open two lines
further down. -/
theorem tokenize_lineFeed_letter :
    let a := "x\r\nn"
    let b := "'y\n"
    (Tokenizer.ofString Preset.generic.dialect a).tokenize.1.isOk = true ∧
      (∀ c ∈ a.toList.getLast?, c ≠ '\n' ∧ c ≠ '\r') ∧
      (∀ c ∈ b.toList.head?, c ≠ '\n' ∧ c ≠ '\r') ∧
      ∃ tokens, tokens.length = 4 ∧
        (Tokenizer.ofString Preset.generic.dialect (a ++ "\n" ++ b)).tokenize.1 =
          .error ⟨.unterminated .string ⟨3, 0⟩ ⟨4, 0⟩, tokens⟩ := by
  intro a b
  have accepted : (Tokenizer.ofString Preset.generic.dialect a).tokenize.1.isOk = true := by
    decide +kernel
  have closed : ∀ c ∈ a.toList.getLast?, c ≠ '\n' ∧ c ≠ '\r' := by simp [a]
  have opens : ∀ c ∈ b.toList.head?, c ≠ '\n' ∧ c ≠ '\r' := by simp [b]
  have unclosed : (Tokenizer.ofString Preset.generic.dialect b).tokenize.1 =
      .error ⟨.unterminated .string ⟨1, 0⟩ ⟨2, 0⟩, []⟩ := by
    decide +kernel
  have stop : (Tokenizer.ofString Preset.generic.dialect a).tokenize.2.position = ⟨2, 1⟩ := by
    decide +kernel
  have count : (Tokenizer.tokensOf
      (Tokenizer.ofString Preset.generic.dialect a).tokenize.1).length = 3 := by
    decide +kernel
  have whole := Preset.tokenize_lineFeed .generic a b accepted closed opens
  dsimp only at whole
  rw [unclosed, stop] at whole
  exact ⟨accepted, closed, opens, _, by simp [count], whole⟩

end SqlLex
