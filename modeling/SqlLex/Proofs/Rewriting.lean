/-
# SqlLex.Proofs.Rewriting -- texts that are read alike

Two texts, perhaps in two dialects, are read alike when the second is the first
rewritten piece by piece.  A `Rewriting` is what such a comparison owes: what becomes
of the characters of a piece and of what the piece says, that every decision of the
reading comes out the same, and which cursors stand beside each other in the two
texts.  Each condition is about one piece or one open construct; the induction over
the text is done here once.

The conditions are stated on the grammar, without reading: a spelling stays a
spelling, a lexeme still ends where it ended, and a construct that stays open
(`Rule.Unclosed`) stays open.  Then the run over the second text is the run over the
first with every lexeme rewritten, the same error if there was one, and the same
position behind it (`Rewriting.tokenize_rewritten`).
-/
import SqlLex.Proofs.Halting

namespace SqlLex

set_option autoImplicit false

variable {d d' : Dialect} {r : Rule} {construct : Enclosed} {cs last u w text : List Char}

/-! ## Constructs that stay open -/

/-- What stands behind the opening quote of a string that is never closed. -/
inductive Literal.Unclosed (escapes : Bool) : List Char → Prop where
  | body {cs : List Char} : Body escapes cs → Unclosed escapes cs
  | escape {cs : List Char} : escapes = true → Body escapes cs →
      Unclosed escapes (cs ++ [escapeChar])

theorem Literal.unclosed_of_not_closed {escapes : Bool}
    (open_ : ∀ body behind, cs = body ++ quote :: behind → Body escapes body →
      quote ∈ behind.head?) : Unclosed escapes cs := by
  cases outcome escapes cs with
  | closed well single => exact absurd (open_ _ _ rfl well) single
  | opened well => exact .body well
  | escaping on well => exact .escape on well

theorem Literal.Unclosed.takeString {escapes : Bool} {s : Source}
    (h : Unclosed escapes cs) (text : s.pending = cs.map .char) :
    (s.takeString escapes).Yields cs .ended [] := by
  cases h with
  | body well => exact Source.takeString_open well text
  | escape on well =>
      subst on
      exact Source.takeString_open_escape well text

namespace Rule

/-- The texts that a rule takes to their end and leaves open. -/
inductive Unclosed (d : Dialect) : Rule → List Char → Prop where
  | string {body : List Char} : Literal.Unclosed d.backslashEscapes body →
      Unclosed d (.string false) (Literal.quote :: body)
  | nationalString {n : Char} {body : List Char} : n = 'N' ∨ n = 'n' →
      Literal.Unclosed d.backslashEscapes body →
      Unclosed d (.string true) (n :: Literal.quote :: body)
  | quoted {opening : Char} {body : List Char} : d.opensQuoted opening = true →
      Text.closing opening ∉ body → Unclosed d (.quoted opening) (opening :: body)
  | blockComment {body : List Char} : ¬ ['*', '/'] <:+: body →
      Unclosed d .blockComment ('/' :: '*' :: body)

/-- The cut of an open construct takes everything and comes to the end. -/
theorem Unclosed.cut (h : Unclosed d r cs) (s : Source) (text : s.pending = cs.map .char) :
    (r.cut d s).Yields cs .ended [] := by
  cases h with
  | string well => exact cut_of_head [_] rfl text fun t => well.takeString
  | @nationalString n body letter well =>
      exact cut_of_head [n, _] rfl text fun t => well.takeString
  | @quoted opening body opens free =>
      exact cut_of_head [opening] rfl text fun t => Source.takeThrough_open free
  | blockComment free => exact cut_of_head ['/', '*'] rfl text fun t => Source.takeComment_open free

/-- A construct that takes everything and comes to the end is one of the open texts. -/
theorem unclosed_of_ended (chosen : choice d cs = .rule r) (has : r.construct = some construct)
    (whole : ∀ s : Source, s.pending = cs.map .char → (r.cut d s).Yields cs .ended []) :
    Unclosed d r cs := by
  obtain ⟨c, cs, rfl⟩ : ∃ c t, cs = c :: t := by
    cases cs with
    | nil => simp [choice] at chosen
    | cons c t => exact ⟨c, t, rfl⟩
  have begins := begins_of_choice chosen
  cases r with
  | string national =>
      cases national with
      | false =>
          obtain rfl : c = Literal.quote := begins
          refine .string (Literal.unclosed_of_not_closed ?_)
          rintro body behind rfl well
          exact Decidable.not_not.1 (not_ends_of_ended whole (by simp) (.string well))
      | true =>
          obtain ⟨letter, second⟩ := begins
          obtain ⟨rest, rfl⟩ := List.head?_eq_some_iff.1 second
          refine .nationalString letter (Literal.unclosed_of_not_closed ?_)
          rintro body behind rfl well
          exact Decidable.not_not.1 (not_ends_of_ended whole (by simp) (.nationalString letter well))
  | quoted opening =>
      obtain ⟨rfl, opens⟩ := begins
      refine .quoted opens ?_
      intro closed
      obtain ⟨body, behind, rfl, free⟩ := List.eq_append_cons_of_mem closed
      exact not_ends_of_ended whole (w := behind) (by simp) (.quoted opens free) trivial
  | blockComment =>
      obtain ⟨rfl, second⟩ := begins
      obtain ⟨rest, rfl⟩ := List.head?_eq_some_iff.1 second
      refine .blockComment ?_
      intro closed
      obtain ⟨body, behind, rfl, free⟩ := exists_first_closing closed
      exact not_ends_of_ended whole (w := behind) (by simp) (.blockComment free) trivial
  | _ => cases has

end Rule

/-! ## Values and outcomes, rewritten -/

/-- The value with its characters rewritten; of a word only the spelling. -/
def TokenValue.mapChars (f : List Char → List Char) : TokenValue → TokenValue
  | .text s => .text (.ofList (f s.toList))
  | .word w => .word { w with value := .ofList (f w.value.toList) }

/-- The lexeme with the characters of its value rewritten. -/
def Lexeme.mapChars (f : List Char → List Char) (x : Lexeme) : Lexeme :=
  { x with value := x.value.mapChars f }

/-- The token with its lexeme rewritten, in the same place. -/
def Token.mapLexeme (g : Lexeme → Lexeme) (t : Token) : Token := ⟨g t.toLexeme, t.start, t.stop⟩

/-- The outcome with every lexeme rewritten and the same error. -/
def Tokenizer.mapLexemes (g : Lexeme → Lexeme) :
    Except Failure (List Token) → Except Failure (List Token)
  | .ok tokens => .ok (tokens.map (Token.mapLexeme g))
  | .error failure => .error ⟨failure.error, failure.tokens.map (Token.mapLexeme g)⟩

theorem Tokenizer.mapLexemes_outcome (g : Lexeme → Lexeme) (tokens : List Token) {k k' : Cursor}
    {taken taken' : List Char} (fault : Option Fault) (start : k'.position = k.position)
    (stop : (k'.advanceAll taken').position = (k.advanceAll taken).position) :
    mapLexemes g (Fault.outcome tokens k taken fault) =
      Fault.outcome (tokens.map (Token.mapLexeme g)) k' taken' fault := by
  cases fault with
  | none => rfl
  | some f => simp only [Fault.outcome, mapLexemes, start, stop]

/-! ## Rewriting piece by piece -/

/-- What it takes to read `text`, rewritten, in the dialect `d'` as `text` is read in `d`. -/
structure Rewriting (d d' : Dialect) (text : List Char) where
  /-- What becomes of a part of the text. -/
  chars : List Char → List Char
  /-- What becomes of what a piece says. -/
  lexeme : Lexeme → Lexeme
  /-- The cursors of the two texts in front of a rest of the first. -/
  Beside : Cursor → Cursor → List Char → Prop
  /-- Every choice is the same. -/
  choice : ∀ {cs}, cs <:+ text → Rule.choice d' (chars cs) = Rule.choice d cs
  /-- A piece is rewritten for itself. -/
  append : ∀ {r u w}, u ++ w <:+ text → Rule.Covers d r u w → chars (u ++ w) = chars u ++ chars w
  /-- A spelling stays a spelling. -/
  spells : ∀ {r u w}, u ++ w <:+ text → Rule.Covers d r u w → Rule.Spells d' r (chars u)
  /-- A lexeme still ends where it ended. -/
  ends : ∀ {r u w}, u ++ w <:+ text → Rule.Covers d r u w → Rule.Ends d' r (chars u) (chars w)
  /-- What a piece says is rewritten. -/
  meaning : ∀ {r u w}, u ++ w <:+ text → Rule.Covers d r u w →
    r.lexeme d' (chars u) = lexeme (r.lexeme d u)
  /-- An open construct stays open. -/
  unclosed : ∀ {r cs}, cs <:+ text → Rule.Unclosed d r cs → Rule.Unclosed d' r (chars cs)
  /-- The cursors begin beside each other. -/
  start : Beside .start .start text
  /-- Cursors beside each other are at one position. -/
  position : ∀ {k k' cs}, Beside k k' cs → k'.position = k.position
  /-- Behind a piece the cursors are beside each other again. -/
  step : ∀ {r u w k k'}, u ++ w <:+ text → Rule.Covers d r u w → Beside k k' (u ++ w) →
    Beside (k.advanceAll u) (k'.advanceAll (chars u)) w
  /-- So they are behind all that is left. -/
  finish : ∀ {k k' cs}, Beside k k' cs →
    (k'.advanceAll (chars cs)).position = (k.advanceAll cs).position

namespace Rewriting

variable {ps : List Piece} {fault : Option Fault} {taken left : List Char}

/-- The piece, rewritten. -/
def piece (R : Rewriting d d' text) (p : Piece) : Piece := ⟨p.rule, R.chars p.slice⟩

variable (R : Rewriting d d' text)

theorem covers (inside : u ++ w <:+ text) (h : r.Covers d u w) :
    r.Covers d' (R.chars u) (R.chars w) where
  chosen := by rw [← R.append inside h, R.choice inside, h.chosen]
  spells := R.spells inside h
  ends := R.ends inside h

/-- The rewritten text is read as the rewritten pieces. -/
theorem reading (h : Reading d last cs ps) (inside : cs <:+ text) :
    Reading d' (R.chars last) (R.chars cs) (ps.map R.piece) := by
  induction h with
  | done => exact .done
  | @step p rest ps covers _ ih =>
      rw [R.append inside covers]
      exact .step (p := R.piece p) (R.covers inside covers) (ih ((List.suffix_append _ _).trans inside))

/-- The rewritten pieces stand where the pieces stand. -/
theorem place {k k' : Cursor} (h : Reading d last cs ps) (inside : cs <:+ text)
    (beside : R.Beside k k' cs) :
    Piece.place d' k' (ps.map R.piece) = (Piece.place d k ps).map (Token.mapLexeme R.lexeme) ∧
      R.Beside (k.advanceAll (Piece.slices ps)) (k'.advanceAll (Piece.slices (ps.map R.piece)))
        last := by
  induction h generalizing k k' with
  | done => exact ⟨rfl, beside⟩
  | @step p rest ps covers _ ih =>
      have behind := R.step inside covers beside
      obtain ⟨places, finally_⟩ := ih ((List.suffix_append _ _).trans inside) behind
      constructor
      · have meaning : (R.piece p).lexeme d' = R.lexeme (p.lexeme d) := R.meaning inside covers
        have stop : (k'.advanceAll (R.piece p).slice).position = (k.advanceAll p.slice).position :=
          R.position behind
        rw [List.map_cons, Piece.place, Piece.place, List.map_cons, meaning, stop,
          R.position beside]
        exact congrArg _ places
      · simpa [piece, Cursor.advanceAll_append] using finally_

/-- Where reading halts it halts in the rewritten text, for the same reason. -/
theorem halts (h : Halts d fault taken left) (inside : taken ++ left <:+ text) :
    ∃ taken' left', R.chars (taken ++ left) = taken' ++ left' ∧ Halts d' fault taken' left' ∧
      ∀ k k', R.Beside k k' (taken ++ left) →
        (k'.advanceAll taken').position = (k.advanceAll taken).position := by
  have same := R.choice inside
  cases h with
  | finished =>
      cases rewritten : R.chars [] with
      | nil => exact ⟨[], [], rewritten, .finished, fun k k' beside => R.position beside⟩
      | cons c cs =>
          rw [List.append_nil, rewritten] at same
          exact absurd same Rule.choice_ne_finished
  | @invalid c cs chosen =>
      rw [List.nil_append, chosen] at same
      cases rewritten : R.chars (c :: cs) with
      | nil =>
          rw [rewritten] at same
          cases same
      | cons c' cs' =>
          rw [rewritten] at same
          obtain rfl : c = c' := by simpa using Rule.choice_fault same
          exact ⟨[], c :: cs', rewritten, .invalid same, fun k k' beside => R.position beside⟩
  | @unterminated r construct _ chosen has whole =>
      have unclosed := R.unclosed inside (r := r) (by
        rw [List.append_nil]
        exact Rule.unclosed_of_ended chosen has whole)
      rw [List.append_nil] at inside same unclosed ⊢
      refine ⟨R.chars taken, [], (List.append_nil _).symm, ?_, fun k k' => R.finish⟩
      exact .unterminated (same.trans chosen) has unclosed.cut

/-- **The run over a rewritten text is the run over the text, rewritten: the same pieces in the same
places, the same error, and the same position behind them.** -/
theorem tokenize_rewritten {s s' : String} (R : Rewriting d d' s.toList)
    (same : s'.toList = R.chars s.toList) :
    let run := (Tokenizer.ofString d s).tokenize
    let run' := (Tokenizer.ofString d' s').tokenize
    run'.1 = Tokenizer.mapLexemes R.lexeme run.1 ∧ run'.2.position = run.2.position := by
  intro run run'
  obtain ⟨ps, fault, taken, left, reading, halts, after, -, first⟩ :=
    Tokenizer.exists_reading_run d s
  have inside : taken ++ left <:+ s.toList := ⟨_, reading.text.symm⟩
  obtain ⟨taken', left', split, halts', stop⟩ := R.halts halts inside
  obtain ⟨places, beside⟩ := R.place reading List.suffix_rfl R.start
  have reading' := R.reading reading List.suffix_rfl
  rw [split, ← same] at reading'
  obtain ⟨after', -, second⟩ := Tokenizer.tokenize_of_reading (s := .ofString s') reading' halts'
    .start rfl
  have first : run = _ := first
  have second : run' = _ := second
  rw [first, second, places]
  constructor
  · exact (Tokenizer.mapLexemes_outcome R.lexeme _ fault (R.position beside)
      (stop _ _ beside)).symm
  · simpa [Tokenizer.position, Cursor.advanceAll_append] using stop _ _ beside

end Rewriting

end SqlLex
