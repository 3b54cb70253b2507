/-
# SqlLex.Proofs.Reading -- the reading of a text

A text is read piece by piece.  At each place either a rule covers a slice
(`Rule.Covers`) or reading halts there (`Halts`): at the end, at a character that
begins nothing, or at a construct that stays open.  One of the two always holds
(`covers_or_halts`), so every text has a reading, `Reading`, up to the place where
it halts (`exists_reading`).

A tokenizer over the text follows that reading: its tokens are the pieces, placed
one behind another by the cursor (`Piece.place`), and its outcome is decided by the
halt (`tokenize_of_reading`).
-/
import SqlLex.Proofs.Choosing
import SqlLex.Tokenizer

namespace SqlLex

set_option autoImplicit false

variable {d : Dialect} {r : Rule} {u w cs : List Char} {s : Source}

/-! ## One place of a text -/

/-- In front of `u ++ w` the rule is chosen, and it covers `u`. -/
structure Rule.Covers (d : Dialect) (r : Rule) (u w : List Char) : Prop where
  chosen : choice d (u ++ w) = .rule r
  spells : Spells d r u
  ends : Ends d r u w

/-- In front of `taken ++ left` no lexeme can be read: `taken` is gone when that is known, and
without a fault the text is at its end. -/
inductive Halts (d : Dialect) : Option Fault → List Char → List Char → Prop where
  | finished : Halts d none [] []
  | invalid {c : Char} {cs : List Char} :
      Rule.choice d (c :: cs) = .fault (.invalidCharacter c) →
      Halts d (some (.invalidCharacter c)) [] (c :: cs)
  | unterminated {r : Rule} {construct : Enclosed} {cs : List Char} :
      Rule.choice d cs = .rule r → r.construct = some construct →
      (∀ s : Source, s.pending = cs.map .char → (r.cut d s).Yields cs .ended []) →
      Halts d (some (.unterminated construct)) cs []

theorem Rule.choice_fault {f : Fault} {c : Char} (h : choice d (c :: cs) = .fault f) :
    f = .invalidCharacter c := by
  simp only [choice, charChoice, wordChoice, operatorChoice] at h
  repeat' split at h
  all_goals first
    | exact (Choice.fault.inj h).symm
    | cases h

theorem Rule.choice_ne_finished {c : Char} : choice d (c :: cs) ≠ .finished := by
  simp only [choice, charChoice, wordChoice, operatorChoice]
  repeat' split
  all_goals simp

/-- **At each place a rule covers a slice, or reading halts.** -/
theorem covers_or_halts (d : Dialect) (cs : List Char) :
    (∃ p : Piece, ∃ w, cs = p.slice ++ w ∧ p.rule.Covers d p.slice w) ∨
      ∃ fault taken left, cs = taken ++ left ∧ Halts d fault taken left := by
  cases cs with
  | nil => exact .inr ⟨none, [], [], rfl, .finished⟩
  | cons c cs =>
      cases chosen : Rule.choice d (c :: cs) with
      | rule r =>
          rcases Rule.slice_or_open chosen with ⟨u, w, same, spells, ends⟩ | ⟨construct, has, whole⟩
          · exact .inl ⟨⟨r, u⟩, w, same, same ▸ chosen, spells, ends⟩
          · exact .inr ⟨_, c :: cs, [], by simp, .unterminated chosen has whole⟩
      | finished => exact absurd chosen Rule.choice_ne_finished
      | fault f =>
          obtain rfl := Rule.choice_fault chosen
          exact .inr ⟨_, [], c :: cs, rfl, .invalid chosen⟩

/-- What can be covered at a place is determined. -/
theorem Rule.Covers.unique {r' : Rule} {u' w' : List Char} (h : Covers d r u w)
    (h' : Covers d r' u' w') (same : u ++ w = u' ++ w') : r = r' ∧ u = u' ∧ w = w' := by
  have rules : r = r' := by
    have := h.chosen
    rw [same, h'.chosen] at this
    exact (Choice.rule.inj this).symm
  subst rules
  have one := cut_of_spells h.spells h.ends (s := .ofChars (u ++ w)) rfl
  have two := cut_of_spells h'.spells h'.ends (s := .ofChars (u ++ w)) (same ▸ rfl)
  obtain rfl : u = u' := one.taken.symm.trans two.taken
  exact ⟨rfl, rfl, List.append_cancel_left same⟩

/-! ## Scans -/

/-- What a scan found, what it took, and what it left pending. -/
structure Scan.Yields (scan : Scan) (finding : Finding) (taken : List Char) (left : List Answer) :
    Prop where
  finding : scan.finding = finding
  taken : scan.taken = taken
  left : scan.rest.pending = left

theorem Source.scan_of_covers (covers : r.Covers d u w) (h : s.pending = (u ++ w).map .char) :
    (s.scan d).Yields (.lexeme (r.lexeme d u)) u (w.map .char) := by
  obtain ⟨held, selected, left⟩ := Rule.select_text (d := d) h
  rw [covers.chosen] at selected
  have cut := Rule.cut_of_spells covers.spells covers.ends left
  unfold scan
  rw [selected]
  exact ⟨by simp [Rule.finding, cut.stop, cut.taken], cut.taken, cut.left⟩

/-- What a scan finds where reading halts. -/
def Fault.finding : Option Fault → Finding
  | none => .finished
  | some f => .fault f

theorem Source.scan_of_halts {fault : Option Fault} {taken left : List Char}
    (halts : Halts d fault taken left) (h : s.pending = (taken ++ left).map .char) :
    (s.scan d).Yields (Fault.finding fault) taken (left.map .char) := by
  obtain ⟨held, selected, rest⟩ := Rule.select_text (d := d) h
  unfold scan
  rw [selected]
  cases halts with
  | finished => exact ⟨rfl, rfl, rest⟩
  | invalid chosen =>
      rw [List.nil_append] at rest ⊢
      rw [chosen]
      exact ⟨rfl, rfl, rest⟩
  | @unterminated r construct cs chosen has whole =>
      rw [List.append_nil] at rest ⊢
      rw [chosen]
      have cut := whole held rest
      exact ⟨by simp [Rule.finding, cut.stop, has, Fault.finding], cut.taken, cut.left⟩

/-! ## Readings -/

/-- The text in front of `last` is read as these pieces. -/
inductive Reading (d : Dialect) (last : List Char) : List Char → List Piece → Prop where
  | done : Reading d last last []
  | step {p : Piece} {rest : List Char} {ps : List Piece} : p.rule.Covers d p.slice rest →
      Reading d last rest ps → Reading d last (p.slice ++ rest) (p :: ps)

theorem Reading.text {last : List Char} {ps : List Piece} (h : Reading d last cs ps) :
    cs = Piece.slices ps ++ last := by
  induction h with
  | done => rfl
  | step covers _ ih => rw [ih]; simp

theorem Reading.ne_nil {last : List Char} {ps : List Piece} (h : Reading d last cs ps) :
    ∀ p ∈ ps, p.slice ≠ [] := by
  induction h with
  | done => simp
  | step covers _ ih => simpa using ⟨covers.spells.ne_nil, ih⟩

theorem Reading.spells {last : List Char} {ps : List Piece} (h : Reading d last cs ps) :
    ∀ p ∈ ps, p.rule.Spells d p.slice := by
  induction h with
  | done => simp
  | step covers _ ih => simpa using ⟨covers.spells, ih⟩

/-- **Every text is read up to a place where reading halts.** -/
theorem exists_reading (d : Dialect) (cs : List Char) :
    ∃ ps fault taken left, Reading d (taken ++ left) cs ps ∧ Halts d fault taken left := by
  rcases covers_or_halts d cs with ⟨p, w, same, covers⟩ | ⟨fault, taken, left, same, halts⟩
  · have some := List.length_pos_iff.2 covers.spells.ne_nil
    have shorter : w.length < cs.length := by
      rw [same, List.length_append]
      omega
    obtain ⟨ps, fault, taken, left, reading, halts⟩ := exists_reading d w
    exact ⟨p :: ps, fault, taken, left, same ▸ .step covers reading, halts⟩
  · exact ⟨[], fault, taken, left, same ▸ .done, halts⟩
termination_by cs.length

/-! ## Tokens -/

/-- The tokens of the pieces, placed one behind another from a cursor on. -/
def Piece.place (d : Dialect) (k : Cursor) : List Piece → List Token
  | [] => []
  | p :: ps =>
      ⟨p.lexeme d, k.position, (k.advanceAll p.slice).position⟩ ::
        place d (k.advanceAll p.slice) ps

namespace Piece

theorem toLexeme_place (k : Cursor) (ps : List Piece) :
    (place d k ps).map Token.toLexeme = ps.map (lexeme d) := by
  induction ps generalizing k with
  | nil => rfl
  | cons p ps ih => simp [place, ih]

/-- Pieces behind others are placed from where those end. -/
theorem place_append (k : Cursor) (ps qs : List Piece) :
    place d k (ps ++ qs) = place d k ps ++ place d (k.advanceAll (slices ps)) qs := by
  induction ps generalizing k with
  | nil => rfl
  | cons p ps ih => simp [place, ih, Cursor.advanceAll_append]

end Piece

/-- The outcome of a run that read `tokens` and halted at a cursor. -/
def Fault.outcome (tokens : List Token) (k : Cursor) (taken : List Char) :
    Option Fault → Except Failure (List Token)
  | none => .ok tokens
  | some f => .error ⟨f.error k.position (k.advanceAll taken).position, tokens⟩

namespace Tokenizer

theorem tokenizeFrom_eq (seen : List Token) (t : Tokenizer) :
    tokenizeFrom seen t =
      match t.next with
      | (.ok (some token), after) => tokenizeFrom (token :: seen) after
      | (.ok none, after) => (.ok seen.reverse, after)
      | (.error e, after) => (.error ⟨e, seen.reverse⟩, after) := by
  rw [tokenizeFrom]
  split <;> rename_i h <;> simp only [h]

theorem next_of_covers {k : Cursor} (covers : r.Covers d u w)
    (h : s.pending = (u ++ w).map .char) :
    ∃ rest : Source, rest.pending = w.map .char ∧
      (⟨d, s, k, false⟩ : Tokenizer).next =
        (.ok (some ⟨r.lexeme d u, k.position, (k.advanceAll u).position⟩),
          ⟨d, rest, k.advanceAll u, false⟩) := by
  have scan := Source.scan_of_covers covers h
  refine ⟨(s.scan d).rest, scan.left, ?_⟩
  simp [next, scan.finding, scan.taken, position]

theorem tokenizeFrom_of_halts {fault : Option Fault} {taken left : List Char} {k : Cursor}
    (seen : List Token) (halts : Halts d fault taken left)
    (h : s.pending = (taken ++ left).map .char) :
    ∃ rest : Source, rest.pending = left.map .char ∧
      tokenizeFrom seen ⟨d, s, k, false⟩ =
        (Fault.outcome seen.reverse k taken fault, ⟨d, rest, k.advanceAll taken, true⟩) := by
  have scan := Source.scan_of_halts halts h
  refine ⟨(s.scan d).rest, scan.left, ?_⟩
  rw [tokenizeFrom_eq]
  cases fault with
  | none => simp [next, scan.finding, scan.taken, Fault.finding, Fault.outcome]
  | some f => simp [next, scan.finding, scan.taken, Fault.finding, Fault.outcome, position]

theorem tokenizeFrom_of_reading {last : List Char} {ps : List Piece} (h : Reading d last cs ps)
    (seen : List Token) (k : Cursor) (text : s.pending = cs.map .char) :
    ∃ rest : Source, rest.pending = last.map .char ∧
      tokenizeFrom seen ⟨d, s, k, false⟩ =
        tokenizeFrom ((Piece.place d k ps).reverse ++ seen)
          ⟨d, rest, k.advanceAll (Piece.slices ps), false⟩ := by
  -- each piece moves from the text to the tokens seen, and the cursor behind it
  induction h generalizing s seen k with
  | done => exact ⟨s, text, rfl⟩
  | @step p rest ps covers _ ih =>
      obtain ⟨after, left, first⟩ := next_of_covers (k := k) covers text
      obtain ⟨later, stays, others⟩ := ih
        (⟨p.lexeme d, k.position, (k.advanceAll p.slice).position⟩ :: seen)
        (k.advanceAll p.slice) left
      refine ⟨later, stays, ?_⟩
      rw [tokenizeFrom_eq, first]
      simpa [Piece.place, Piece.lexeme, Cursor.advanceAll_append] using others

/-- **A tokenizer over a text follows its reading.** -/
theorem tokenize_of_reading {fault : Option Fault} {taken left : List Char} {ps : List Piece}
    (reading : Reading d (taken ++ left) cs ps) (halts : Halts d fault taken left) (k : Cursor)
    (text : s.pending = cs.map .char) :
    ∃ rest : Source, rest.pending = left.map .char ∧
      (⟨d, s, k, false⟩ : Tokenizer).tokenize =
        (Fault.outcome (Piece.place d k ps) (k.advanceAll (Piece.slices ps)) taken fault,
          ⟨d, rest, k.advanceAll (Piece.slices ps ++ taken), true⟩) := by
  obtain ⟨after, stays, run⟩ := tokenizeFrom_of_reading reading [] k text
  obtain ⟨rest, remains, stop⟩ := tokenizeFrom_of_halts
    (k := k.advanceAll (Piece.slices ps)) ((Piece.place d k ps).reverse ++ []) halts stays
  refine ⟨rest, remains, ?_⟩
  rw [tokenize, run, stop, Cursor.advanceAll_append]
  simp

@[simp] theorem tokensOf_outcome (tokens : List Token) (k : Cursor) (taken : List Char)
    (fault : Option Fault) : tokensOf (Fault.outcome tokens k taken fault) = tokens := by
  cases fault <;> rfl

/-- **Every run over a text is that of a reading of the text.** -/
theorem exists_reading_run (d : Dialect) (s : String) :
    ∃ ps fault taken left, Reading d (taken ++ left) s.toList ps ∧ Halts d fault taken left ∧
      ∃ rest : Source, rest.pending = left.map .char ∧ (ofString d s).tokenize =
        (Fault.outcome (Piece.place d .start ps) (Cursor.start.advanceAll (Piece.slices ps)) taken
            fault,
          ⟨d, rest, Cursor.start.advanceAll (Piece.slices ps ++ taken), true⟩) := by
  obtain ⟨ps, fault, taken, left, reading, halts⟩ := exists_reading d s.toList
  exact ⟨ps, fault, taken, left, reading, halts,
    tokenize_of_reading (s := .ofString s) reading halts .start rfl⟩

/-- A run that succeeds has read the text to its end. -/
theorem exists_reading_of_isOk {s : String} (ok : (ofString d s).tokenize.1.isOk = true) :
    ∃ ps, Reading d [] s.toList ps ∧
      (ofString d s).tokenize.1 = .ok (Piece.place d .start ps) ∧
      (ofString d s).tokenize.2.position = (Cursor.start.advanceAll s.toList).position := by
  obtain ⟨ps, fault, taken, left, reading, halts, after, -, run⟩ := exists_reading_run d s
  cases halts with
  | finished =>
      refine ⟨ps, reading, by rw [run]; rfl, ?_⟩
      rw [run, reading.text]
      rfl
  | _ => simp [run, Fault.outcome, Except.isOk, Except.toBool] at ok

end Tokenizer

end SqlLex
