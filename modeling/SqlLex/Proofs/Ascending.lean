/-
# SqlLex.Proofs.Ascending -- the positions alone tell the tokens apart

Every character moves a cursor on, but for one: the line feed of a line break that a
carriage return began (`Cursor.lt_advance`, `Cursor.position_advance_lineFeed`).  So a
position says which characters lie in front of it, unless it lies between such a
return and its line feed.

Where no word takes in a return, no lexeme ends in one but a run of line breaks, and
that takes the line feed along (`Rule.Covers.apart`).  The positions of the tokens
therefore ascend, and a text can be cut at them again: `Cursor.carve` takes characters
as long as they stay within the next position, and finds the slices that the tokens
were read from (`tokenize_carve`).
-/
import SqlLex.Proofs.Orderly
import SqlLex.Proofs.Stepping

namespace SqlLex

set_option autoImplicit false

/-! ## The order of positions -/

namespace Position

variable {a b c : Position}

theorem lt_def : a < b ↔ a.line < b.line ∨ a.line = b.line ∧ a.column < b.column := Iff.rfl

theorem le_def : a ≤ b ↔ a.line < b.line ∨ a.line = b.line ∧ a.column ≤ b.column := Iff.rfl

theorem le_refl (a : Position) : a ≤ a := .inr ⟨rfl, Nat.le_refl _⟩

theorem le_of_lt (h : a < b) : a ≤ b := by
  rw [lt_def] at h
  rw [le_def]
  omega

theorem le_trans (h : a ≤ b) (h' : b ≤ c) : a ≤ c := by
  rw [le_def] at *
  omega

theorem lt_of_lt_of_le (h : a < b) (h' : b ≤ c) : a < c := by
  rw [lt_def] at *
  rw [le_def] at h'
  omega

theorem not_le_of_lt (h : a < b) : ¬ b ≤ a := by
  rw [lt_def] at h
  rw [le_def]
  omega

end Position

/-! ## What moves a cursor -/

theorem visualWidth_pos (c : Char) : 0 < visualWidth c := by
  unfold visualWidth
  split <;> decide

namespace Cursor

variable {k : Cursor} {c : Char} {u w cs : List Char}

/-- The text does not begin with the line feed of a break that the return in front of it began. -/
def Apart (k : Cursor) (cs : List Char) : Prop := k.afterReturn = true → '\n' ∉ cs.head?

/-- The line feed behind a return moves nothing. -/
theorem position_advance_lineFeed (on : k.afterReturn = true) :
    (k.advance '\n').position = k.position := by
  simp [advance, on]

/-- Every other character moves on. -/
theorem lt_advance (apart : k.Apart (c :: cs)) : k.position < (k.advance c).position := by
  have noFeed : ¬ (c = '\n' ∧ k.afterReturn = true) := by
    rintro ⟨rfl, on⟩
    exact apart on rfl
  have wide := visualWidth_pos c
  simp only [advance, if_neg noFeed]
  split
  · exact .inl (Nat.lt_succ_self _)
  · exact .inr ⟨rfl, Nat.lt_add_of_pos_right wide⟩

/-- No character moves back. -/
theorem le_advance (k : Cursor) (c : Char) : k.position ≤ (k.advance c).position := by
  by_cases feed : c = '\n' ∧ k.afterReturn = true
  · obtain ⟨rfl, on⟩ := feed
    rw [position_advance_lineFeed on]
    exact Position.le_refl _
  · have apart : k.Apart [c] := fun on front => feed ⟨by simpa using front, on⟩
    exact Position.le_of_lt (lt_advance apart)

theorem le_advanceAll (k : Cursor) (cs : List Char) : k.position ≤ (k.advanceAll cs).position := by
  induction cs generalizing k with
  | nil => exact Position.le_refl _
  | cons c cs ih => exact Position.le_trans (k.le_advance c) (ih (k.advance c))

/-- A text that is not empty moves on, unless it begins with the line feed of a break begun before. -/
theorem lt_advanceAll (some : u ≠ []) (apart : k.Apart (u ++ w)) :
    k.position < (k.advanceAll u).position := by
  obtain ⟨c, t, rfl⟩ := List.exists_cons_of_ne_nil some
  exact Position.lt_of_lt_of_le (lt_advance apart) (le_advanceAll _ t)

/-! ## Cutting a text at positions -/

/-- The characters that are read from `k` on as long as the position behind the next one is not
beyond `stop`. -/
def reach (k : Cursor) (stop : Position) : List Char → List Char
  | [] => []
  | c :: cs =>
      if (k.advance c).position ≤ stop then c :: reach (k.advance c) stop cs else []

/-- Cuts a text at these positions, each slice from where the one before ended. -/
def carve (k : Cursor) : List Position → List Char → List (List Char)
  | [], _ => []
  | stop :: stops, cs =>
      let slice := k.reach stop cs
      slice :: carve (k.advanceAll slice) stops (cs.drop slice.length)

/-- **The position behind a text finds the text again**, unless it lies inside a line break. -/
theorem reach_position (apart : (k.advanceAll u).Apart w) :
    k.reach (k.advanceAll u).position (u ++ w) = u := by
  induction u generalizing k with
  | nil =>
      cases w with
      | nil => rfl
      | cons c w =>
          have beyond : ¬ (k.advance c).position ≤ k.position :=
            Position.not_le_of_lt (lt_advance apart)
          rw [List.nil_append, advanceAll_nil, reach, if_neg beyond]
  | cons c u ih =>
      have within : (k.advance c).position ≤ (k.advanceAll (c :: u)).position :=
        le_advanceAll (k.advance c) u
      rw [List.cons_append, reach, if_pos within, advanceAll_cons, ih apart]

end Cursor

/-! ## No token ends inside a line break -/

variable {d : Dialect} {r : Rule} {u w cs last : List Char} {ps : List Piece} {k : Cursor}

namespace Rule

/-- A text that begins with a return begins with line breaks. -/
theorem lineBreak_of_first (chosen : choice d ('\r' :: cs) = .rule r) :
    r = .whitespace .lineBreak :=
  (Choice.rule.inj chosen).symm

/-- Where no word takes in a return, only line breaks end in one. -/
theorem Covers.lineBreak_of_last (noReturn : d.continuesWord '\r' = false)
    (covers : Covers d r u w) (last : '\r' ∈ u.getLast?) : r = .whitespace .lineBreak := by
  have chosen := covers.chosen
  cases covers.spells with
  | whitespace some all =>
      have back := all '\r' (List.mem_of_getLast? last)
      exact congrArg _ (Blank.eq_of_mem_chars back (by decide))
  | string => simp [List.getLast?_cons, List.getLast?_append, Literal.quote] at last
  | nationalString => simp [List.getLast?_cons, List.getLast?_append, Literal.quote] at last
  | @quoted opening body =>
      have closes : Text.closing opening = '\r' := by
        simpa [List.getLast?_cons, List.getLast?_append] using last
      -- a return closes only what a return opens, and that is never a quoted identifier
      obtain rfl : opening = '\r' := by
        unfold Text.closing at closes
        split at closes
        · exact absurd closes (by decide)
        · exact closes
      exact lineBreak_of_first chosen
  | @word c run begins continues =>
      cases List.mem_cons.1 (List.mem_of_getLast? last) with
      | inl first =>
          subst first
          exact lineBreak_of_first chosen
      | inr later => simp [continues '\r' later] at noReturn
  | whole _ digits => exact nomatch digits '\r' (List.mem_of_getLast? last)
  | @decimal digits fraction _ _ some fractional =>
      obtain ⟨front, c, rfl⟩ := (List.eq_nil_or_concat fraction).resolve_left some
      obtain rfl : c = '\r' := by
        simpa [List.concat_eq_append, List.getLast?_append, List.getLast?_cons] using last
      exact nomatch fractional '\r' (by simp)
  | @lineComment body noBreak =>
      have inside := List.mem_of_getLast? last
      have late := (List.mem_cons.1 inside).resolve_left (by decide)
      exact absurd rfl (noBreak '\r' ((List.mem_cons.1 late).resolve_left (by decide))).2
  | blockComment => simp [List.getLast?_cons, List.getLast?_append] at last
  | operator spelled => exact absurd (List.mem_of_getLast? last) spelled.return_notMem

/-- **Where no word takes in a return, no lexeme ends between a return and its line feed.** -/
theorem Covers.apart (noReturn : d.continuesWord '\r' = false) (covers : Covers d r u w) :
    (k.advanceAll u).Apart w := by
  intro on feed
  have last := Cursor.last_of_afterReturn covers.spells.ne_nil on
  -- the line feed would belong to the line breaks that the return ends
  obtain rfl := covers.lineBreak_of_last noReturn last
  exact covers.ends '\n' feed (by decide)

end Rule

/-! ## The positions of a reading -/

namespace Reading

/-- The positions of the pieces ascend. -/
theorem ascending (noReturn : d.continuesWord '\r' = false) (reading : Reading d last cs ps)
    (apart : k.Apart cs) :
    (∀ token ∈ Piece.place d k ps, token.start < token.stop) ∧
      (k.position :: (Piece.place d k ps).map Token.stop).Pairwise (· < ·) := by
  induction reading generalizing k with
  | done => simp [Piece.place]
  | @step p rest ps covers _ ih =>
      have moves := Cursor.lt_advanceAll covers.spells.ne_nil apart
      obtain ⟨each, ascend⟩ := ih (covers.apart noReturn (k := k))
      refine ⟨List.forall_mem_cons.2 ⟨moves, each⟩, List.pairwise_cons.2 ⟨?_, ascend⟩⟩
      refine List.forall_mem_cons.2 ⟨moves, fun stop mem => ?_⟩
      exact Position.lt_of_lt_of_le moves (Position.le_of_lt (List.rel_of_pairwise_cons ascend mem))

/-- **The text is cut into the slices again at the positions of the pieces.** -/
theorem carve_place (noReturn : d.continuesWord '\r' = false) (reading : Reading d last cs ps)
    (k : Cursor) :
    k.carve ((Piece.place d k ps).map Token.stop) cs = ps.map Piece.slice := by
  induction reading generalizing k with
  | done => rfl
  | @step p rest ps covers _ ih =>
      have slice : k.reach (k.advanceAll p.slice).position (p.slice ++ rest) = p.slice :=
        Cursor.reach_position (covers.apart noReturn)
      simp only [Piece.place, List.map_cons, Cursor.carve, slice, List.drop_left, ih]

end Reading

theorem Preset.continuesWord_return (p : Preset) : p.dialect.continuesWord '\r' = false :=
  p.orderly.continues_mark '\r' (by simp)

/-- **The positions alone tell the tokens apart**, in every dialect in which no word takes in a
return, the presets among them.  Every token ends behind its beginning, so the boundaries ascend
strictly; and the text cut at the ends of the tokens falls into the slices that they were read from,
which are all of the text if reading succeeds. -/
theorem tokenize_carve :
    (∀ p : Preset, p.dialect.continuesWord '\r' = false) ∧
    ∀ (d : Dialect) (s : String), d.continuesWord '\r' = false →
      let t := Tokenizer.ofString d s
      let tokens := Tokenizer.tokensOf t.tokenize.1
      (∀ token ∈ tokens, token.start < token.stop) ∧
        (Position.origin :: tokens.map Token.stop).Pairwise (· < ·) ∧
        Cursor.start.carve (tokens.map Token.stop) s.toList = t.slices ∧
        (t.tokenize.1.isOk = true → t.slices.flatten = s.toList) := by
  refine ⟨Preset.continuesWord_return, ?_⟩
  intro d s noReturn t tokens
  obtain ⟨ps, fault, taken, left, reading, halts, after, -, run⟩ :=
    Tokenizer.exists_reading_run d s
  have run : t.tokenize = _ := run
  have placed : tokens = Piece.place d .start ps := by
    simp only [tokens, run, Tokenizer.tokensOf_outcome]
  have slices : t.slices = ps.map Piece.slice :=
    Tokenizer.slices_of_reading (s := .ofString s) reading halts .start rfl
  have fresh : Cursor.start.Apart s.toList := fun on => by cases on
  obtain ⟨each, ascend⟩ := reading.ascending noReturn fresh
  rw [placed, slices]
  refine ⟨each, ascend, reading.carve_place noReturn .start, ?_⟩
  intro ok
  have finished : fault = none := by
    cases fault with
    | none => rfl
    | some f => simp [run, Fault.outcome, Except.isOk, Except.toBool] at ok
  subst finished
  cases halts
  rw [reading.text, List.append_nil, List.append_nil, Piece.slices, List.flatMap_def]

/-- Line breaks of two characters between tokens and inside one, and then a quoted identifier that
stays open. -/
theorem tokenize_carve_breaks :
    let s := "a\r\n'x\r\ny'--\r\n\"b"
    let t := Tokenizer.ofString Preset.generic.dialect s
    Preset.generic.dialect.continuesWord '\r' = false ∧
      t.slices = [['a'], ['\r', '\n'], "'x\r\ny'".toList, ['-', '-'], ['\r', '\n']] ∧
      Cursor.start.carve ((Tokenizer.tokensOf t.tokenize.1).map Token.stop) s.toList = t.slices := by
  intro s t
  obtain ⟨presets, others⟩ := tokenize_carve
  obtain ⟨-, -, carved, -⟩ := others Preset.generic.dialect s (presets .generic)
  exact ⟨presets .generic, by decide +kernel, carved⟩

end SqlLex
