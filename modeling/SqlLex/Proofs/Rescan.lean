/-
# SqlLex.Proofs.Rescan -- the rendered tokens read back

The texts of the tokens of a run, one behind another, are read again as the same
lexemes: every text spells its lexeme (`SqlLex.Proofs.Respelling`), and no text
joins the next one, because the characters at the seams are those of the slices up
to unified line breaks and the letter of a national string
(`Reading.splits_respelled`).

Without escapes the texts are as wide as the slices, so the positions are the same
too (`Reading.place_respelled`).  There the two cursors differ only behind a
carriage return, and then no line feed follows (`Cursor.Level`).
-/
import SqlLex.Proofs.Orderly
import SqlLex.Proofs.Respelling

namespace SqlLex

set_option autoImplicit false

variable {d : Dialect} {r : Rule} {cs last u w : List Char} {ps : List Piece}

/-- The piece with the text of its lexeme in place of its slice. -/
def Piece.respelled (d : Dialect) (p : Piece) : Piece := ⟨p.rule, p.rule.respell d p.slice⟩

/-! ## The seams -/

namespace Rule

/-- Every front of `w'` is the front of `w`, respelled. -/
def Fronts (w w' : List Char) : Prop := ∀ c' ∈ w'.head?, ∃ c ∈ w.head?, Respelled c c'

theorem Respelled.eq_of {c c' : Char} (h : Respelled c c') (feed : c' ≠ '\n') (letter : c' ≠ 'N') :
    c = c' := by
  rcases h with same | ⟨-, same⟩ | ⟨-, same⟩
  · exact same.symm
  · exact absurd same feed
  · exact absurd same letter

theorem Respelled.alike {c c' : Char} (orderly : d.Orderly) (h : Respelled c c') :
    Alike d c c' := by
  rcases h with rfl | ⟨rfl, rfl⟩ | ⟨rfl, rfl⟩
  · exact .refl d _
  · refine ⟨rfl, by decide, ?_, rfl, fun x joins => ?_⟩
    · rw [orderly.continues_mark '\n' (by simp), orderly.continues_mark '\r' (by simp)]
    · exact absurd joins (Operator.not_joins x (by decide))
  · refine ⟨rfl, by decide, ?_, rfl, fun x joins => ?_⟩
    · rw [orderly.continues_letter 'N' (by simp), orderly.continues_letter 'n' (by simp)]
    · exact absurd joins (Operator.not_joins x (by decide))

/-- A lexeme that ends in front of a text ends, respelled, in front of the respelled text. -/
theorem Ends.respell {w' : List Char} (orderly : d.Orderly) (spells : Spells d r u)
    (plain : (r.lexeme d u).kind ≠ .comment) (ends : Ends d r u w) (fronts : Fronts w w')
    (fraction : ∀ c rest, w' = '.' :: c :: rest → c.isDigit = true →
      ∃ rest', w = '.' :: c :: rest') :
    Ends d r (respell d r u) w' := by
  have moved : Ends d r u w' := by
    apply ends.alike
    · intro c' front
      obtain ⟨c, before, seam⟩ := fronts c' front
      exact ⟨c, before, seam.alike orderly⟩
    · intro c rest same digit
      obtain ⟨rest', before⟩ := fraction c rest same digit
      exact ⟨c, rest', before, digit⟩
  cases r with
  | whitespace blank => exact moved
  | string national => exact moved
  | quoted opening => trivial
  | word => rwa [respell_word]
  | number => rwa [respell_number]
  | lineComment => exact absurd rfl plain
  | blockComment => exact absurd rfl plain
  | operator o =>
      have same : respell d (.operator o) u = u := by
        simpa using respell_of_spells spells plain
      rwa [same]

theorem longest?_period (second : Option Char) :
    Operator.longest? '.' second = some ⟨.period, false⟩ := by
  cases second with
  | none => rfl
  | some e =>
      have noPair : Operator.ofPair? '.' e = none :=
        Operator.ofPair?_eq_none (by simp [Operator.Joins, Operator.joined])
      rw [Operator.longest?, Option.bind_some, noPair]
      rfl

/-- In an orderly dialect a slice that begins with a period is the period alone. -/
theorem slice_of_period {t : List Char} (orderly : d.Orderly) (covers : r.Covers d ('.' :: t) w) :
    t = [] ∧ respell d r ['.'] = ['.'] := by
  have chosen := choice_of_opener (w := t ++ w) orderly (by decide) (by simp) (by simp)
    (longest?_period _)
  obtain rfl : r = .operator ⟨.period, false⟩ := by
    have := covers.chosen
    rw [List.cons_append, chosen] at this
    exact (Choice.rule.inj this).symm
  refine ⟨?_, respell_operator (by decide)⟩
  cases covers.spells with
  | operator spelled =>
      have single : 1 = t.length + 1 := spelled.width
      exact List.length_eq_zero_iff.1 (by omega)

end Rule

/-! ## Splitting the rendered text -/

theorem Reading.fronts_respelled (reading : Reading d last cs ps)
    (plain : ∀ p ∈ ps, (p.lexeme d).kind ≠ .comment) :
    Rule.Fronts cs (Piece.slices (ps.map (Piece.respelled d))) := by
  cases reading with
  | done => simp [Rule.Fronts]
  | @step p rest ps covers reading =>
      obtain ⟨c, before, c', after, seam⟩ :=
        Rule.respelled_of_spells covers.spells (plain p List.mem_cons_self)
      intro x front
      obtain ⟨t, same⟩ := List.head?_eq_some_iff.1 after
      obtain ⟨t', same'⟩ := List.head?_eq_some_iff.1 before
      obtain rfl : c' = x := by simpa [Piece.respelled, same] using front
      exact ⟨c, by simp [same'], seam⟩

/-- A fraction in the rendered text is one in the text. -/
theorem Reading.fraction_respelled (orderly : d.Orderly) (reading : Reading d last cs ps)
    (plain : ∀ p ∈ ps, (p.lexeme d).kind ≠ .comment) (c : Char) (rest : List Char)
    (same : Piece.slices (ps.map (Piece.respelled d)) = '.' :: c :: rest)
    (digit : c.isDigit = true) : ∃ rest', cs = '.' :: c :: rest' := by
  cases reading with
  | done => simp at same
  | @step p behind ps covers reading =>
      obtain ⟨here, later⟩ := List.forall_mem_cons.1 plain
      obtain ⟨e, before, e', after, seam⟩ := Rule.respelled_of_spells covers.spells here
      obtain ⟨t', text⟩ := List.head?_eq_some_iff.1 after
      obtain ⟨t, slice⟩ := List.head?_eq_some_iff.1 before
      obtain rfl : e' = '.' := by simpa [Piece.respelled, text] using congrArg List.head? same
      obtain rfl := seam.eq_of (by decide) (by decide)
      obtain ⟨rule, _⟩ := p
      subst slice
      -- the period is a piece of its own, so what follows it begins the next piece
      obtain ⟨rfl, alone⟩ := Rule.slice_of_period orderly covers
      have others : Piece.slices (ps.map (Piece.respelled d)) = c :: rest := by
        simpa [Piece.respelled, alone] using same
      obtain ⟨x, front, seam⟩ := reading.fronts_respelled later c (by simp [others])
      obtain rfl := seam.eq_of (by rintro rfl; cases digit) (by rintro rfl; cases digit)
      obtain ⟨rest', rfl⟩ := List.head?_eq_some_iff.1 front
      exact ⟨rest', rfl⟩

/-- **The texts of the lexemes of a reading split into the same lexemes.** -/
theorem Reading.splits_respelled (orderly : d.Orderly) (reading : Reading d last cs ps)
    (plain : ∀ p ∈ ps, (p.lexeme d).kind ≠ .comment) :
    Splits d (Piece.slices (ps.map (Piece.respelled d))) (ps.map (Piece.respelled d)) := by
  induction reading with
  | done => exact .nil
  | @step p rest ps covers reading ih =>
      obtain ⟨here, later⟩ := List.forall_mem_cons.1 plain
      exact .cons (covers.spells.respell here)
        (covers.ends.respell orderly covers.spells here (reading.fronts_respelled later)
          (reading.fraction_respelled orderly later))
        (ih later)

/-! ## The same positions -/

namespace Cursor

variable {k k' : Cursor}

/-- Two cursors in front of a text, at one position: the first may stand behind a return, but then
no line feed follows. -/
structure Level (k k' : Cursor) (cs : List Char) : Prop where
  position : k.position = k'.position
  off : k'.afterReturn = false
  front : k.afterReturn = true → '\n' ∉ cs.head?

theorem Level.advance {c : Char} (level : Level k k' (c :: cs)) : k.advance c = k'.advance c := by
  have noFeed : ¬ (c = '\n' ∧ k.afterReturn = true) := by
    intro both
    exact level.front both.2 (by simp [both.1])
  simp [Cursor.advance, level.position, level.off, noFeed]

theorem Level.of_append (level : Level k k' (u ++ w)) (some : u ≠ []) : Level k k' u := by
  obtain ⟨c, t, rfl⟩ := List.exists_cons_of_ne_nil some
  exact ⟨level.position, level.off, level.front⟩

theorem Level.advanceAll {c : Char} (level : Level k k' (c :: u ++ w)) :
    k.advanceAll (c :: u) = k'.advanceAll (c :: u) := by
  rw [advanceAll_cons, advanceAll_cons, level.advance]

/-- A text with unified line breaks ends at the same position. -/
theorem Level.unifyBreaks (level : Level k k' cs) :
    (k.advanceAll cs).position = (k'.advanceAll (Blank.unifyBreaks cs)).position := by
  fun_induction Blank.unifyBreaks cs generalizing k k' with
  | case1 => exact level.position
  | case2 rest ih =>
      refine ih ⟨?_, rfl, fun on => by cases on⟩
      simp [Cursor.advance, level.position, level.off]
  | case3 rest noFeed ih =>
      refine ih ⟨?_, rfl, fun _ front => ?_⟩
      · simp [Cursor.advance, level.position, level.off]
      · obtain ⟨rest', rfl⟩ := List.head?_eq_some_iff.1 front
        exact noFeed rest' rfl
  | case4 c rest _ other ih =>
      have off : (k'.advance c).afterReturn = false := by simpa [Cursor.advance] using other
      rw [advanceAll_cons, advanceAll_cons, level.advance]
      exact ih ⟨rfl, off, fun on => by simp [off] at on⟩

end Cursor

namespace Rule

variable {k k' : Cursor}

/-- In an orderly dialect no blank closes a quoted identifier. -/
theorem closing_ne_of_blank {opening c : Char} (orderly : d.Orderly)
    (opens : d.opensQuoted opening = true) (blank : c ∈ [' ', '\t', '\n', '\r']) :
    Text.closing opening ≠ c := by
  intro closes
  have mark : ∀ e ∈ [' ', '\t', '\n', '\r'], e ∈ marks ∧ e ≠ ']' :=
    forall_mem_of_all (by decide)
  obtain rfl : opening = c := by
    unfold Text.closing at closes
    split at closes
    · exact absurd closes.symm (mark c blank).2
    · exact closes
  simp [orderly.opens_mark opening (mark opening blank).1] at opens

/-- In an orderly dialect a return belongs to a line break or stands between delimiters. -/
theorem return_notMem_of_spells (orderly : d.Orderly) (spells : Spells d r u)
    (bare : r.construct = none) (other : r ≠ .whitespace .lineBreak) : '\r' ∉ u := by
  intro inside
  cases spells with
  | @whitespace blank run some all =>
      have breaks : blank = .lineBreak := Blank.eq_of_mem_chars (all '\r' inside) (by decide)
      exact other (congrArg _ breaks)
  | @word c run begins continues =>
      rcases List.mem_cons.1 inside with rfl | later
      · simp [orderly.begins_mark '\r' (by decide)] at begins
      · have part := continues '\r' later
        simp [orderly.continues_mark '\r' (by simp)] at part
  | whole _ digits => cases digits '\r' inside
  | decimal _ digits _ fraction =>
      rcases List.mem_append.1 inside with early | late
      · cases digits '\r' early
      · exact nomatch fraction '\r' ((List.mem_cons.1 late).resolve_left (by decide))
  | lineComment body =>
      have late := (List.mem_cons.1 inside).resolve_left (by decide)
      exact absurd rfl (body '\r' ((List.mem_cons.1 late).resolve_left (by decide))).2
  | operator spelled => exact spelled.return_notMem inside
  | _ => cases bare

/-- In an orderly dialect only a line break ends in a return. -/
theorem lineBreak_of_last (orderly : d.Orderly) (spells : Spells d r u) (last : '\r' ∈ u.getLast?) :
    r = .whitespace .lineBreak := by
  apply Decidable.byContradiction
  intro other
  cases bare : r.construct with
  | none =>
      exact return_notMem_of_spells orderly spells bare other (List.mem_of_getLast? last)
  | some construct =>
      -- a construct ends in what closes it
      cases spells with
      | @quoted opening body opens =>
          have closes : Text.closing opening = '\r' := by
            simpa [List.getLast?_cons, List.getLast?_append] using last
          exact closing_ne_of_blank orderly opens (by simp) closes
      | string => simp [List.getLast?_cons, List.getLast?_append, Literal.quote] at last
      | nationalString => simp [List.getLast?_cons, List.getLast?_append, Literal.quote] at last
      | blockComment => simp [List.getLast?_cons, List.getLast?_append] at last
      | _ => cases bare

/-- In an orderly dialect no line feed follows a lexeme that ends in a return. -/
theorem Ends.apart (orderly : d.Orderly) (spells : Spells d r u) (ends : Ends d r u w)
    (last : '\r' ∈ u.getLast?) : '\n' ∉ w.head? := by
  intro feed
  -- the line feed would belong to the line break that the return ends
  obtain rfl := lineBreak_of_last orderly spells last
  exact ends '\n' feed (by decide)

/-- Without escapes the text of a lexeme is its slice, unless that is whitespace or begins with the
letter of a national string. -/
theorem respell_of_plain (noEscapes : d.backslashEscapes = false) (spells : Spells d r u)
    (plain : (r.lexeme d u).kind ≠ .comment) :
    respell d r u = u ∨ (∃ blank, r = .whitespace blank) ∨
      ∃ t, u = 'n' :: t ∧ respell d r u = 'N' :: t := by
  have none : d.escape = none := by simp [Dialect.escape, noEscapes]
  rcases respell_of_spells spells plain with same | blank | ⟨national, rfl⟩
  · exact .inl same
  · exact .inr (.inl blank)
  · cases spells with
    | string well =>
        rw [noEscapes] at well
        rw [respell_string, none, noEscapes, Literal.encode_decode_plain well]
        exact .inl rfl
    | nationalString letter well =>
        rw [noEscapes] at well
        rw [respell_nationalString, none, noEscapes, Literal.encode_decode_plain well]
        rcases letter with rfl | rfl
        · exact .inl rfl
        · exact .inr (.inr ⟨_, rfl, rfl⟩)

/-- Cursors at one position are level if one stands behind a lexeme and the other behind no return. -/
theorem level_behind {u' : List Char} (orderly : d.Orderly) (spells : Spells d r u)
    (ends : Ends d r u w) (some : u' ≠ []) (noReturn : '\r' ∉ u'.getLast?)
    (position : (k.advanceAll u).position = (k'.advanceAll u').position) :
    Cursor.Level (k.advanceAll u) (k'.advanceAll u') w where
  position := position
  off := by
    apply Bool.eq_false_iff.2
    intro on
    exact noReturn (Cursor.last_of_afterReturn some on)
  front := fun on => ends.apart orderly spells (Cursor.last_of_afterReturn spells.ne_nil on)

/-- **Cursors that are level in front of a lexeme are level behind it.** -/
theorem level_respell (orderly : d.Orderly) (noEscapes : d.backslashEscapes = false)
    (spells : Spells d r u) (ends : Ends d r u w) (plain : (r.lexeme d u).kind ≠ .comment)
    (level : Cursor.Level k k' (u ++ w)) :
    Cursor.Level (k.advanceAll u) (k'.advanceAll (respell d r u)) w := by
  have respelled := spells.respell plain
  apply level_behind orderly spells ends respelled.ne_nil
  · intro last
    obtain rfl := lineBreak_of_last orderly respelled last
    rw [respell_whitespace] at last
    exact Blank.return_notMem_unifyBreaks u (List.mem_of_getLast? last)
  · rcases respell_of_plain noEscapes spells plain with same | ⟨blank, rfl⟩ | ⟨t, rfl, text⟩
    · obtain ⟨c, t, rfl⟩ := List.exists_cons_of_ne_nil spells.ne_nil
      rw [same, level.advanceAll]
    · rw [respell_whitespace]
      exact (level.of_append spells.ne_nil).unifyBreaks
    · rw [text, level.advanceAll]
      rfl

end Rule

/-- **Without escapes the respelled pieces stand where the pieces stand.** -/
theorem Reading.place_respelled {k k' : Cursor} (orderly : d.Orderly)
    (noEscapes : d.backslashEscapes = false) (reading : Reading d last cs ps)
    (plain : ∀ p ∈ ps, (p.lexeme d).kind ≠ .comment) (level : Cursor.Level k k' cs) :
    Piece.place d k' (ps.map (Piece.respelled d)) = Piece.place d k ps := by
  induction reading generalizing k k' with
  | done => rfl
  | @step p rest ps covers reading ih =>
      obtain ⟨here, later⟩ := List.forall_mem_cons.1 plain
      have behind := Rule.level_respell orderly noEscapes covers.spells covers.ends here level
      have meaning : (p.respelled d).lexeme d = p.lexeme d := Rule.lexeme_respell covers.spells here
      have others := ih later behind
      rw [List.map_cons, Piece.place, Piece.place, meaning, level.position, behind.position]
      exact congrArg _ others

/-! ## Rendering -/

namespace Piece

/-- The rendered tokens are the respelled slices. -/
theorem toList_render_place (k : Cursor) (ps : List Piece) :
    (Token.render (place d k ps)).toList = slices (ps.map (respelled d)) := by
  have texts : (place d k ps).map (fun token => token.toLexeme.text) =
      ps.map fun p => (p.lexeme d).text := by
    have := congrArg (List.map Lexeme.text) (toLexeme_place (d := d) k ps)
    rwa [List.map_map, List.map_map] at this
  rw [Token.render, texts, String.toList_join, slices, List.flatMap_map, List.flatMap_map]
  rfl

theorem plain_of_place {k : Cursor}
    (plain : ∀ token ∈ place d k ps, token.kind ≠ .comment) :
    ∀ p ∈ ps, (p.lexeme d).kind ≠ .comment := by
  intro p mem
  have shown : p.lexeme d ∈ (place d k ps).map Token.toLexeme := by
    rw [toLexeme_place]
    exact List.mem_map_of_mem mem
  obtain ⟨token, here, same⟩ := List.mem_map.1 shown
  rw [← same]
  exact plain token here

end Piece

/-- Tokens that say the same are rendered alike. -/
theorem Token.render_congr {tokens again : List Token}
    (same : again.map toLexeme = tokens.map toLexeme) : render again = render tokens := by
  have texts := congrArg (List.map Lexeme.text) same
  rw [List.map_map, List.map_map] at texts
  exact congrArg String.join texts

/-- The rendered tokens of a reading are read as the respelled pieces. -/
theorem Reading.tokenize_render (orderly : d.Orderly) (reading : Reading d last cs ps)
    (plain : ∀ p ∈ ps, (p.lexeme d).kind ≠ .comment) (k : Cursor) :
    (Tokenizer.ofString d (Token.render (Piece.place d k ps))).tokenize.1 =
      .ok (Piece.place d .start (ps.map (Piece.respelled d))) := by
  apply tokenize_of_splits orderly
  rw [Piece.toList_render_place]
  exact reading.splits_respelled orderly plain

theorem Reading.toLexeme_respelled (reading : Reading d last cs ps)
    (plain : ∀ p ∈ ps, (p.lexeme d).kind ≠ .comment) (k k' : Cursor) :
    (Piece.place d k' (ps.map (Piece.respelled d))).map Token.toLexeme =
      (Piece.place d k ps).map Token.toLexeme := by
  rw [Piece.toLexeme_place, Piece.toLexeme_place, List.map_map]
  apply List.map_congr_left
  intro p mem
  exact Rule.lexeme_respell (reading.spells p mem) (plain p mem)

theorem Preset.no_escapes {p : Preset} (other : p ≠ .mysql) :
    p.dialect.backslashEscapes = false := by
  cases p with
  | mysql => exact absurd rfl other
  | generic => rfl
  | postgresql => rfl

/-- **The rendered tokens of a run without comments are read back as the same lexemes; where the
dialect has no escapes, at the same positions.** -/
theorem Preset.tokenize_render_ok (p : Preset) (s : String)
    (plain : ∀ token ∈ Tokenizer.tokensOf (Tokenizer.ofString p.dialect s).tokenize.1,
      token.kind ≠ .comment) :
    let tokens := Tokenizer.tokensOf (Tokenizer.ofString p.dialect s).tokenize.1
    ∃ again : List Token,
      (Tokenizer.ofString p.dialect (Token.render tokens)).tokenize.1 = .ok again ∧
        again.map Token.toLexeme = tokens.map Token.toLexeme ∧
        (p ≠ .mysql → again = tokens) ∧
        Token.render again = Token.render tokens := by
  intro tokens
  obtain ⟨ps, fault, taken, left, reading, -, after, -, run⟩ :=
    Tokenizer.exists_reading_run p.dialect s
  have placed : tokens = Piece.place p.dialect .start ps := by
    simp only [tokens, run, Tokenizer.tokensOf_outcome]
  have noComment : ∀ piece ∈ ps, (piece.lexeme p.dialect).kind ≠ .comment := by
    apply Piece.plain_of_place (k := .start)
    rw [← placed]
    exact plain
  have same := reading.toLexeme_respelled noComment .start .start
  rw [placed]
  refine ⟨_, reading.tokenize_render p.orderly noComment .start, same, ?_,
    Token.render_congr same⟩
  intro other
  exact reading.place_respelled p.orderly (no_escapes other) noComment
    ⟨rfl, rfl, fun on => by cases on⟩

/-- A national string with a doubled quote, a line break and a quoted word, and then a string that
stays open. -/
theorem tokenize_render_open :
    let tokens := Tokenizer.tokensOf (Tokenizer.ofString Preset.generic.dialect
      "n'it''s'\r\na>=\"b c\" 'x").tokenize.1
    tokens.length = 6 ∧ (∀ token ∈ tokens, token.kind ≠ .comment) ∧
      (Tokenizer.ofString Preset.generic.dialect (Token.render tokens)).tokenize.1 =
        .ok tokens := by
  intro tokens
  have plain : ∀ token ∈ tokens, token.kind ≠ .comment := by decide +kernel
  obtain ⟨again, run, -, same, -⟩ := Preset.tokenize_render_ok .generic _ plain
  rw [same (by decide)] at run
  exact ⟨by decide +kernel, plain, run⟩

end SqlLex
