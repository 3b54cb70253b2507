/-
# SqlLex.Proofs.OwnText -- the text of one token, read again

The decision which rule a text begins with was made, when a token was read, with
other characters behind the token.  Here its text stands alone or in front of
something else, and the dialect is any dialect, so its classes may contradict each
other.  Two things carry the decision over.  A slice that is its own text is chosen
as before, because no rule is chosen for the sake of a character that it does not
take (`Rule.Covers.truncate`).  Where the text differs from the slice, the lexeme is
whitespace or a string literal, and these come first in every dialect
(`Rule.choice_of_whitespace`, `Rule.choice_of_string`).

So the text of a token is read as that token alone (`tokenize_own_text`), and a text
written as a string literal is read back up to the closing quote, whatever it holds
and whatever follows, unless that is one more quote (`next_of_literal_text`).
-/
import SqlLex.Proofs.Halting
import SqlLex.Proofs.Respelling
import SqlLex.Proofs.Stepping

namespace SqlLex

set_option autoImplicit false

variable {d : Dialect} {r : Rule} {u w : List Char}

/-! ## The rule of a text -/

namespace Rule

/-- Nothing goes on into nothing. -/
theorem ends_nil (d : Dialect) (r : Rule) (u : List Char) : Ends d r u [] := by
  cases r <;> simp [Ends]

/-- **The text of a lexeme is covered by the rule that covered its slice.** -/
theorem Covers.respell (covers : Covers d r u w) (plain : (r.lexeme d u).kind ≠ .comment) :
    Covers d r (Rule.respell d r u) [] := by
  have spells := covers.spells.respell plain
  refine ⟨?_, spells, ends_nil d r _⟩
  rcases respell_of_spells covers.spells plain with same | ⟨blank, rfl⟩ | ⟨national, rfl⟩
  · rw [same]
    exact (truncate (w := []) covers).chosen
  · exact choice_of_whitespace spells
  · exact choice_of_string spells

/-- A text written as a literal spells a string that says this text. -/
theorem literal_text (d : Dialect) (national : Bool) (v : String) :
    let x : Lexeme := ⟨if national then .nationalString else .string, .text v, d.escape⟩
    Spells d (.string national) x.text.toList ∧
      (Rule.string national).lexeme d x.text.toList = x := by
  have body := Literal.Body.encode d v.toList
  cases national with
  | false =>
      have written : (Lexeme.text ⟨.string, .text v, d.escape⟩).toList =
          Literal.quote :: (Literal.encode d.escape v.toList ++ [Literal.quote]) := by
        simp [Lexeme.text, Lexeme.enclose]
      refine ⟨?_, ?_⟩
      · simpa [written] using Spells.string body
      · simp [written, lexeme, head, Literal.decode_encode]
  | true =>
      have written : (Lexeme.text ⟨.nationalString, .text v, d.escape⟩).toList =
          'N' :: Literal.quote :: (Literal.encode d.escape v.toList ++ [Literal.quote]) := by
        simp [Lexeme.text, Lexeme.enclose]
      refine ⟨?_, ?_⟩
      · simpa [written] using Spells.nationalString (.inl rfl) body
      · simp [written, lexeme, head, Literal.decode_encode]

end Rule

/-! ## One token -/

theorem Reading.covers {cs last : List Char} {ps : List Piece} (h : Reading d last cs ps) :
    ∀ p ∈ ps, ∃ w, p.rule.Covers d p.slice w := by
  induction h with
  | done => simp
  | step covers _ ih => exact List.forall_mem_cons.2 ⟨⟨_, covers⟩, ih⟩

/-- A slice that is covered with nothing behind it is a reading by itself. -/
theorem Reading.of_covers (covers : r.Covers d u []) : Reading d [] u [⟨r, u⟩] := by
  simpa using Reading.step (p := ⟨r, u⟩) covers .done

/-- **Every token but a comment is read back from its own text**, as the only token of it and with
the tokenizer behind it, in every dialect. -/
theorem tokenize_own_text (d : Dialect) (s : String) (token : Token)
    (scanned : token ∈ Tokenizer.tokensOf (Tokenizer.ofString d s).tokenize.1)
    (plain : token.kind ≠ .comment) :
    let again := (Tokenizer.ofString d token.toLexeme.text).tokenize
    again.1 = .ok [⟨token.toLexeme, .origin, again.2.position⟩] ∧
      again.2.position = Cursor.behind token.toLexeme.text.toList := by
  intro again
  obtain ⟨ps, fault, taken, left, reading, -, after, -, run⟩ :=
    Tokenizer.exists_reading_run d s
  rw [run, Tokenizer.tokensOf_outcome] at scanned
  -- the token is what some piece of the reading says
  have said : token.toLexeme ∈ ps.map (Piece.lexeme d) := by
    rw [← Piece.toLexeme_place .start]
    exact List.mem_map_of_mem scanned
  obtain ⟨⟨r, u⟩, piece, meaning⟩ := List.mem_map.1 said
  have meaning : r.lexeme d u = token.toLexeme := meaning
  have text : token.toLexeme.text.toList = r.respell d u := by
    rw [← meaning]
    rfl
  have plain : (r.lexeme d u).kind ≠ .comment := by
    rwa [meaning]
  obtain ⟨w, covers⟩ := reading.covers _ piece
  have whole : Reading d ([] ++ []) token.toLexeme.text.toList [⟨r, r.respell d u⟩] := by
    rw [text]
    exact .of_covers (covers.respell plain)
  obtain ⟨rest, -, rerun⟩ := Tokenizer.tokenize_of_reading whole .finished .start
    (s := .ofString token.toLexeme.text) rfl
  have same : again = _ := rerun
  have lexeme : (⟨r, r.respell d u⟩ : Piece).lexeme d = token.toLexeme := by
    rw [← meaning]
    exact Rule.lexeme_respell covers.spells plain
  rw [same, text]
  constructor
  · simp only [Fault.outcome, Piece.place, lexeme, Piece.slices_cons, Piece.slices_nil,
      List.append_nil]
    rfl
  · simp only [Piece.slices_cons, Piece.slices_nil, List.append_nil]
    rfl

/-- Digits begin words, letters and blanks continue them, and the letter of a national string opens
a quoted word. -/
def Dialect.contrary : Dialect where
  name := "contrary"
  beginsWord c := c.isDigit || c == Literal.quote
  continuesWord c := c.isAlpha || c == ' ' || c == '\r'
  opensQuoted c := c == 'N' || c == '['
  backslashEscapes := true

/-- A quoted word that begins with the letter of a national string, a word that ends in a return, a
string with both kinds of escapes, a national string and an empty quoted word. -/
theorem tokenize_own_text_contrary :
    let tokens := Tokenizer.tokensOf
      (Tokenizer.ofString .contrary "Na'bN1x \r'it''s\\'\\n'n'a'[]").tokenize.1
    tokens.map (fun token => token.toLexeme.text) =
        ["Na'bN", "1x \r", "'it\\'s\\'\\\\n'", "N'a'", "[]"] ∧
      ∀ token ∈ tokens, token.kind ≠ .comment ∧
        let again := (Tokenizer.ofString .contrary token.toLexeme.text).tokenize
        again.1 = .ok [⟨token.toLexeme, .origin, again.2.position⟩] := by
  intro tokens
  have plain : ∀ token ∈ tokens, token.kind ≠ .comment := by decide +kernel
  refine ⟨by decide +kernel, ?_⟩
  intro token scanned
  exact ⟨plain token scanned,
    (tokenize_own_text .contrary _ token scanned (plain token scanned)).1⟩

/-! ## Literals in front of a text -/

/-- A source that has a text pending is read like the text. -/
theorem Tokenizer.tokenize_of_pending {rest : Source} {t : String}
    (left : rest.pending = t.toList.map .char) (k : Cursor) :
    (⟨d, rest, k, false⟩ : Tokenizer).tokenize.1 =
      ({ ofString d t with cursor := k } : Tokenizer).tokenize.1 := by
  obtain ⟨ps, fault, taken, last, reading, halts⟩ := exists_reading d t.toList
  obtain ⟨after, -, run⟩ := tokenize_of_reading reading halts k left
  rw [outcome_of_reading reading halts k, run]

/-- **A text written as a string literal is read back exactly**, in every dialect and whatever it
holds, when no further quote follows: the call takes the literal and nothing else, and what is read
next is the text behind it. -/
theorem next_of_literal_text (d : Dialect) (kind : Kind) (v behind : String)
    (literal : kind = .string ∨ kind = .nationalString)
    (single : Literal.quote ∉ behind.toList.head?) :
    let x : Lexeme := ⟨kind, .text v, d.escape⟩
    let k := Cursor.start.advanceAll x.text.toList
    ∃ rest : Source, rest.pending = behind.toList.map .char ∧
      (Tokenizer.ofString d (x.text ++ behind)).next =
        (.ok (some ⟨x, .origin, k.position⟩), ⟨d, rest, k, false⟩) ∧
      (⟨d, rest, k, false⟩ : Tokenizer).tokenize.1 =
        ({ Tokenizer.ofString d behind with cursor := k } : Tokenizer).tokenize.1 := by
  intro x k
  obtain ⟨national, rfl⟩ :
      ∃ national : Bool, kind = if national then .nationalString else .string := by
    rcases literal with rfl | rfl
    · exact ⟨false, rfl⟩
    · exact ⟨true, rfl⟩
  obtain ⟨spells, meaning⟩ := Rule.literal_text d national v
  have covers : (Rule.string national).Covers d x.text.toList behind.toList :=
    ⟨Rule.choice_of_string spells, spells, single⟩
  obtain ⟨rest, left, called⟩ := Tokenizer.next_of_covers (k := .start) covers
    (s := .ofString (x.text ++ behind)) (by rw [← String.toList_append]; rfl)
  rw [meaning] at called
  exact ⟨rest, left, called, Tokenizer.tokenize_of_pending left k⟩

/-- A value of quotes and backslashes, with a backslash last, in front of what would make it a
comment. -/
theorem next_of_literal_text_backslash :
    let x : Lexeme := ⟨.nationalString, .text "'\\'--\n\\", some '\\'⟩
    let behind := "-- '"
    x.text = "N'\\'\\\\\\'--\n\\\\'" ∧ Literal.quote ∉ behind.toList.head? ∧
      ∃ rest : Source, rest.pending = behind.toList.map .char ∧
        (Tokenizer.ofString Preset.mysql.dialect (x.text ++ behind)).next =
          (.ok (some ⟨x, .origin, ⟨2, 3⟩⟩),
            ⟨Preset.mysql.dialect, rest, ⟨⟨2, 3⟩, false⟩, false⟩) := by
  intro x behind
  have single : Literal.quote ∉ behind.toList.head? := by decide +kernel
  obtain ⟨rest, left, called, -⟩ :=
    next_of_literal_text Preset.mysql.dialect .nationalString "'\\'--\n\\" behind (.inr rfl) single
  exact ⟨by decide +kernel, single, rest, left, called⟩

end SqlLex
