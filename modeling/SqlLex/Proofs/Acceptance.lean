/-
# SqlLex.Proofs.Acceptance -- which texts a preset accepts

A preset reads a text to its end exactly when the text splits into lexemes of its
dialect none of which could be longer.  There is then only one way to split it, and
the tokens are its pieces in order, each with the kind of its rule
(`Preset.tokenize_isOk_iff_splits`).
-/
import SqlLex.Proofs.Orderly

namespace SqlLex

set_option autoImplicit false

/-- The kind of token that a rule makes. -/
def Rule.kind : Rule → Kind
  | .whitespace _ => .whitespace
  | .string false => .string
  | .string true => .nationalString
  | .quoted _ | .word => .word
  | .number => .number
  | .lineComment | .blockComment => .comment
  | .operator o => o.kind

variable {d : Dialect} {cs : List Char} {ps : List Piece}

theorem Rule.kind_lexeme (r : Rule) (u : List Char) : (r.lexeme d u).kind = r.kind := by
  cases r with
  | string national => cases national <;> rfl
  | _ => rfl

theorem Piece.kinds_place (k : Cursor) (ps : List Piece) :
    (place d k ps).map (fun token => token.kind) = ps.map fun p => p.rule.kind := by
  induction ps generalizing k with
  | nil => rfl
  | cons p ps ih => simp [place, ih, lexeme, Rule.kind_lexeme]

theorem Reading.unique {ps' : List Piece} (h : Reading d [] cs ps) (h' : Reading d [] cs ps') :
    ps' = ps := by
  induction h generalizing ps' with
  | done =>
      cases ps' with
      | nil => rfl
      | cons p ps =>
          have empty := h'.text
          have some := h'.ne_nil p List.mem_cons_self
          simp [some] at empty
  | @step p rest ps covers reading ih =>
      generalize same : p.slice ++ rest = text at h'
      cases h' with
      | done =>
          have some := covers.spells.ne_nil
          simp [some] at same
      | @step p' rest' ps' covers' reading' =>
          obtain ⟨rules, slices, rests⟩ := covers.unique covers' same
          obtain rfl : p' = p := by
            cases p
            cases p'
            simp_all
          subst rests
          rw [ih reading']

theorem Splits.unique {ps' : List Piece} (orderly : d.Orderly) (h : Splits d cs ps)
    (h' : Splits d cs ps') : ps' = ps :=
  (h.reading orderly).unique (h'.reading orderly)

theorem exists_splits_of_isOk {s : String}
    (ok : (Tokenizer.ofString d s).tokenize.1.isOk = true) : ∃ ps, Splits d s.toList ps := by
  obtain ⟨ps, reading, -⟩ := Tokenizer.exists_reading_of_isOk ok
  exact ⟨ps, .of_reading reading⟩

/-- **A preset accepts exactly the texts that split into lexemes of its dialect; a text splits in
one way only, and its tokens are the pieces.** -/
theorem Preset.tokenize_isOk_iff_splits (p : Preset) (s : String) :
    ((Tokenizer.ofString p.dialect s).tokenize.1.isOk = true ↔
        ∃ ps, Splits p.dialect s.toList ps) ∧
      ∀ ps, Splits p.dialect s.toList ps →
        (∀ ps', Splits p.dialect s.toList ps' → ps' = ps) ∧
          ∃ tokens, (Tokenizer.ofString p.dialect s).tokenize.1 = .ok tokens ∧
            tokens = Piece.place p.dialect .start ps ∧
            tokens.map (fun token => token.kind) = ps.map fun piece => piece.rule.kind := by
  refine ⟨⟨exists_splits_of_isOk, ?_⟩, ?_⟩
  · rintro ⟨ps, splits⟩
    rw [tokenize_of_splits p.orderly splits]
    rfl
  · intro ps splits
    refine ⟨fun ps' splits' => splits.unique p.orderly splits', _,
      tokenize_of_splits p.orderly splits, rfl, Piece.kinds_place _ _⟩

end SqlLex
