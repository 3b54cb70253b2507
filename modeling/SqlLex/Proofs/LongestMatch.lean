/-
# SqlLex.Proofs.LongestMatch -- no token could have been longer

Behind every token of a run stands a character that could not have belonged to it,
or nothing.  `Token.Longest` says so for each kind of token: an operator of one
character is not continued to a longer spelling, a bare word not by a part of a
word, a number neither by a digit nor by a fraction, a string not by a quote, a
comment up to the end of the line by nothing but a line break, whitespace not by
more of its own category.

The classes of a dialect may overlap in any way (`tokenize_longest_match`): a
character that the dialect claims for words or quotes begins no operator, and what
is left to the operators is read by the longest spelling.
-/
import SqlLex.Proofs.Contiguity

namespace SqlLex

set_option autoImplicit false

/-- What two characters spell that are more than the operator of the first: the paired operators
and the beginnings of comments. -/
def Operator.longer : List String := ["<=", "<>", ">=", "!=", "::", "--", "/*"]

/-- The token was read from `slice`, and in front of `behind` it could not have been longer. -/
def Token.Longest (d : Dialect) (t : Token) (slice behind : List Char) : Prop :=
  match t.kind with
  | .whitespace => ∀ c ∈ slice, ∀ e ∈ behind.head?, Blank.of? e ≠ Blank.of? c
  | .comment => ['-', '-'] <+: slice → ∀ e ∈ behind.head?, e = '\n' ∨ e = '\r'
  | .word =>
      ∀ word, t.value = .word word → word.quote = none →
        ∀ e ∈ behind.head?, d.continuesWord e = false
  | .string | .nationalString => Literal.quote ∉ behind.head?
  | .number =>
      (∀ e ∈ behind.head?, e.isDigit = false) ∧
        ('.' ∉ slice → ∀ e rest, behind = '.' :: e :: rest → e.isDigit = false)
  | _ => ∀ c e, slice = [c] → e ∈ behind.head? → String.ofList [c, e] ∉ Operator.longer

variable {d : Dialect} {r : Rule} {u w : List Char}

namespace Operator

variable {o : Operator}

/-- The longer spellings are those of two characters that join. -/
theorem joins_of_longer {c e : Char} (h : String.ofList [c, e] ∈ longer) : Joins c e := by
  have table : ∀ s ∈ longer, Joins (s.toList.getD 0 ' ') (s.toList.getD 1 ' ') := by decide
  simpa using table _ h

/-- Operators have kinds of their own. -/
theorem symbol_of_spells (h : Rule.Spells d (.operator o) u) : o.kind.symbol ≠ none := by
  cases h with
  | operator spelled => exact spelled.of_table (P := fun kind _ => kind.symbol ≠ none) (by decide)

end Operator

/-- **A lexeme that ends in front of the text behind it could not have been longer.** -/
theorem Rule.Ends.longest (ends : Ends d r u w) (spells : Spells d r u) (start stop : Position) :
    Token.Longest d ⟨r.lexeme d u, start, stop⟩ u w := by
  cases r with
  | whitespace blank =>
      cases spells with
      | whitespace some all =>
          intro c mem e front
          rw [Blank.of?_eq_some_iff.2 (all c mem), Ne, Blank.of?_eq_some_iff]
          exact ends e front
  | string national =>
      cases national with
      | false => exact ends
      | true => exact ends
  | quoted opening =>
      intro word same bare
      obtain rfl := TokenValue.word.inj same
      cases bare
  | word =>
      intro word same bare e front
      exact ends.1 e front
  | number => exact ends
  | lineComment =>
      intro dashes e front
      exact ends e front
  | blockComment =>
      -- a block comment begins otherwise
      intro dashes
      cases spells
      obtain ⟨t, same⟩ := dashes
      cases same
  | operator o =>
      have own := Operator.symbol_of_spells spells
      have apart : ∀ c e, u = [c] → e ∈ w.head? → String.ofList [c, e] ∉ Operator.longer := by
        intro c e single front longer
        exact ends c single e front (Operator.joins_of_longer longer)
      obtain ⟨kind, paired⟩ := o
      cases kind <;> first | exact apart | exact absurd rfl own

/-- The pieces of a reading end in front of the text behind them. -/
theorem Reading.ends {cs last : List Char} {ps : List Piece} (h : Reading d last cs ps) (i : Nat)
    (p : Piece) (here : ps[i]? = some p) :
    p.rule.Ends d p.slice (Piece.slices (ps.drop (i + 1)) ++ last) := by
  induction h generalizing i with
  | done => simp at here
  | @step q rest ps covers reading ih =>
      cases i with
      | zero =>
          obtain rfl : q = p := by simpa using here
          simpa [← reading.text] using covers.ends
      | succ i => simpa using ih i (by simpa using here)

/-- **No token of a run could have been longer, whatever the dialect.** -/
theorem tokenize_longest_match (d : Dialect) (s : String) :
    let tokens := Tokenizer.tokensOf (Tokenizer.ofString d s).tokenize.1
    ∃ (ps : List Piece) (rest : List Char),
      Reading d rest s.toList ps ∧ tokens = Piece.place d .start ps ∧
        ∀ (i : Nat) (token : Token) (p : Piece), tokens[i]? = some token → ps[i]? = some p →
          token.Longest d p.slice (Piece.slices (ps.drop (i + 1)) ++ rest) := by
  intro tokens
  obtain ⟨ps, fault, taken, left, reading, -, after, -, run⟩ :=
    Tokenizer.exists_reading_run d s
  have placed : tokens = Piece.place d .start ps := by
    simp only [tokens, run, Tokenizer.tokensOf_outcome]
  refine ⟨ps, taken ++ left, reading, placed, ?_⟩
  intro i token p here sliced
  rw [placed, Piece.getElem?_place, sliced] at here
  obtain rfl := Option.some.inj here
  exact (reading.ends i p sliced).longest (reading.spells p (List.mem_of_getElem? sliced)) _ _

end SqlLex
