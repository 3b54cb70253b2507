/-
# SqlLex.Proofs.Grammar -- what a SQL text is made of

The lexical grammar, said without reading anything.  `Rule.Spells d r u` says that
the characters `u` spell a lexeme of the rule `r` in the dialect `d`, and
`Rule.Ends d r u w` that such a lexeme cannot go on into the text `w` behind it, for
which only the front of `w` counts (`Rule.Ends.alike`).
A text `Splits` into pieces if each piece spells a lexeme of its rule and ends in
front of the text that is left.

The body of a string literal has a grammar of its own, `Literal.Body`: plain
characters, doubled quotes and, where the dialect has escapes, a backslash with
whatever follows it.

Blanks and operators are written down character by character.  That the scanner's
questions and tables know the same ones is `Blank.of?_eq_some_iff`,
`Operator.ofChar?_eq_some_iff`, `Operator.ofPair?_eq_some_iff` and
`Operator.joins_iff`.
-/
import SqlLex.Rule

namespace SqlLex

set_option autoImplicit false

/-! ## String bodies -/

namespace Literal

/-- What may stand between the quotes of a string literal. -/
inductive Body (escapes : Bool) : List Char → Prop where
  | nil : Body escapes []
  | plain {c : Char} {body : List Char} : c ≠ quote → (escapes = true → c ≠ escapeChar) →
      Body escapes body → Body escapes (c :: body)
  | doubled {body : List Char} : Body escapes body → Body escapes (quote :: quote :: body)
  | escaped {c : Char} {body : List Char} : escapes = true → Body escapes body →
      Body escapes (escapeChar :: c :: body)

/-! ## What a body says -/

section

variable {escapes : Bool} {c : Char} (body : List Char)

theorem decode_plain (noQuote : c ≠ quote) (ordinary : escapes = true → c ≠ escapeChar) :
    decode escapes (c :: body) = c :: decode escapes body := by
  cases escapes with
  | false => exact decode_cons_plain c body noQuote
  | true => exact decode_cons_escaped c body noQuote (ordinary rfl)

theorem decode_doubled :
    decode escapes (quote :: quote :: body) = quote :: decode escapes body := by
  simp [decode]

theorem decode_escaped :
    decode true (escapeChar :: c :: body) =
      (if c = quote ∨ c = escapeChar then [c] else [escapeChar, c]) ++ decode true body := by
  rw [decode, if_neg (by decide), if_pos ⟨rfl, rfl⟩]
  split <;> rfl

end

/-! ## Closed or open -/

/-- What can stand behind an opening quote: a body and the quote that closes it, or a body that
stays open, perhaps in the middle of an escape. -/
inductive Outcome (escapes : Bool) : List Char → Prop where
  | closed {body behind : List Char} : Body escapes body → quote ∉ behind.head? →
      Outcome escapes (body ++ quote :: behind)
  | opened {body : List Char} : Body escapes body → Outcome escapes body
  | escaping {body : List Char} : escapes = true → Body escapes body →
      Outcome escapes (body ++ [escapeChar])

theorem Outcome.prepend {escapes : Bool} {u rest : List Char}
    (grow : ∀ {body}, Body escapes body → Body escapes (u ++ body)) (h : Outcome escapes rest) :
    Outcome escapes (u ++ rest) := by
  cases h with
  | closed well single =>
      rw [← List.append_assoc]
      exact .closed (grow well) single
  | opened well => exact .opened (grow well)
  | escaping on well =>
      rw [← List.append_assoc]
      exact .escaping on (grow well)

/-- Whatever stands behind an opening quote is closed or open. -/
theorem outcome (escapes : Bool) : ∀ cs : List Char, Outcome escapes cs
  | [] => .opened .nil
  | [c] => by
      by_cases isQuote : c = quote
      · subst isQuote
        show Outcome escapes ([] ++ [quote])
        exact .closed .nil (by simp)
      by_cases isEscape : escapes = true ∧ c = escapeChar
      · obtain ⟨on, rfl⟩ := isEscape
        show Outcome escapes ([] ++ [escapeChar])
        exact .escaping on .nil
      · have ordinary : escapes = true → c ≠ escapeChar := fun on same => isEscape ⟨on, same⟩
        exact .opened (.plain isQuote ordinary .nil)
  | c :: e :: cs => by
      by_cases isQuote : c = quote
      · subst isQuote
        by_cases again : e = quote
        · subst again
          exact (outcome escapes cs).prepend (u := [quote, quote]) .doubled
        · show Outcome escapes ([] ++ quote :: e :: cs)
          exact .closed .nil (by simpa using again)
      by_cases isEscape : escapes = true ∧ c = escapeChar
      · obtain ⟨on, rfl⟩ := isEscape
        exact (outcome escapes cs).prepend (u := [escapeChar, e]) (.escaped on)
      · have ordinary : escapes = true → c ≠ escapeChar := fun on same => isEscape ⟨on, same⟩
        exact (outcome escapes (e :: cs)).prepend (u := [c]) (.plain isQuote ordinary)

end Literal

/-- A text that holds the closing pair holds a first one. -/
theorem exists_first_closing : ∀ {cs : List Char}, ['*', '/'] <:+: cs →
    ∃ body behind, cs = body ++ '*' :: '/' :: behind ∧ ¬ ['*', '/'] <:+: body
  | [], inside => by simp at inside
  | c :: cs, inside => by
      by_cases here : ['*', '/'] <+: c :: cs
      · obtain ⟨behind, same⟩ := here
        exact ⟨[], behind, by simpa using same.symm, by simp⟩
      · have later : ['*', '/'] <:+: cs := (List.infix_cons_iff.1 inside).resolve_left here
        obtain ⟨body, behind, rfl, free⟩ := exists_first_closing later
        refine ⟨c :: body, behind, rfl, fun inside => ?_⟩
        rcases List.infix_cons_iff.1 inside with ⟨rest, same⟩ | deeper
        · have whole : ['*', '/'] ++ (rest ++ '*' :: '/' :: behind) =
              c :: body ++ '*' :: '/' :: behind := by
            rw [← same, List.append_assoc]
          exact here ⟨rest ++ '*' :: '/' :: behind, whole⟩
        · exact free deeper

/-! ## Blanks -/

namespace Blank

/-- The characters of a category. -/
def chars : Blank → List Char
  | .space => [' ']
  | .tab => ['\t']
  | .lineBreak => ['\n', '\r']

/-- The scanner finds the category of every character that has one. -/
theorem of?_eq_some_iff {c : Char} {blank : Blank} : of? c = some blank ↔ c ∈ blank.chars := by
  constructor
  · intro found
    unfold of? at found
    repeat' split at found
    all_goals cases found
    all_goals simpa [chars]
  · intro member
    cases blank with
    | space =>
        obtain rfl := List.mem_singleton.1 member
        rfl
    | tab =>
        obtain rfl := List.mem_singleton.1 member
        rfl
    | lineBreak =>
        obtain rfl | rfl : c = '\n' ∨ c = '\r' := by simpa [chars] using member
        · rfl
        · rfl

/-- The categories do not overlap. -/
theorem eq_of_mem_chars {c : Char} {b b' : Blank} (h : c ∈ b.chars) (h' : c ∈ b'.chars) : b = b' :=
  Option.some.inj ((of?_eq_some_iff.2 h).symm.trans (of?_eq_some_iff.2 h'))

theorem holds_eq_decide (blank : Blank) (c : Char) : blank.holds c = decide (c ∈ blank.chars) := by
  rw [Bool.eq_iff_iff]
  simp [holds, of?_eq_some_iff]

theorem of?_eq_lineBreak_iff {c : Char} : of? c = some .lineBreak ↔ c = '\n' ∨ c = '\r' := by
  simp [of?_eq_some_iff, chars]

end Blank

/-! ## Operators -/

/-- How a kind of punctuation or operator is spelled, the inequality in two ways. -/
def Kind.spellings : Kind → List (List Char)
  | .leftParen => [['(']]
  | .rightParen => [[')']]
  | .leftBracket => [['[']]
  | .rightBracket => [[']']]
  | .leftBrace => [['\x7b']]
  | .rightBrace => [['\x7d']]
  | .comma => [[',']]
  | .semicolon => [[';']]
  | .colon => [[':']]
  | .doubleColon => [[':', ':']]
  | .period => [['.']]
  | .plus => [['+']]
  | .minus => [['-']]
  | .star => [['*']]
  | .slash => [['/']]
  | .percent => [['%']]
  | .equal => [['=']]
  | .notEqual => [['<', '>'], ['!', '=']]
  | .less => [['<']]
  | .lessEqual => [['<', '=']]
  | .greater => [['>']]
  | .greaterEqual => [['>', '=']]
  | .backslash => [['\\']]
  | .ampersand => [['&']]
  | .whitespace | .comment | .word | .string | .nationalString | .number => []

namespace Operator

/-- The characters spell the operator. -/
structure SpelledBy (o : Operator) (u : List Char) : Prop where
  known : u ∈ o.kind.spellings
  width : o.width = u.length

/-- The pairs of characters that belong together: the paired operators and the beginnings of
comments. -/
def joined : List (Char × Char) :=
  [('<', '='), ('<', '>'), ('>', '='), ('!', '='), (':', ':'), ('-', '-'), ('/', '*')]

/-- The two characters read as more than the first of them alone. -/
def Joins (c e : Char) : Prop := (c, e) ∈ joined

instance (c e : Char) : Decidable (Joins c e) :=
  inferInstanceAs (Decidable ((c, e) ∈ joined))

/-! ### The spellings are those of the scanner's tables -/

variable {c e : Char} {o : Operator} {u : List Char}

theorem mem_of_lookup {key : Type} [BEq key] [LawfulBEq key] {table : List (key × Kind)} {k : key}
    {kind : Kind} (h : table.lookup k = some kind) : (k, kind) ∈ table := by
  obtain ⟨before, after, rfl, -⟩ := List.lookup_eq_some_iff.1 h
  simp

/-- What holds of all spellings holds of those of an operator. -/
theorem SpelledBy.of_table {P : Kind → List Char → Prop} (spelled : o.SpelledBy u)
    (table : ∀ kind ∈ Kind.all, ∀ u ∈ kind.spellings, P kind u) : P o.kind u :=
  table o.kind o.kind.mem_all u spelled.known

theorem SpelledBy.return_notMem (spelled : o.SpelledBy u) : '\r' ∉ u :=
  spelled.of_table (P := fun _ u => '\r' ∉ u) (by decide)

theorem ofChar?_eq_some_iff : ofChar? c = some o ↔ o.SpelledBy [c] := by
  constructor
  · intro found
    have table : ∀ entry ∈ singles, [entry.1] ∈ entry.2.spellings := by decide
    obtain ⟨kind, here, rfl⟩ := Option.map_eq_some_iff.1 found
    exact ⟨table _ (mem_of_lookup here), rfl⟩
  · intro spelled
    have found : singles.lookup c = some o.kind :=
      spelled.of_table (P := fun kind u => u.length = 1 → singles.lookup (u.headD ' ') = some kind)
        (by decide) rfl
    obtain ⟨kind, paired⟩ := o
    cases paired with
    | false => simp [ofChar?, found]
    | true => cases spelled.width

theorem ofPair?_eq_some_iff : ofPair? c e = some o ↔ o.SpelledBy [c, e] := by
  constructor
  · intro found
    have table : ∀ entry ∈ pairs, [entry.1.1, entry.1.2] ∈ entry.2.spellings := by decide
    obtain ⟨kind, here, rfl⟩ := Option.map_eq_some_iff.1 found
    exact ⟨table _ (mem_of_lookup here), rfl⟩
  · intro spelled
    have found : pairs.lookup (c, e) = some o.kind :=
      spelled.of_table
        (P := fun kind u => u.length = 2 → pairs.lookup (u.headD ' ', u.getLastD ' ') = some kind)
        (by decide) rfl
    obtain ⟨kind, paired⟩ := o
    cases paired with
    | false => cases spelled.width
    | true => simp [ofPair?, found]

/-- An operator is spelled by one character or by two. -/
theorem SpelledBy.single_or_pair (spelled : o.SpelledBy u) :
    (∃ c, u = [c] ∧ ofChar? c = some o) ∨ ∃ c e, u = [c, e] ∧ ofPair? c e = some o := by
  have short : u.length = 1 ∨ u.length = 2 :=
    spelled.of_table (P := fun _ u => u.length = 1 ∨ u.length = 2) (by decide)
  rcases u with _ | ⟨c, _ | ⟨e, _ | ⟨x, u⟩⟩⟩
  · simp at short
  · exact .inl ⟨c, rfl, ofChar?_eq_some_iff.2 spelled⟩
  · exact .inr ⟨c, e, rfl, ofPair?_eq_some_iff.2 spelled⟩
  · simp at short

/-- Characters join where the table of pairs has them or a comment begins. -/
theorem joins_iff :
    Joins c e ↔ ofPair? c e ≠ none ∨ (c = '-' ∧ e = '-') ∨ (c = '/' ∧ e = '*') := by
  constructor
  · have table : ∀ two ∈ joined, ofPair? two.1 two.2 ≠ none ∨ (two.1 = '-' ∧ two.2 = '-') ∨
        (two.1 = '/' ∧ two.2 = '*') := by
      decide
    exact table (c, e)
  · rintro (pair | ⟨rfl, rfl⟩ | ⟨rfl, rfl⟩)
    · have table : ∀ entry ∈ pairs, entry.1 ∈ joined := by decide
      obtain ⟨o, known⟩ := Option.ne_none_iff_exists'.1 pair
      obtain ⟨kind, here, -⟩ := Option.map_eq_some_iff.1 known
      exact table _ (mem_of_lookup here)
    · decide
    · decide

/-- The characters that stand second in what two characters spell. -/
def seconds : List Char := joined.map Prod.snd

/-- No character joins one that never stands second. -/
theorem not_joins (c : Char) (h : e ∉ seconds) : ¬ Joins c e :=
  fun joins => h (List.mem_map.2 ⟨(c, e), joins, rfl⟩)

theorem ofPair?_eq_none (h : ¬ Joins c e) : ofPair? c e = none :=
  Decidable.byContradiction fun pair => h (joins_iff.2 (.inl pair))

end Operator

namespace Rule

/-! ## Spellings -/

/-- The spellings of a rule in a dialect. -/
inductive Spells (d : Dialect) : Rule → List Char → Prop where
  | whitespace {blank : Blank} {run : List Char} : run ≠ [] →
      (∀ c ∈ run, c ∈ blank.chars) → Spells d (.whitespace blank) run
  | string {body : List Char} : Literal.Body d.backslashEscapes body →
      Spells d (.string false) (Literal.quote :: (body ++ [Literal.quote]))
  | nationalString {n : Char} {body : List Char} : n = 'N' ∨ n = 'n' →
      Literal.Body d.backslashEscapes body →
      Spells d (.string true) (n :: Literal.quote :: (body ++ [Literal.quote]))
  | quoted {opening : Char} {body : List Char} : d.opensQuoted opening = true →
      Text.closing opening ∉ body →
      Spells d (.quoted opening) (opening :: (body ++ [Text.closing opening]))
  | word {c : Char} {run : List Char} : d.beginsWord c = true →
      (∀ x ∈ run, d.continuesWord x = true) → Spells d .word (c :: run)
  | whole {digits : List Char} : digits ≠ [] → (∀ c ∈ digits, c.isDigit = true) →
      Spells d .number digits
  | decimal {digits fraction : List Char} : digits ≠ [] → (∀ c ∈ digits, c.isDigit = true) →
      fraction ≠ [] → (∀ c ∈ fraction, c.isDigit = true) →
      Spells d .number (digits ++ '.' :: fraction)
  | lineComment {body : List Char} : (∀ c ∈ body, c ≠ '\n' ∧ c ≠ '\r') →
      Spells d .lineComment ('-' :: '-' :: body)
  | blockComment {body : List Char} : ¬ ['*', '/'] <:+: body →
      Spells d .blockComment ('/' :: '*' :: (body ++ ['*', '/']))
  | operator {o : Operator} {u : List Char} : o.SpelledBy u → Spells d (.operator o) u

/-! ## Ends -/

/-- A lexeme `u` of the rule cannot go on into the text `w` behind it. -/
def Ends (d : Dialect) (r : Rule) (u w : List Char) : Prop :=
  match r with
  | .whitespace blank => ∀ c ∈ w.head?, c ∉ blank.chars
  | .string _ => Literal.quote ∉ w.head?
  | .word =>
      (∀ c ∈ w.head?, d.continuesWord c = false) ∧
        (u = ['N'] ∨ u = ['n'] → Literal.quote ∉ w.head?)
  | .number =>
      (∀ c ∈ w.head?, c.isDigit = false) ∧
        ('.' ∉ u → ∀ c rest, w = '.' :: c :: rest → c.isDigit = false)
  | .lineComment => ∀ c ∈ w.head?, c = '\n' ∨ c = '\r'
  | .operator _ => ∀ c, u = [c] → ∀ e ∈ w.head?, ¬ Operator.Joins c e
  | .quoted _ | .blockComment => True

/-- To a lexeme in front of it, `c'` means what `c` means. -/
structure Alike (d : Dialect) (c c' : Char) : Prop where
  blank : Blank.of? c' = Blank.of? c
  quote : c' = Literal.quote → c = Literal.quote
  part : d.continuesWord c' = d.continuesWord c
  digit : c'.isDigit = c.isDigit
  joins : ∀ x, Operator.Joins x c' → Operator.Joins x c

theorem Alike.refl (d : Dialect) (c : Char) : Alike d c c :=
  ⟨rfl, id, rfl, rfl, fun _ => id⟩

/-- A lexeme ends in front of every text that begins alike. -/
theorem Ends.alike {d : Dialect} {r : Rule} {u w w' : List Char} (ends : Ends d r u w)
    (fronts : ∀ c' ∈ w'.head?, ∃ c ∈ w.head?, Alike d c c')
    (fraction : ∀ c' rest', w' = '.' :: c' :: rest' → c'.isDigit = true →
      ∃ c rest, w = '.' :: c :: rest ∧ c.isDigit = true) : Ends d r u w' := by
  cases r with
  | whitespace blank =>
      intro c' front
      obtain ⟨c, before, alike⟩ := fronts c' front
      rw [← Blank.of?_eq_some_iff, alike.blank, Blank.of?_eq_some_iff]
      exact ends c before
  | string national =>
      intro front
      obtain ⟨c, before, alike⟩ := fronts _ front
      obtain rfl := alike.quote rfl
      exact ends before
  | quoted opening => trivial
  | word =>
      constructor
      · intro c' front
        obtain ⟨c, before, alike⟩ := fronts c' front
        rw [alike.part]
        exact ends.1 c before
      · intro letter front
        obtain ⟨c, before, alike⟩ := fronts _ front
        obtain rfl := alike.quote rfl
        exact ends.2 letter before
  | number =>
      constructor
      · intro c' front
        obtain ⟨c, before, alike⟩ := fronts c' front
        rw [alike.digit]
        exact ends.1 c before
      · intro bare c' rest' same
        apply Bool.eq_false_iff.2
        intro digit
        obtain ⟨c, rest, before, digit⟩ := fraction c' rest' same digit
        simp [ends.2 bare c rest before] at digit
  | lineComment =>
      intro c' front
      obtain ⟨c, before, alike⟩ := fronts c' front
      rw [← Blank.of?_eq_lineBreak_iff, alike.blank, Blank.of?_eq_lineBreak_iff]
      exact ends c before
  | blockComment => trivial
  | operator o =>
      intro x single c' front joins
      obtain ⟨c, before, alike⟩ := fronts c' front
      exact ends x single c before (alike.joins x joins)

theorem Spells.ne_nil {d : Dialect} {r : Rule} {u : List Char} (h : Spells d r u) : u ≠ [] := by
  cases h with
  | whitespace run => exact run
  | whole digits => exact digits
  | decimal digits => simp
  | operator spelled => exact spelled.of_table (P := fun _ u => u ≠ []) (by decide)
  | _ => simp

end Rule

/-! ## Pieces -/

/-- A slice of text and the rule it belongs to. -/
structure Piece where
  rule : Rule
  slice : List Char
deriving DecidableEq, Repr

namespace Piece

/-- What the slice says. -/
def lexeme (d : Dialect) (p : Piece) : Lexeme := p.rule.lexeme d p.slice

/-- The characters of the pieces, one behind another. -/
def slices (ps : List Piece) : List Char := ps.flatMap slice

@[simp] theorem slices_nil : slices [] = [] := rfl

@[simp] theorem slices_cons (p : Piece) (ps : List Piece) :
    slices (p :: ps) = p.slice ++ slices ps := rfl

theorem slices_append (ps qs : List Piece) : slices (ps ++ qs) = slices ps ++ slices qs := by
  rw [slices, List.flatMap_append, slices, slices]

end Piece

/-- The text is cut into lexemes of the dialect, and no cut comes too early. -/
inductive Splits (d : Dialect) : List Char → List Piece → Prop where
  | nil : Splits d [] []
  | cons {p : Piece} {rest : List Char} {ps : List Piece} : p.rule.Spells d p.slice →
      p.rule.Ends d p.slice rest → Splits d rest ps → Splits d (p.slice ++ rest) (p :: ps)

end SqlLex
