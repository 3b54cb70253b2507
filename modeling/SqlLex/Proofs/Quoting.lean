/-
# SqlLex.Proofs.Quoting -- quotes around a word change nothing else

A bare word may be put in quotes wherever it stands.  A quote character begins no
lexeme but its own and lengthens none in front of it (`Rule.Ends.quote`), and it does
not occur in the word, so the quoted word is read up to the quote behind it whatever
follows.  The pieces in front of the word are therefore read as before
(`Reading.quote_behind`), and so are those behind it, because nothing is remembered
between two pieces.

The word keeps its value and its keyword, which a dialect finds by the upper case of
the value, quoted or not (`Tokenizer.classified`).  So the run over the text with the
word in quotes says what the run over the text says, but for the quote of this one
word (`Preset.tokenize_quote`).
-/
import SqlLex.Proofs.Orderly
import SqlLex.Proofs.Stepping

namespace SqlLex

set_option autoImplicit false

variable {d : Dialect} {r : Rule} {q c : Char} {u v w cs last : List Char} {ps : List Piece}

/-! ## In quotes -/

/-- A slice between two quotes. -/
def enquote (q : Char) (slice : List Char) : List Char := q :: (slice ++ [q])

/-- The word as a quoted one. -/
def Word.quotedBy (q : Char) (word : Word) : Word := { word with quote := some q }

/-- What a word says when it stands in quotes. -/
def Lexeme.quotedBy (q : Char) (x : Lexeme) : Lexeme :=
  match x.value with
  | .text _ => x
  | .word word => { x with value := .word (word.quotedBy q) }

/-- The piece between two quotes. -/
def Piece.enquote (q : Char) (p : Piece) : Piece := ⟨.quoted q, SqlLex.enquote q p.slice⟩

theorem Piece.lexeme_enquote (d : Dialect) (q : Char) (u : List Char) :
    (enquote q ⟨.word, u⟩).lexeme d = Lexeme.quotedBy q (lexeme d ⟨.word, u⟩) := by
  simp [lexeme, enquote, SqlLex.enquote, Rule.lexeme, Lexeme.quotedBy, Word.quotedBy,
    Dialect.classify]

/-- A quote character that opens quoted identifiers, closes what it opened and is no part of a
word. -/
structure Dialect.QuotesBy (d : Dialect) (q : Char) : Prop where
  opens : d.opensQuoted q = true
  closes : Text.closing q = q
  part : d.continuesWord q = false

theorem Preset.quotesBy {p : Preset} (opens : p.dialect.opensQuoted q = true) :
    p.dialect.QuotesBy q := by
  cases p with
  | generic =>
      obtain rfl : q = '"' := by simpa [dialect, Dialect.generic] using opens
      exact ⟨opens, by decide, by decide⟩
  | postgresql =>
      obtain rfl : q = '"' := by simpa [dialect, Dialect.postgresql] using opens
      exact ⟨opens, by decide, by decide +kernel⟩
  | mysql =>
      obtain rfl | rfl : q = '\x60' ∨ q = '"' := by simpa [dialect, Dialect.mysql] using opens
      all_goals exact ⟨opens, by decide, by decide⟩

/-! ## Lexemes in front of a quote -/

namespace Rule

theorem notMem_marks_of_opens (orderly : d.Orderly) (opens : d.opensQuoted q = true) :
    q ∉ marks := by
  intro mark
  simp [orderly.opens_mark q mark] at opens

/-- A quote is no digit and stands second in no operator. -/
theorem facts_of_opens (orderly : d.Orderly) (opens : d.opensQuoted q = true) :
    q.isDigit = false ∧ q ∉ Operator.seconds ∧ q ≠ '.' := by
  have noMark := notMem_marks_of_opens orderly opens
  have table : ∀ e ∈ '.' :: Operator.seconds, e ∈ marks := forall_mem_of_all (by decide)
  refine ⟨?_, ?_, ?_⟩
  · apply Bool.eq_false_iff.2
    exact fun digit => noMark (facts_of_digit digit).2.2.2
  · exact fun second => noMark (table q (List.mem_cons_of_mem _ second))
  · rintro rfl
    exact noMark (table '.' List.mem_cons_self)

/-- A quote does not occur in a word. -/
theorem Spells.notMem_of_quotes (orderly : d.Orderly) (quotes : d.QuotesBy q)
    (spells : Spells d .word u) : q ∉ u := by
  intro inside
  cases spells with
  | word begins continues =>
      rcases List.mem_cons.1 inside with rfl | later
      · simp [orderly.begins_opens q quotes.opens] at begins
      · have part := quotes.part
        simp [continues q later] at part

/-- A word in quotes spells a quoted identifier. -/
theorem Spells.enquote (orderly : d.Orderly) (quotes : d.QuotesBy q) (spells : Spells d .word u) :
    Spells d (.quoted q) (SqlLex.enquote q u) := by
  have free := spells.notMem_of_quotes orderly quotes
  rw [← quotes.closes] at free
  have quoted := Spells.quoted quotes.opens free
  rwa [quotes.closes] at quoted

/-- **A lexeme in front of a word ends in front of a quote.** -/
theorem Ends.quote (orderly : d.Orderly) (quotes : d.QuotesBy q) (begins : d.beginsWord c = true)
    (ends : Ends d r u (c :: v)) : Ends d r u (q :: w) := by
  obtain ⟨blank, noQuote⟩ := facts_of_not_mark (notMem_marks_of_opens orderly quotes.opens)
  obtain ⟨noDigit, noSecond, noPeriod⟩ := facts_of_opens orderly quotes.opens
  cases r with
  | whitespace b => simp [Ends, ← Blank.of?_eq_some_iff, blank]
  | string national => simpa [Ends] using noQuote
  | quoted opening => trivial
  | word => simpa [Ends, quotes.part] using fun _ => noQuote
  | number => simp [Ends, noDigit, noPeriod]
  | lineComment =>
      -- a word does not begin with the line break that ends a comment
      have noBreak : c ≠ '\n' ∧ c ≠ '\r' := by
        constructor
        · rintro rfl
          simp [orderly.begins_mark '\n' (by decide)] at begins
        · rintro rfl
          simp [orderly.begins_mark '\r' (by decide)] at begins
      exact ((ends c rfl).elim noBreak.1 noBreak.2).elim
  | blockComment => trivial
  | operator o =>
      intro x _ e front
      obtain rfl : q = e := by simpa using front
      exact Operator.not_joins x noSecond

/-- A lexeme further in front ends as before: at most it looks past a period for a digit, and a quote
is none. -/
theorem Ends.quote_later {x : List Char} (noDigit : q.isDigit = false) (some : v ≠ [])
    (ends : Ends d r u (v ++ x)) : Ends d r u (v ++ q :: w) := by
  obtain ⟨c, v, rfl⟩ := List.exists_cons_of_ne_nil some
  refine ends.alike (fun c' front => ⟨c', front, .refl d c'⟩) ?_
  intro c' rest same digit
  cases v with
  | nil =>
      obtain ⟨-, rfl, -⟩ : c = '.' ∧ q = c' ∧ w = rest := by simpa using same
      simp [noDigit] at digit
  | cons e v =>
      obtain ⟨rfl, rfl, -⟩ : c = '.' ∧ e = c' ∧ v ++ q :: w = rest := by simpa using same
      exact ⟨e, v ++ x, rfl, digit⟩

end Rule

/-! ## Readings with a word in quotes -/

namespace Reading

/-- **The pieces in front of a word are read in front of a quote.** -/
theorem quote_behind (orderly : d.Orderly) (quotes : d.QuotesBy q)
    (begins : d.beginsWord c = true) (reading : Reading d (c :: v) cs ps) (w : List Char) :
    Reading d (q :: w) (Piece.slices ps ++ q :: w) ps := by
  induction reading with
  | done => exact .done
  | @step p rest ps covers reading ih =>
      rw [Piece.slices_cons, List.append_assoc]
      refine .step (Rule.covers_of_spells orderly covers.spells ?_) ih
      have ends := covers.ends
      rw [reading.text] at ends
      by_cases next : Piece.slices ps = []
      · rw [next] at ends ⊢
        exact ends.quote orderly quotes begins
      · exact ends.quote_later (Rule.facts_of_opens orderly quotes.opens).1 next

/-- **A text with one of its words in quotes is read as its pieces with that one in quotes.** -/
theorem enquote (orderly : d.Orderly) (quotes : d.QuotesBy q) {i : Nat}
    (reading : Reading d last cs ps) (here : ps[i]? = some ⟨.word, u⟩) :
    Reading d last (Piece.slices (ps.modify i (Piece.enquote q)) ++ last)
      (ps.modify i (Piece.enquote q)) := by
  obtain ⟨bound, same⟩ := List.getElem?_eq_some_iff.1 here
  have spells : Rule.Spells d .word u := reading.spells _ (List.mem_of_getElem? here)
  have front := reading.take i
  rw [List.drop_eq_getElem_cons bound, same, Piece.slices_cons, List.append_assoc] at front
  have behind := reading.drop (i + 1)
  -- the word itself, between the pieces in front of it and those behind it
  have covers := Rule.covers_of_spells (w := Piece.slices (ps.drop (i + 1)) ++ last) orderly
    (spells.enquote orderly quotes) trivial
  have word := Reading.step (p := Piece.enquote q ⟨.word, u⟩) covers behind
  have before : Reading d (SqlLex.enquote q u ++ (Piece.slices (ps.drop (i + 1)) ++ last))
      (Piece.slices (ps.take i) ++ (SqlLex.enquote q u ++ (Piece.slices (ps.drop (i + 1)) ++ last)))
      (ps.take i) := by
    cases spells with
    | word begins => exact front.quote_behind orderly quotes begins _
  have whole := before.append word
  rw [List.modify_eq_take_cons_drop bound, same]
  simpa [Piece.slices_append, Piece.enquote] using whole

end Reading

/-! ## What words say -/

/-- Only the two rules of words say words, a bare one its slice and a quoted one its quote. -/
theorem Rule.classify_of_word {word : Word} (value : (r.lexeme d u).value = .word word) :
    (r = .word ∧ d.classify (.ofList u) none = word) ∨
      ∃ opening text, d.classify text (some opening) = word := by
  cases r with
  | word => exact .inl ⟨rfl, TokenValue.word.inj value⟩
  | quoted opening => exact .inr ⟨opening, _, TokenValue.word.inj value⟩
  | _ => cases value

/-- A word without quotes is its slice. -/
theorem Rule.word_of_bare {word : Word} (value : (r.lexeme d u).value = .word word)
    (bare : word.quote = none) : r = .word ∧ u = word.value.toList := by
  rcases classify_of_word value with ⟨rfl, rfl⟩ | ⟨opening, text, rfl⟩
  · exact ⟨rfl, String.toList_ofList.symm⟩
  · cases bare

/-- The keyword of a word is what the dialect says of its value in upper case, quoted or not. -/
theorem Rule.keyword_of_word {word : Word} (value : (r.lexeme d u).value = .word word) :
    word.keyword = d.reserved (Text.upper word.value) := by
  rcases classify_of_word value with ⟨-, rfl⟩ | ⟨opening, text, rfl⟩
  · rfl
  · rfl

namespace Tokenizer

/-- **In every run a word has the keyword that the dialect finds by its value in upper case.** -/
theorem classified (t : Tokenizer) :
    ∀ token ∈ tokensOf t.tokenize.1, ∀ word, token.value = .word word →
      word.keyword = t.dialect.reserved (Text.upper word.value) := by
  fun_induction slices t with
  | case1 t first after h ih =>
      obtain ⟨found, rfl, -, -⟩ := scan_of_next h
      obtain ⟨r, held, -, -, meaning⟩ := Source.rule_of_scan found
      rw [tokenize_of_token h, tokensOf_prepend]
      refine List.forall_mem_cons.2 ⟨fun word value => ?_, ih⟩
      rw [meaning] at value
      exact Rule.keyword_of_word value
  | case2 t other => simp [tokensOf_of_none other]

end Tokenizer

theorem Preset.reserved_eq (p : Preset) : p.dialect.reserved = Keyword.lookup := by
  cases p <;> rfl

/-! ## Texts with a word in quotes -/

/-- One element changed and then all of them mapped. -/
theorem map_modify {α β : Type} {f : α → α} {g : β → β} {h : α → β} {xs : List α} {i : Nat}
    (same : ∀ x, xs[i]? = some x → h (f x) = g (h x)) :
    (xs.modify i f).map h = (xs.map h).modify i g := by
  apply List.ext_getElem?
  intro j
  rw [List.getElem?_map, List.getElem?_modify, List.getElem?_modify, List.getElem?_map]
  by_cases here : i = j
  · subst here
    cases found : xs[i]? with
    | none => rfl
    | some x => simp [same x found]
  · simp [here]

/-- **Quotes around a word change nothing else.**  In every run of a preset a word is reserved exactly
if its value in upper case is in the table, and its keyword is then that.  Any bare word among the
tokens of a text can be put in any quotes of the dialect: the text with quotes around the slice of
this word has as many tokens, which say the same, but for the quote of this one, and reading ends in
the same way. -/
theorem Preset.tokenize_quote (p : Preset) :
    (∀ answers : List Answer,
      ∀ token ∈ Tokenizer.tokensOf (Tokenizer.ofSource p.dialect (.ofAnswers answers)).tokenize.1,
        ∀ word, token.value = .word word → ∀ keyword, word.keyword = some keyword ↔
          keyword = Text.upper word.value ∧ Text.upper word.value ∈ Keyword.words) ∧
    ∀ s : String,
      let t := Tokenizer.ofString p.dialect s
      ∃ rest, s.toList = t.slices.flatten ++ rest ∧
        ∀ (q : Char) (i : Nat) (token : Token) (word : Word), p.dialect.opensQuoted q = true →
          (Tokenizer.tokensOf t.tokenize.1)[i]? = some token → token.value = .word word →
          word.quote = none →
            t.slices[i]? = some word.value.toList ∧
            let s' := String.ofList ((t.slices.modify i (enquote q)).flatten ++ rest)
            Tokenizer.unplaced (Tokenizer.ofString p.dialect s').tokenize.1 =
              ((Tokenizer.unplaced t.tokenize.1).1.modify i (Lexeme.quotedBy q),
                (Tokenizer.unplaced t.tokenize.1).2) := by
  constructor
  · intro answers token mem word value keyword
    rw [Tokenizer.classified _ token mem word value]
    show p.dialect.reserved _ = _ ↔ _
    rw [p.reserved_eq, Keyword.lookup_eq_some_iff]
  · intro s t
    obtain ⟨ps, fault, taken, left, reading, halts⟩ := exists_reading p.dialect s.toList
    have outcome : t.tokenize.1 = _ := Tokenizer.outcome_of_reading reading halts .start
    have slices : t.slices = ps.map Piece.slice :=
      Tokenizer.slices_of_reading (s := .ofString s) reading halts .start rfl
    refine ⟨taken ++ left, ?_, ?_⟩
    · rw [slices, reading.text, Piece.slices, List.flatMap_def]
    intro q i token word opens here value bare
    rw [outcome, Tokenizer.tokensOf_outcome, Piece.getElem?_place] at here
    obtain ⟨⟨r, u⟩, piece, rfl⟩ := Option.map_eq_some_iff.1 here
    obtain ⟨rfl, rfl⟩ := Rule.word_of_bare value bare
    refine ⟨by simp [slices, piece], ?_⟩
    intro s'
    have quoted := reading.enquote p.orderly (quotesBy opens) piece
    have text : s'.toList = Piece.slices (ps.modify i (Piece.enquote q)) ++ (taken ++ left) := by
      have moved : (ps.modify i (Piece.enquote q)).map Piece.slice =
          (ps.map Piece.slice).modify i (enquote q) := map_modify fun _ _ => rfl
      rw [String.toList_ofList, slices, ← moved, ← List.flatMap_def]
      rfl
    rw [← text] at quoted
    have outcome' : (Tokenizer.ofString p.dialect s').tokenize.1 = _ :=
      Tokenizer.outcome_of_reading quoted halts .start
    rw [outcome', outcome, Tokenizer.unplaced_outcome halts, Tokenizer.unplaced_outcome halts,
      Piece.toLexeme_place, Piece.toLexeme_place]
    refine congrArg (·, fault) (map_modify fun x found => ?_)
    obtain rfl : ⟨.word, word.value.toList⟩ = x := Option.some.inj (piece.symm.trans found)
    exact Piece.lexeme_enquote _ q _

/-- A word behind half an operator and in front of a quoted identifier that stays open. -/
theorem tokenize_quote_neighbours :
    let t := Tokenizer.ofString Preset.generic.dialect "-N\"b"
    let word : Word := ⟨"N", none, none⟩
    Preset.generic.dialect.opensQuoted '"' = true ∧
      (Tokenizer.tokensOf t.tokenize.1)[1]? = some ⟨⟨.word, .word word, none⟩, ⟨1, 1⟩, ⟨1, 2⟩⟩ ∧
      Tokenizer.unplaced (Tokenizer.ofString Preset.generic.dialect "-\"N\"\"b").tokenize.1 =
        ((Tokenizer.unplaced t.tokenize.1).1.modify 1 (Lexeme.quotedBy '"'),
          some (.unterminated .quotedIdentifier)) := by
  intro t word
  have opens : Preset.generic.dialect.opensQuoted '"' = true := by decide
  have here : (Tokenizer.tokensOf t.tokenize.1)[1]? =
      some ⟨⟨.word, .word word, none⟩, ⟨1, 1⟩, ⟨1, 2⟩⟩ := by decide +kernel
  have slices : t.slices = [['-'], ['N']] := by decide +kernel
  have open_ : (Tokenizer.unplaced t.tokenize.1).2 = some (.unterminated .quotedIdentifier) := by
    decide +kernel
  obtain ⟨-, texts⟩ := Preset.tokenize_quote .generic
  obtain ⟨rest, text, quoted⟩ := texts "-N\"b"
  change _ = t.slices.flatten ++ rest at text
  obtain ⟨-, same⟩ := quoted '"' 1 _ word opens here rfl rfl
  rw [slices] at text same
  obtain rfl : ['"', 'b'] = rest := by simpa using text
  rw [open_] at same
  exact ⟨opens, here, same⟩

end SqlLex
