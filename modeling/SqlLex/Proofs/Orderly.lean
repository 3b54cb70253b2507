/-
# SqlLex.Proofs.Orderly -- dialects whose classes keep out of each other's way

A dialect may claim any characters for its words and quotes, and then the order of
the questions decides.  In an `Orderly` dialect that order does not matter: no
character with a meaning of its own (`Rule.marks`) begins a word or a quoted
identifier, and no character begins both.  There a spelling that ends in front of
the text behind it is always the one that is chosen (`Rule.choice_of_spells`), so
that cutting a text into lexemes is reading it (`Splits.reading`).

Every preset is orderly (`Preset.orderly`).
-/
import SqlLex.Dialect.Preset
import SqlLex.Proofs.Reading

namespace SqlLex

set_option autoImplicit false

/-! ## Characters with a meaning of their own -/

/-- What holds along a list of characters is found by computing along the list. -/
theorem forall_mem_of_all {P : Char → Prop} [DecidablePred P] {cs : List Char}
    (h : cs.all (fun c => decide (P c)) = true) : ∀ c ∈ cs, P c := by
  intro c mem
  exact of_decide_eq_true (List.all_eq_true.1 h c mem)

namespace Operator

/-- The characters that operators begin with. -/
def openers : List Char := singles.map Prod.fst ++ pairs.map (fun entry => entry.1.1)

variable {c e : Char} {o : Operator} {u : List Char}

theorem SpelledBy.mem_openers (spelled : o.SpelledBy (c :: u)) : c ∈ openers :=
  spelled.of_table (P := fun _ u => u.headD ' ' ∈ openers) (by decide)

/-- No paired operator begins like a comment. -/
theorem SpelledBy.ne_of_pair (spelled : o.SpelledBy [c, e]) : c ≠ '-' ∧ c ≠ '/' :=
  spelled.of_table (P := fun _ u => u.length = 2 → u.headD ' ' ≠ '-' ∧ u.headD ' ' ≠ '/')
    (by decide) rfl

end Operator

namespace Rule

/-- The characters that whitespace, strings, numbers and operators begin with. -/
def marks : List Char :=
  [' ', '\t', '\n', '\r', Literal.quote, '0', '1', '2', '3', '4', '5', '6', '7', '8', '9'] ++
    Operator.openers

end Rule

/-- The classes of the dialect are apart from the marks and from each other. -/
structure Dialect.Orderly (d : Dialect) : Prop where
  begins_mark : ∀ c ∈ Rule.marks, d.beginsWord c = false
  opens_mark : ∀ c ∈ Rule.marks, d.opensQuoted c = false
  opens_letter : ∀ c ∈ ['N', 'n'], d.opensQuoted c = false
  begins_opens : ∀ c, d.opensQuoted c = true → d.beginsWord c = false
  continues_mark : ∀ c ∈ [' ', '\t', '\n', '\r', Literal.quote], d.continuesWord c = false
  continues_letter : ∀ c ∈ ['N', 'n'], d.continuesWord c = true

theorem Preset.orderly (p : Preset) : p.dialect.Orderly := by
  cases p with
  | generic =>
      refine ⟨forall_mem_of_all (by decide), forall_mem_of_all (by decide),
        forall_mem_of_all (by decide), ?_, forall_mem_of_all (by decide),
        forall_mem_of_all (by decide)⟩
      intro c opens
      obtain rfl : c = '"' := by simpa [dialect, Dialect.generic] using opens
      decide
  | postgresql =>
      refine ⟨forall_mem_of_all (by decide +kernel), forall_mem_of_all (by decide),
        forall_mem_of_all (by decide), ?_, forall_mem_of_all (by decide +kernel),
        forall_mem_of_all (by decide +kernel)⟩
      intro c opens
      obtain rfl : c = '"' := by simpa [dialect, Dialect.postgresql] using opens
      decide +kernel
  | mysql =>
      refine ⟨forall_mem_of_all (by decide), forall_mem_of_all (by decide),
        forall_mem_of_all (by decide), ?_, forall_mem_of_all (by decide),
        forall_mem_of_all (by decide)⟩
      intro c opens
      obtain rfl | rfl : c = '\x60' ∨ c = '"' := by simpa [dialect, Dialect.mysql] using opens
      all_goals decide

/-! ## The table in an orderly dialect -/

namespace Rule

variable {d : Dialect} {r : Rule} {c : Char} {u w : List Char}

/-- Digits and the characters of operators are no blanks, no quotes and no letters. -/
theorem facts_of_opener (h : c ∈ Operator.openers) :
    Blank.of? c = none ∧ c ≠ Literal.quote ∧ ¬ (c = 'N' ∨ c = 'n') ∧ c.isDigit = false := by
  have table : ∀ e ∈ Operator.openers,
      Blank.of? e = none ∧ e ≠ Literal.quote ∧ ¬ (e = 'N' ∨ e = 'n') ∧ e.isDigit = false :=
    forall_mem_of_all (by decide)
  exact table c h

theorem facts_of_digit (h : c.isDigit = true) :
    Blank.of? c = none ∧ c ≠ Literal.quote ∧ ¬ (c = 'N' ∨ c = 'n') ∧ c ∈ marks := by
  have range : 48 ≤ c.toNat ∧ c.toNat < 58 := by
    simp only [Char.isDigit, Bool.and_eq_true, decide_eq_true_eq] at h
    exact ⟨UInt32.le_iff_toNat_le.1 h.1, Nat.lt_succ_of_le (UInt32.le_iff_toNat_le.1 h.2)⟩
  have table : ∀ n < 58, 48 ≤ n → Blank.of? (Char.ofNat n) = none ∧
      Char.ofNat n ≠ Literal.quote ∧ ¬ (Char.ofNat n = 'N' ∨ Char.ofNat n = 'n') ∧
        Char.ofNat n ∈ marks := by
    decide +kernel
  simpa [Char.ofNat_toNat] using table c.toNat range.2 range.1

theorem facts_of_not_mark (h : c ∉ marks) : Blank.of? c = none ∧ c ≠ Literal.quote := by
  simp only [marks, List.mem_append, List.mem_cons, not_or] at h
  refine ⟨?_, h.1.2.2.2.2.1⟩
  simp [Blank.of?, h.1]

theorem charChoice_of_plain {second : Option Char} (blank : Blank.of? c = none)
    (quote : c ≠ Literal.quote)
    (letter : ¬ ((c = 'N' ∨ c = 'n') ∧ second = some Literal.quote)) :
    charChoice d c second = wordChoice d c second := by
  simp [charChoice, blank, quote, letter]

theorem choice_of_digit (orderly : d.Orderly) (digit : c.isDigit = true) :
    choice d (c :: w) = .rule .number := by
  obtain ⟨blank, quote, letter, mark⟩ := facts_of_digit digit
  rw [choice, charChoice_of_plain blank quote fun h => letter h.1]
  simp [wordChoice, orderly.begins_mark c mark, orderly.opens_mark c mark, digit]

theorem choice_of_opener {o : Operator} (orderly : d.Orderly) (opener : c ∈ Operator.openers)
    (noDashes : ¬ (c = '-' ∧ w.head? = some '-')) (noOpening : ¬ (c = '/' ∧ w.head? = some '*'))
    (known : Operator.longest? c w.head? = some o) :
    choice d (c :: w) = .rule (.operator o) := by
  obtain ⟨blank, quote, letter, digit⟩ := facts_of_opener opener
  have mark : c ∈ marks := List.mem_append_right _ opener
  rw [choice, charChoice_of_plain blank quote fun h => letter h.1]
  simp [wordChoice, operatorChoice, orderly.begins_mark c mark, orderly.opens_mark c mark, digit,
    noDashes, noOpening, known]

/-- **In an orderly dialect the rule of a spelling that ends where it stands is chosen.** -/
theorem choice_of_spells (orderly : d.Orderly) (spells : Spells d r u) (ends : Ends d r u w) :
    choice d (u ++ w) = .rule r := by
  cases spells with
  | whitespace some all => exact choice_of_whitespace (.whitespace some all)
  | string body => exact choice_of_string (.string body)
  | nationalString letter body => exact choice_of_string (.nationalString letter body)
  | @quoted opening body opens =>
      have noMark : opening ∉ marks := by
        intro mem
        simp [orderly.opens_mark opening mem] at opens
      have noLetter : ¬ (opening = 'N' ∨ opening = 'n') := by
        intro letter
        simp [orderly.opens_letter opening (by simpa using letter)] at opens
      obtain ⟨blank, quote⟩ := facts_of_not_mark noMark
      rw [List.cons_append, choice, charChoice_of_plain blank quote (fun h => noLetter h.1)]
      simp [wordChoice, opens]
  | @word c run begins continues =>
      have noMark : c ∉ marks := by
        intro mem
        simp [orderly.begins_mark c mem] at begins
      have noQuoted : d.opensQuoted c = false := by
        rw [← Bool.not_eq_true]
        intro opens
        simp [orderly.begins_opens c opens] at begins
      have noString : ¬ ((c = 'N' ∨ c = 'n') ∧ (run ++ w).head? = some Literal.quote) := by
        rintro ⟨letter, quote⟩
        -- the quote would be the character behind the word or a part of it
        cases run with
        | nil => exact ends.2 (by simpa using letter) quote
        | cons x run =>
            obtain rfl : x = Literal.quote := by simpa using quote
            simp [orderly.continues_mark Literal.quote (by simp)] at continues
      obtain ⟨blank, quote⟩ := facts_of_not_mark noMark
      rw [List.cons_append, choice, charChoice_of_plain blank quote noString]
      simp [wordChoice, noQuoted, begins]
  | whole some digits =>
      obtain ⟨c, run, rfl⟩ := List.exists_cons_of_ne_nil some
      exact choice_of_digit orderly (digits c List.mem_cons_self)
  | decimal some digits =>
      obtain ⟨c, run, rfl⟩ := List.exists_cons_of_ne_nil some
      exact choice_of_digit orderly (digits c List.mem_cons_self)
  | lineComment =>
      rw [List.cons_append, choice, charChoice_of_plain (by decide) (by decide) (by simp)]
      simp [wordChoice, orderly.begins_mark '-' (by decide), orderly.opens_mark '-' (by decide)]
  | blockComment =>
      rw [List.cons_append, choice, charChoice_of_plain (by decide) (by decide) (by simp)]
      simp [wordChoice, orderly.begins_mark '/' (by decide), orderly.opens_mark '/' (by decide)]
  | operator spelled =>
      rcases spelled.single_or_pair with ⟨c, rfl, known⟩ | ⟨c, e, rfl, known⟩
      · have noJoin : ∀ e ∈ w.head?, ¬ Operator.Joins c e := ends c rfl
        refine choice_of_opener orderly spelled.mem_openers ?_ ?_ ?_
        · rintro ⟨rfl, second⟩
          exact noJoin '-' second (by decide)
        · rintro ⟨rfl, second⟩
          exact noJoin '*' second (by decide)
        · rw [List.append_eq, List.nil_append]
          cases second : w.head? with
          | none => simp [Operator.longest?, known]
          | some e =>
              have noPair := Operator.ofPair?_eq_none (noJoin e second)
              simp [Operator.longest?, noPair, known]
      · obtain ⟨noDash, noSlash⟩ := spelled.ne_of_pair
        exact choice_of_opener orderly spelled.mem_openers (fun h => noDash h.1)
          (fun h => noSlash h.1) (Operator.longest?_pair known)

theorem covers_of_spells (orderly : d.Orderly) (spells : Spells d r u) (ends : Ends d r u w) :
    r.Covers d u w :=
  ⟨choice_of_spells orderly spells ends, spells, ends⟩

end Rule

/-! ## Splits are readings -/

variable {d : Dialect} {cs : List Char} {ps : List Piece}

theorem Splits.of_reading (h : Reading d [] cs ps) : Splits d cs ps := by
  induction h with
  | done => exact .nil
  | step covers _ ih => exact .cons covers.spells covers.ends ih

theorem Splits.reading (orderly : d.Orderly) (h : Splits d cs ps) : Reading d [] cs ps := by
  induction h with
  | nil => exact .done
  | cons spells ends _ ih => exact .step (Rule.covers_of_spells orderly spells ends) ih

/-- Reading a text that is split reads the pieces. -/
theorem tokenize_of_splits (orderly : d.Orderly) {s : String} (h : Splits d s.toList ps) :
    (Tokenizer.ofString d s).tokenize.1 = .ok (Piece.place d .start ps) := by
  have reading : Reading d ([] ++ []) s.toList ps := h.reading orderly
  obtain ⟨rest, -, run⟩ := Tokenizer.tokenize_of_reading (s := .ofString s) reading .finished
    .start rfl
  exact congrArg Prod.fst run

end SqlLex
