/-
# SqlLex.Proofs.LetterCase -- letter case does not matter

A preset reads two texts alike that differ in the case of ASCII letters only
(`Preset.tokenize_letterCase`): the tokens are the same up to the case of the letters
in their values, with the same keywords and quotes at the same positions, and so is
the error if there is one.

The two texts need not be compared with each other.  Both are compared with the text
in upper case (`Preset.tokenize_upper`), which is the first one rewritten character
by character.  No character with a meaning of its own is a letter, and in a dialect
in which letters make words (`Dialect.Lettered`) a letter is never the character that
a choice turns on, save the one in front of a national string, which may be written
in either case.
-/
import Mathlib
import SqlLex.Proofs.Orderly
import SqlLex.Proofs.Respelling
import SqlLex.Proofs.Rewriting

namespace SqlLex

set_option autoImplicit false

variable {d : Dialect} {r : Rule} {c e : Char} {cs u w : List Char}

/-! ## Letters -/

namespace Text

theorem toUpper_of_other (other : c.isAlpha = false) : c.toUpper = c := by
  apply Char.toUpper_eq_of_not_isLower
  simp_all [Char.isAlpha]

/-- Only itself becomes a character that is no letter. -/
theorem toUpper_eq_iff (other : e.isAlpha = false) : c.toUpper = e ↔ c = e := by
  constructor
  · rintro rfl
    rw [Char.isAlpha_toUpper_eq_isAlpha] at other
    exact (toUpper_of_other other).symm
  · rintro rfl
    exact toUpper_of_other other

theorem toUpper_eq_n_iff : (c.toUpper = 'N' ∨ c.toUpper = 'n') ↔ (c = 'N' ∨ c = 'n') := by
  constructor
  · intro letter
    by_cases lower : c.isLower = true
    · have small := Char.toLower_eq_of_not_isUpper (Char.not_isUpper_of_isLower lower)
      rw [← Char.toLower_toUpper_eq_toLower] at small
      right
      rcases letter with same | same
      · rw [← small, same]
        rfl
      · rw [← small, same]
        rfl
    · rwa [Char.toUpper_eq_of_not_isLower lower] at letter
  · rintro (rfl | rfl)
    · exact .inl rfl
    · exact .inl rfl

theorem mem_map_toUpper (other : e.isAlpha = false) : e ∈ cs.map Char.toUpper ↔ e ∈ cs := by
  simp [toUpper_eq_iff other]

theorem map_toUpper_of_other (other : ∀ c ∈ cs, c.isAlpha = false) :
    cs.map Char.toUpper = cs := by
  rw [List.map_congr_left fun c mem => toUpper_of_other (other c mem), List.map_id']

/-- Upper case is not changed by upper case. -/
theorem upper_map_toUpper (cs : List Char) :
    upper (.ofList (cs.map Char.toUpper)) = upper (.ofList cs) := by
  simp [upper, Function.comp_def]

theorem toNat_of_isAlpha (letter : c.isAlpha = true) : c.toNat < 128 := by
  simp [Char.isAlpha, Char.isUpper, Char.isLower, UInt32.le_iff_toNat_le] at letter
  omega

end Text

/-- Characters with a meaning of their own are no letters. -/
theorem Rule.isAlpha_of_mark (mark : c ∈ marks) : c.isAlpha = false :=
  forall_mem_of_all (P := fun c => c.isAlpha = false) (by decide) c mark

/-- Every letter of ASCII begins and continues words, and opens no quoted identifier. -/
structure Dialect.Lettered (d : Dialect) : Prop where
  begins : ∀ c, c.isAlpha = true → d.beginsWord c = true
  continues : ∀ c, c.isAlpha = true → d.continuesWord c = true
  opens : ∀ c, c.isAlpha = true → d.opensQuoted c = false

theorem Preset.lettered (p : Preset) : p.dialect.Lettered := by
  have apart : ∀ {c e : Char}, c.isAlpha = true → e.isAlpha = false → c ≠ e := by
    rintro c e letter other rfl
    simp [other] at letter
  cases p with
  | generic =>
      constructor <;> intro c letter
      · simp [dialect, Dialect.generic, letter]
      · simp [dialect, Dialect.generic, Char.isAlphanum, letter]
      · simpa [dialect, Dialect.generic] using apart letter (e := '"') (by decide)
  | postgresql =>
      constructor <;> intro c letter
      · simp [dialect, Dialect.postgresql, Text.isAlphabetic_ascii (Text.toNat_of_isAlpha letter),
          letter]
      · simp [dialect, Dialect.postgresql, Text.isAlphabetic_ascii (Text.toNat_of_isAlpha letter),
          letter]
      · simpa [dialect, Dialect.postgresql] using apart letter (e := '"') (by decide)
  | mysql =>
      constructor <;> intro c letter
      · simp [dialect, Dialect.mysql, letter]
      · simp [dialect, Dialect.mysql, Char.isAlphanum, letter]
      · simpa [dialect, Dialect.mysql] using
          And.intro (apart letter (e := '\x60') (by decide)) (apart letter (e := '"') (by decide))

/-! ## Choosing -/

namespace Rule

theorem notMem_marks_of_isAlpha (letter : c.isAlpha = true) : c ∉ marks := by
  intro mark
  simp [isAlpha_of_mark mark] at letter

theorem notMem_seconds_of_isAlpha (letter : c.isAlpha = true) : c ∉ Operator.seconds := by
  have table : ∀ e ∈ Operator.seconds, e ∈ marks := forall_mem_of_all (by decide)
  exact fun second => notMem_marks_of_isAlpha letter (table c second)

theorem charChoice_of_letter {second : Option Char} (lettered : d.Lettered)
    (letter : c.isAlpha = true) :
    charChoice d c second =
      if (c = 'N' ∨ c = 'n') ∧ second = some Literal.quote then .rule (.string true)
      else .rule .word := by
  obtain ⟨blank, quote⟩ := facts_of_not_mark (notMem_marks_of_isAlpha letter)
  simp [charChoice, wordChoice, blank, quote, lettered.begins c letter, lettered.opens c letter]

/-- A letter behind the first character says nothing, in either case. -/
theorem charChoice_second (d : Dialect) (c : Char) (second : Option Char) :
    charChoice d c (second.map Char.toUpper) = charChoice d c second := by
  cases second with
  | none => rfl
  | some e =>
      rw [Option.map_some]
      cases letter : e.isAlpha with
      | false => rw [Text.toUpper_of_other letter]
      | true =>
          have apart : ∀ x : Char, x.isAlpha = true → charChoice d c (some x) = charChoice d c none :=
            fun x letter => charChoice_of_notSecond (notMem_seconds_of_isAlpha letter)
              (facts_of_not_mark (notMem_marks_of_isAlpha letter)).2
          rw [apart e letter, apart e.toUpper (by rwa [Char.isAlpha_toUpper_eq_isAlpha])]

/-- **Every choice is the same in upper case.** -/
theorem choice_toUpper (lettered : d.Lettered) (cs : List Char) :
    choice d (cs.map Char.toUpper) = choice d cs := by
  cases cs with
  | nil => rfl
  | cons c cs =>
      show charChoice d c.toUpper (cs.map Char.toUpper).head? = charChoice d c cs.head?
      rw [List.head?_map, charChoice_second]
      cases letter : c.isAlpha with
      | false => rw [Text.toUpper_of_other letter]
      | true =>
          have large : c.toUpper.isAlpha = true := by rwa [Char.isAlpha_toUpper_eq_isAlpha]
          simp only [charChoice_of_letter lettered letter, charChoice_of_letter lettered large,
            Text.toUpper_eq_n_iff]

end Rule

/-! ## Bodies of strings -/

/-- **A body in upper case is a body, and it says what the body says, in upper case.** -/
theorem Literal.Body.toUpper {escapes : Bool} {body : List Char} (well : Body escapes body) :
    Body escapes (body.map Char.toUpper) ∧
      decode escapes (body.map Char.toUpper) = (decode escapes body).map Char.toUpper := by
  have quoteSame : ∀ {c : Char}, c.toUpper = quote ↔ c = quote := Text.toUpper_eq_iff (by decide)
  have escapeSame : ∀ {c : Char}, c.toUpper = escapeChar ↔ c = escapeChar :=
    Text.toUpper_eq_iff (by decide)
  induction well with
  | nil => exact ⟨.nil, rfl⟩
  | @plain c body noQuote ordinary well ih =>
      have noQuote' := mt quoteSame.1 noQuote
      have ordinary' := fun on => mt escapeSame.1 (ordinary on)
      rw [List.map_cons, decode_plain _ noQuote' ordinary', decode_plain _ noQuote ordinary, ih.2]
      exact ⟨.plain noQuote' ordinary' ih.1, rfl⟩
  | @doubled body well ih =>
      rw [List.map_cons, List.map_cons, quoteSame.2 rfl, decode_doubled, decode_doubled, ih.2]
      exact ⟨.doubled ih.1, by rw [List.map_cons, quoteSame.2 rfl]⟩
  | @escaped c body on well ih =>
      subst on
      rw [List.map_cons, List.map_cons, escapeSame.2 rfl, decode_escaped, decode_escaped, ih.2]
      refine ⟨.escaped rfl ih.1, ?_⟩
      simp only [quoteSame, escapeSame]
      split
      · rfl
      · rw [List.map_append, List.map_cons, escapeSame.2 rfl]
        rfl

theorem Literal.Unclosed.toUpper {escapes : Bool} {body : List Char}
    (unclosed : Unclosed escapes body) : Unclosed escapes (body.map Char.toUpper) := by
  cases unclosed with
  | body well => exact .body well.toUpper.1
  | escape on well =>
      rw [List.map_append]
      exact .escape on well.toUpper.1

/-! ## Pieces, one by one -/

theorem Operator.isAlpha_of_joins (joins : Joins c e) : c.isAlpha = false ∧ e.isAlpha = false := by
  have table : ∀ two ∈ joined, two.1.isAlpha = false ∧ two.2.isAlpha = false := by decide
  exact table (c, e) joins

/-- No operator is spelled with letters. -/
theorem Operator.SpelledBy.map_toUpper {o : Operator} (spelled : o.SpelledBy u) :
    u.map Char.toUpper = u :=
  spelled.of_table (P := fun _ u => u.map Char.toUpper = u) (by decide)

theorem Operator.Joins.of_toUpper (joins : Joins c.toUpper e) : Joins c e := by
  have first := (isAlpha_of_joins joins).1
  rw [Char.isAlpha_toUpper_eq_isAlpha] at first
  rwa [Text.toUpper_of_other first] at joins

namespace Rule

theorem isDigit_of_isAlpha (letter : c.isAlpha = true) : c.isDigit = false := by
  apply Bool.eq_false_iff.2
  intro digit
  exact notMem_marks_of_isAlpha letter (facts_of_digit digit).2.2.2

/-- To a lexeme in front of them all letters are alike. -/
theorem alike_of_letters (lettered : d.Lettered) (letter : c.isAlpha = true)
    (letter' : e.isAlpha = true) : Alike d c e where
  blank := by
    rw [(facts_of_not_mark (notMem_marks_of_isAlpha letter)).1,
      (facts_of_not_mark (notMem_marks_of_isAlpha letter')).1]
  quote same := absurd same (facts_of_not_mark (notMem_marks_of_isAlpha letter')).2
  part := by rw [lettered.continues c letter, lettered.continues e letter']
  digit := by rw [isDigit_of_isAlpha letter, isDigit_of_isAlpha letter']
  joins x joins := by simp [(Operator.isAlpha_of_joins joins).2] at letter'

theorem alike_toUpper (lettered : d.Lettered) (c : Char) : Alike d c c.toUpper := by
  cases letter : c.isAlpha with
  | false =>
      rw [Text.toUpper_of_other letter]
      exact .refl d c
  | true => exact alike_of_letters lettered letter (by rwa [Char.isAlpha_toUpper_eq_isAlpha])

/-- A lexeme that ends in front of a text ends there in upper case too. -/
theorem Ends.toUpper (lettered : d.Lettered) (ends : Ends d r u w) :
    Ends d r (u.map Char.toUpper) (w.map Char.toUpper) := by
  have moved : Ends d r u (w.map Char.toUpper) := by
    apply ends.alike
    · intro c' front
      rw [List.head?_map] at front
      obtain ⟨c, before, rfl⟩ := Option.map_eq_some_iff.1 front
      exact ⟨c, before, alike_toUpper lettered c⟩
    · intro c' rest' same digit
      obtain ⟨period, behind, rfl, large, same⟩ := List.map_eq_cons_iff.1 same
      obtain ⟨c, rest, rfl, rfl, -⟩ := List.map_eq_cons_iff.1 same
      obtain rfl := (Text.toUpper_eq_iff (by decide)).1 large
      exact ⟨c, rest, rfl, (alike_toUpper lettered c).digit ▸ digit⟩
  cases r with
  | word =>
      refine ⟨moved.1, fun letter => moved.2 ?_⟩
      have single : ∃ c, u = [c] ∧ (c.toUpper = 'N' ∨ c.toUpper = 'n') := by
        rcases letter with same | same
        · obtain ⟨c, one, large⟩ := List.map_eq_singleton_iff.1 same
          exact ⟨c, one, .inl large⟩
        · obtain ⟨c, one, large⟩ := List.map_eq_singleton_iff.1 same
          exact ⟨c, one, .inr large⟩
      obtain ⟨c, rfl, large⟩ := single
      simpa using Text.toUpper_eq_n_iff.1 large
  | number =>
      refine ⟨moved.1, fun bare => moved.2 ?_⟩
      exact mt (Text.mem_map_toUpper (by decide)).2 bare
  | operator o =>
      intro x single e front joins
      obtain ⟨c, rfl, rfl⟩ := List.map_eq_singleton_iff.1 single
      exact moved c rfl e front joins.of_toUpper
  | _ => exact moved

/-- The characters of a quoted identifier's quotes are no letters. -/
theorem isAlpha_of_opens {opening : Char} (lettered : d.Lettered)
    (opens : d.opensQuoted opening = true) :
    opening.isAlpha = false ∧ (Text.closing opening).isAlpha = false := by
  have other : opening.isAlpha = false := by
    apply Bool.eq_false_iff.2
    intro letter
    simp [lettered.opens opening letter] at opens
  refine ⟨other, ?_⟩
  unfold Text.closing
  split
  · decide
  · exact other

theorem map_toUpper_quoted {opening : Char} {body : List Char} (lettered : d.Lettered)
    (opens : d.opensQuoted opening = true) :
    (opening :: (body ++ [Text.closing opening])).map Char.toUpper =
      opening :: (body.map Char.toUpper ++ [Text.closing opening]) := by
  obtain ⟨first, last⟩ := isAlpha_of_opens lettered opens
  simp [Text.toUpper_of_other first, Text.toUpper_of_other last]

theorem map_toUpper_digits {digits : List Char} (all : ∀ c ∈ digits, c.isDigit = true) :
    digits.map Char.toUpper = digits :=
  Text.map_toUpper_of_other fun c mem => isAlpha_of_mark (facts_of_digit (all c mem)).2.2.2

theorem map_toUpper_string (body : List Char) :
    (Literal.quote :: (body ++ [Literal.quote])).map Char.toUpper =
      Literal.quote :: (body.map Char.toUpper ++ [Literal.quote]) := by
  rw [List.map_cons, List.map_append]
  rfl

theorem map_toUpper_comment (body : List Char) :
    ('/' :: '*' :: (body ++ ['*', '/'])).map Char.toUpper =
      '/' :: '*' :: (body.map Char.toUpper ++ ['*', '/']) := by
  rw [List.map_cons, List.map_cons, List.map_append]
  rfl

/-- Upper case makes no pair of characters that are no letters. -/
theorem infix_of_map_toUpper (pair : ['*', '/'] <:+: cs.map Char.toUpper) :
    ['*', '/'] <:+: cs := by
  obtain ⟨two, inside, same⟩ := List.infix_map_iff.1 pair
  obtain ⟨a, one, rfl, star, rest⟩ := List.map_eq_cons_iff.1 same.symm
  obtain ⟨b, rfl, slash⟩ := List.map_eq_singleton_iff.1 rest
  obtain rfl := (Text.toUpper_eq_iff (by decide)).1 star
  obtain rfl := (Text.toUpper_eq_iff (by decide)).1 slash
  exact inside

/-- **A spelling in upper case spells the same rule.** -/
theorem Spells.toUpper (lettered : d.Lettered) (spells : Spells d r u) :
    Spells d r (u.map Char.toUpper) := by
  have alike := alike_toUpper lettered
  cases spells with
  | whitespace some all =>
      refine .whitespace (by simpa using some) (List.forall_mem_map.2 fun c mem => ?_)
      rw [← Blank.of?_eq_some_iff, (alike c).blank, Blank.of?_eq_some_iff]
      exact all c mem
  | string well =>
      rw [map_toUpper_string]
      exact .string well.toUpper.1
  | nationalString letter well =>
      rw [List.map_cons, map_toUpper_string]
      exact .nationalString (Text.toUpper_eq_n_iff.2 letter) well.toUpper.1
  | quoted opens free =>
      rw [map_toUpper_quoted lettered opens]
      exact .quoted opens (mt (Text.mem_map_toUpper (isAlpha_of_opens lettered opens).2).1 free)
  | @word c run begins continues =>
      refine .word ?_ (List.forall_mem_map.2 fun x mem => ?_)
      · cases letter : c.isAlpha with
        | false => rwa [Text.toUpper_of_other letter]
        | true => exact lettered.begins _ (by rwa [Char.isAlpha_toUpper_eq_isAlpha])
      · rw [(alike x).part]
        exact continues x mem
  | whole some digits =>
      rw [map_toUpper_digits digits]
      exact .whole some digits
  | decimal some digits some' digits' =>
      rw [List.map_append, List.map_cons, map_toUpper_digits digits, map_toUpper_digits digits']
      exact .decimal some digits some' digits'
  | lineComment body =>
      refine .lineComment (List.forall_mem_map.2 fun c mem => ?_)
      rw [Ne, Ne, Text.toUpper_eq_iff (by decide), Text.toUpper_eq_iff (by decide)]
      exact body c mem
  | blockComment free =>
      rw [map_toUpper_comment]
      exact .blockComment (mt infix_of_map_toUpper free)
  | operator spelled =>
      rw [spelled.map_toUpper]
      exact .operator spelled

/-- An open construct stays open. -/
theorem Unclosed.toUpper (lettered : d.Lettered) (unclosed : Unclosed d r cs) :
    Unclosed d r (cs.map Char.toUpper) := by
  cases unclosed with
  | string well => exact .string well.toUpper
  | nationalString letter well =>
      exact .nationalString (Text.toUpper_eq_n_iff.2 letter) well.toUpper
  | quoted opens free =>
      obtain ⟨first, last⟩ := isAlpha_of_opens lettered opens
      rw [List.map_cons, Text.toUpper_of_other first]
      exact .quoted opens (mt (Text.mem_map_toUpper last).1 free)
  | blockComment free => exact .blockComment (mt infix_of_map_toUpper free)

theorem map_toUpper_blanks {blank : Blank} (spells : Spells d (.whitespace blank) u) :
    u.map Char.toUpper = u := by
  cases spells with
  | whitespace some all =>
      apply Text.map_toUpper_of_other
      intro c mem
      apply Bool.eq_false_iff.2
      intro letter
      have none := (facts_of_not_mark (notMem_marks_of_isAlpha letter)).1
      simp [Blank.of?_eq_some_iff.2 (all c mem)] at none

/-- **What a spelling says is put in upper case with it.** -/
theorem lexeme_toUpper (spells : Spells d r u) :
    r.lexeme d (u.map Char.toUpper) = (r.lexeme d u).mapChars (List.map Char.toUpper) := by
  cases r with
  | whitespace blank =>
      rw [map_toUpper_blanks spells]
      simp [lexeme, Lexeme.mapChars, TokenValue.mapChars, map_toUpper_blanks spells.unifyBlanks]
  | string national =>
      cases spells with
      | string well =>
          rw [map_toUpper_string]
          simp [lexeme, head, Lexeme.mapChars, TokenValue.mapChars, well.toUpper.2]
      | nationalString letter well =>
          rw [List.map_cons, map_toUpper_string]
          simp [lexeme, head, Lexeme.mapChars, TokenValue.mapChars, well.toUpper.2]
  | quoted opening =>
      simp only [lexeme, Lexeme.mapChars, TokenValue.mapChars, Dialect.classify,
        String.toList_ofList, ← List.map_drop, ← List.map_dropLast, Text.upper_map_toUpper]
  | word =>
      simp only [lexeme, Lexeme.mapChars, TokenValue.mapChars, Dialect.classify,
        String.toList_ofList, Text.upper_map_toUpper]
  | _ => simp [lexeme, Lexeme.mapChars, TokenValue.mapChars, List.map_drop, List.map_dropLast]

end Rule

/-! ## Texts in upper case -/

theorem Cursor.advance_toUpper (k : Cursor) (c : Char) : k.advance c.toUpper = k.advance c := by
  have feed : c.toUpper = '\n' ↔ c = '\n' := Text.toUpper_eq_iff (by decide)
  have back : c.toUpper = '\r' ↔ c = '\r' := Text.toUpper_eq_iff (by decide)
  have tab : c.toUpper = '\t' ↔ c = '\t' := Text.toUpper_eq_iff (by decide)
  have flag : (c.toUpper == '\r') = (c == '\r') := by rw [Bool.eq_iff_iff]; simpa using back
  simp only [advance, visualWidth, feed, back, tab, flag]

theorem Cursor.advanceAll_toUpper (k : Cursor) (cs : List Char) :
    k.advanceAll (cs.map Char.toUpper) = k.advanceAll cs := by
  induction cs generalizing k with
  | nil => rfl
  | cons c cs ih => rw [List.map_cons, advanceAll_cons, advanceAll_cons, advance_toUpper, ih]

/-- A text is rewritten in upper case. -/
def Rewriting.toUpper (lettered : d.Lettered) (text : List Char) : Rewriting d d text where
  chars := List.map Char.toUpper
  lexeme := Lexeme.mapChars (List.map Char.toUpper)
  Beside k k' _ := k' = k
  choice _ := Rule.choice_toUpper lettered _
  append _ _ := List.map_append
  spells _ covers := covers.spells.toUpper lettered
  ends _ covers := covers.ends.toUpper lettered
  meaning _ covers := Rule.lexeme_toUpper covers.spells
  unclosed _ unclosed := unclosed.toUpper lettered
  start := rfl
  position same := congrArg Cursor.position same
  step _ _ same := by rw [same, Cursor.advanceAll_toUpper]
  finish same := by rw [same, Cursor.advanceAll_toUpper]

/-- **In upper case a text has the same tokens, with their values in upper case.** -/
theorem Preset.tokenize_upper (p : Preset) (s : String) :
    let run := (Tokenizer.ofString p.dialect s).tokenize
    let run' := (Tokenizer.ofString p.dialect (Text.upper s)).tokenize
    run'.1 = Tokenizer.mapLexemes (Lexeme.mapChars (List.map Char.toUpper)) run.1 ∧
      run'.2.position = run.2.position :=
  (Rewriting.toUpper p.lettered s.toList).tokenize_rewritten String.toList_ofList

/-- **Letter case does not matter to a text.**  Two texts that differ in nothing else have the same
tokens up to the letter case of their values, at the same positions, and the same error if there is
one. -/
theorem Preset.tokenize_letterCase (p : Preset) (s s' : String)
    (same : Text.sameUpToCase s s' = true) :
    let run := (Tokenizer.ofString p.dialect s).tokenize
    let run' := (Tokenizer.ofString p.dialect s').tokenize
    Tokenizer.mapLexemes (Lexeme.mapChars (List.map Char.toUpper)) run'.1 =
        Tokenizer.mapLexemes (Lexeme.mapChars (List.map Char.toUpper)) run.1 ∧
      run'.2.position = run.2.position := by
  intro run run'
  have upper : Text.upper s = Text.upper s' := by simpa [Text.sameUpToCase] using same
  obtain ⟨first, stop⟩ := p.tokenize_upper s
  obtain ⟨second, stop'⟩ := p.tokenize_upper s'
  rw [← upper] at second stop'
  exact ⟨second.symm.trans first, stop'.symm.trans stop⟩

/-- The letter of a national string, a keyword in quotes and a letter behind an escape. -/
theorem tokenize_letterCase_national :
    let s := "n'It\\n' \"Select\" x"
    let s' := "N'iT\\N' \"sELECT\" X"
    let run := (Tokenizer.ofString Preset.mysql.dialect s).tokenize
    let run' := (Tokenizer.ofString Preset.mysql.dialect s').tokenize
    Text.sameUpToCase s s' = true ∧ run.1 ≠ run'.1 ∧
      Tokenizer.mapLexemes (Lexeme.mapChars (List.map Char.toUpper)) run'.1 =
        Tokenizer.mapLexemes (Lexeme.mapChars (List.map Char.toUpper)) run.1 ∧
      run'.2.position = run.2.position := by
  intro s s' run run'
  have same : Text.sameUpToCase s s' = true := by decide +kernel
  have differ : run.1 ≠ run'.1 := by decide +kernel
  exact ⟨same, differ, Preset.tokenize_letterCase .mysql s s' same⟩

end SqlLex
