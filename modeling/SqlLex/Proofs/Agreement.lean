/-
# SqlLex.Proofs.Agreement -- a dialect is what it answers

Two dialects that give the same answers about the characters and words of a text read
it alike, whatever they would say of other texts (`Dialect.Agree`).  They need not
agree on escapes if no backslash occurs; then only the escape character noted in the
strings may differ (`Lexeme.withEscape`).

So the presets can be compared by the characters on which they part (`tokenize_agree`):
`@` and `#` and what lies outside ASCII for the generic dialect and PostgreSQL, `#`,
`$`, the backquote and the backslash for the generic dialect and MySQL.
-/
import SqlLex.Dialect.Preset
import SqlLex.Proofs.LongestMatch
import SqlLex.Proofs.Orderly
import SqlLex.Proofs.Rewriting

namespace SqlLex

set_option autoImplicit false

variable {d d' : Dialect} {r : Rule} {cs u w text : List Char}

/-- The dialects answer alike about the characters and words of the text, and a backslash means the
same to them or does not occur. -/
structure Dialect.Agree (d d' : Dialect) (text : List Char) : Prop where
  begins : ∀ c ∈ text, d'.beginsWord c = d.beginsWord c
  continues : ∀ c ∈ text, d'.continuesWord c = d.continuesWord c
  opens : ∀ c ∈ text, d'.opensQuoted c = d.opensQuoted c
  reserved : ∀ word, word <:+: text →
    d'.reserved (Text.upper (.ofList word)) = d.reserved (Text.upper (.ofList word))
  escapes : d'.backslashEscapes = d.backslashEscapes ∨ Literal.escapeChar ∉ text

/-- The lexeme with another escape character noted, if it is a string. -/
def Lexeme.withEscape (escape : Option Char) (x : Lexeme) : Lexeme :=
  match x.kind with
  | .string | .nationalString => { x with escape := escape }
  | _ => x

theorem Dialect.Agree.mono (agree : d.Agree d' text) (inside : cs <:+: text) : d.Agree d' cs where
  begins c mem := agree.begins c (inside.mem mem)
  continues c mem := agree.continues c (inside.mem mem)
  opens c mem := agree.opens c (inside.mem mem)
  reserved word part := agree.reserved word (part.trans inside)
  escapes := agree.escapes.imp_right fun free mem => free (inside.mem mem)

/-! ## Bodies of strings -/

namespace Literal

variable {escapes escapes' : Bool} {body : List Char}

/-- Without a backslash in it, a body is one with escapes and without. -/
theorem Body.agree (well : Body escapes body)
    (same : escapes' = escapes ∨ escapeChar ∉ body) :
    Body escapes' body ∧ decode escapes' body = decode escapes body := by
  rcases same with rfl | free
  · exact ⟨well, rfl⟩
  induction well with
  | nil => exact ⟨.nil, rfl⟩
  | @plain c body noQuote ordinary well ih =>
      obtain ⟨apart, free⟩ : escapeChar ≠ c ∧ escapeChar ∉ body := by simpa using free
      have ordinary' : escapes' = true → c ≠ escapeChar := fun _ => apart.symm
      rw [decode_plain body noQuote ordinary', decode_plain body noQuote ordinary, (ih free).2]
      exact ⟨.plain noQuote ordinary' (ih free).1, rfl⟩
  | @doubled body well ih =>
      have free : escapeChar ∉ body := fun mem => free (by simp [mem])
      rw [decode_doubled, decode_doubled, (ih free).2]
      exact ⟨.doubled (ih free).1, rfl⟩
  | escaped => exact absurd List.mem_cons_self free

theorem Unclosed.agree (unclosed : Unclosed escapes body)
    (same : escapes' = escapes ∨ escapeChar ∉ body) : Unclosed escapes' body := by
  cases unclosed with
  | body well => exact .body (well.agree same).1
  | escape on well =>
      obtain rfl := same.resolve_right (by simp)
      exact .escape on well

end Literal

/-! ## Pieces, one by one -/

namespace Rule

theorem choice_agree (agree : d.Agree d' cs) : choice d' cs = choice d cs := by
  cases cs with
  | nil => rfl
  | cons c cs =>
      simp only [choice, charChoice, wordChoice, agree.begins c List.mem_cons_self,
        agree.opens c List.mem_cons_self]

theorem Spells.agree (spells : Spells d r u) (agree : d.Agree d' u) : Spells d' r u := by
  cases spells with
  | whitespace some all => exact .whitespace some all
  | string well =>
      exact .string (well.agree (agree.mono ⟨[_], [_], rfl⟩).escapes).1
  | nationalString letter well =>
      exact .nationalString letter (well.agree (agree.mono ⟨[_, _], [_], rfl⟩).escapes).1
  | quoted opens free =>
      exact .quoted ((agree.opens _ List.mem_cons_self).trans opens) free
  | word begins continues =>
      refine .word ((agree.begins _ List.mem_cons_self).trans begins) fun x mem => ?_
      exact (agree.continues x (List.mem_cons_of_mem _ mem)).trans (continues x mem)
  | whole some digits => exact .whole some digits
  | decimal some digits some' digits' => exact .decimal some digits some' digits'
  | lineComment body => exact .lineComment body
  | blockComment free => exact .blockComment free
  | operator spelled => exact .operator spelled

theorem Ends.agree (ends : Ends d r u w) (agree : d.Agree d' w) : Ends d' r u w := by
  cases r with
  | word =>
      refine ⟨fun c front => ?_, ends.2⟩
      exact (agree.continues c (List.mem_of_mem_head? front)).trans (ends.1 c front)
  | _ => exact ends

theorem Unclosed.agree (unclosed : Unclosed d r cs) (agree : d.Agree d' cs) :
    Unclosed d' r cs := by
  cases unclosed with
  | string well => exact .string (well.agree (agree.mono (List.suffix_cons _ _).isInfix).escapes)
  | @nationalString n body letter well =>
      have inside := (List.suffix_append [n, Literal.quote] body).isInfix
      exact .nationalString letter (well.agree (agree.mono inside).escapes)
  | quoted opens free => exact .quoted ((agree.opens _ List.mem_cons_self).trans opens) free
  | blockComment free => exact .blockComment free

/-- **What a spelling says differs in the escape character of strings only.** -/
theorem lexeme_agree (spells : Spells d r u) (agree : d.Agree d' u) :
    r.lexeme d' u = (r.lexeme d u).withEscape d'.escape := by
  cases r with
  | string national =>
      cases spells with
      | string well =>
          have body := well.agree (agree.mono ⟨[_], [_], rfl⟩).escapes
          simp [lexeme, head, Lexeme.withEscape, body.2]
      | nationalString letter well =>
          have body := well.agree (agree.mono ⟨[_, _], [_], rfl⟩).escapes
          simp [lexeme, head, Lexeme.withEscape, body.2]
  | quoted opening =>
      have inside : (u.drop 1).dropLast <:+: u :=
        (List.dropLast_prefix _).isInfix.trans (List.drop_suffix 1 u).isInfix
      simp only [lexeme, Lexeme.withEscape, Dialect.classify, agree.reserved _ inside]
  | word =>
      simp only [lexeme, Lexeme.withEscape, Dialect.classify, agree.reserved _ List.infix_rfl]
  | operator o =>
      have own := Operator.symbol_of_spells spells
      obtain ⟨kind, paired⟩ := o
      cases kind <;> first | rfl | exact absurd rfl own
  | _ => rfl

end Rule

/-! ## Runs -/

/-- A text is read by a dialect that agrees on it as it stands. -/
def Rewriting.agree (agree : d.Agree d' text) : Rewriting d d' text where
  chars := id
  lexeme := Lexeme.withEscape d'.escape
  Beside k k' _ := k' = k
  choice inside := Rule.choice_agree (agree.mono inside.isInfix)
  append _ _ := rfl
  spells inside covers :=
    covers.spells.agree (agree.mono ((List.infix_append' [] _ _).trans inside.isInfix))
  ends inside covers :=
    covers.ends.agree (agree.mono ((List.suffix_append _ _).trans inside).isInfix)
  meaning inside covers :=
    Rule.lexeme_agree covers.spells (agree.mono ((List.infix_append' [] _ _).trans inside.isInfix))
  unclosed inside unclosed := unclosed.agree (agree.mono inside.isInfix)
  start := rfl
  position same := congrArg Cursor.position same
  step _ _ same := by rw [same, id]
  finish same := by rw [same, id]

/-- A run over a text that the dialects agree on differs in the escape characters noted. -/
theorem Dialect.Agree.tokenize {s : String} (agree : d.Agree d' s.toList) :
    let run := (Tokenizer.ofString d s).tokenize
    let run' := (Tokenizer.ofString d' s).tokenize
    run'.1 = Tokenizer.mapLexemes (Lexeme.withEscape d'.escape) run.1 ∧
      run'.2.position = run.2.position :=
  (Rewriting.agree agree).tokenize_rewritten rfl

theorem Dialect.Agree.refl (d : Dialect) (text : List Char) : d.Agree d text :=
  ⟨fun _ _ => rfl, fun _ _ => rfl, fun _ _ => rfl, fun _ _ => rfl, .inl rfl⟩

/-- Where the dialects agree on escapes nothing differs. -/
theorem Dialect.Agree.tokenize_eq {s : String} (agree : d.Agree d' s.toList)
    (same : d'.backslashEscapes = d.backslashEscapes) :
    (Tokenizer.ofString d' s).tokenize.1 = (Tokenizer.ofString d s).tokenize.1 := by
  -- the run of `d` notes its own escape character already
  have own := (Dialect.Agree.refl d s.toList).tokenize.1
  have escape : d'.escape = d.escape := by rw [Dialect.escape, Dialect.escape, same]
  rw [agree.tokenize.1, escape]
  exact own.symm

/-! ## The presets -/

theorem Preset.agree_postgresql
    (plain : ∀ c ∈ text, c.toNat < 128 ∧ c ≠ '@' ∧ c ≠ '#') :
    Preset.generic.dialect.Agree Preset.postgresql.dialect text where
  begins c mem := by
    obtain ⟨ascii, noAt, noHash⟩ := plain c mem
    simp [dialect, Dialect.generic, Dialect.postgresql, Text.isAlphabetic_ascii ascii,
      beq_eq_false_iff_ne.2 noAt, beq_eq_false_iff_ne.2 noHash]
  continues c mem := by
    obtain ⟨ascii, noAt, noHash⟩ := plain c mem
    simp [dialect, Dialect.generic, Dialect.postgresql, Text.isAlphabetic_ascii ascii,
      Text.isNumeric_ascii ascii, Char.isAlphanum, beq_eq_false_iff_ne.2 noAt,
      beq_eq_false_iff_ne.2 noHash]
  opens _ _ := rfl
  reserved _ _ := rfl
  escapes := .inl rfl

theorem Preset.agree_mysql
    (plain : ∀ c ∈ text, c ≠ '#' ∧ c ≠ '$' ∧ c ≠ '\x60' ∧ c ≠ '\\') :
    Preset.generic.dialect.Agree Preset.mysql.dialect text where
  begins c mem := by
    obtain ⟨noHash, noDollar, -, -⟩ := plain c mem
    simp [dialect, Dialect.generic, Dialect.mysql, beq_eq_false_iff_ne.2 noHash,
      beq_eq_false_iff_ne.2 noDollar]
  continues c mem := by
    obtain ⟨noHash, noDollar, -, -⟩ := plain c mem
    simp [dialect, Dialect.generic, Dialect.mysql, beq_eq_false_iff_ne.2 noHash,
      beq_eq_false_iff_ne.2 noDollar]
  opens c mem := by
    obtain ⟨-, -, noBackquote, -⟩ := plain c mem
    simp [dialect, Dialect.generic, Dialect.mysql, noBackquote]
  reserved _ _ := rfl
  escapes := .inr fun mem => (plain _ mem).2.2.2 rfl

/-- **A dialect is what it answers about a text.**  Two dialects that agree on a text read it alike
up to the escape characters noted in strings, and exactly alike if they agree on escapes.  So do the
generic dialect and PostgreSQL on ASCII without at and number signs, and, up to the escape
characters, the generic dialect and MySQL on texts without number and dollar signs, backquotes and
backslashes. -/
theorem tokenize_agree :
    (∀ (d d' : Dialect) (s : String), d.Agree d' s.toList →
      let run := (Tokenizer.ofString d s).tokenize
      let run' := (Tokenizer.ofString d' s).tokenize
      run'.1 = Tokenizer.mapLexemes (Lexeme.withEscape d'.escape) run.1 ∧
        run'.2.position = run.2.position ∧
        (d'.backslashEscapes = d.backslashEscapes → run'.1 = run.1)) ∧
    (∀ s : String, (∀ c ∈ s.toList, c.toNat < 128 ∧ c ≠ '@' ∧ c ≠ '#') →
      let run := (Tokenizer.ofString Preset.generic.dialect s).tokenize
      let run' := (Tokenizer.ofString Preset.postgresql.dialect s).tokenize
      run'.1 = run.1 ∧ run'.2.position = run.2.position) ∧
    (∀ s : String, (∀ c ∈ s.toList, c ≠ '#' ∧ c ≠ '$' ∧ c ≠ '\x60' ∧ c ≠ '\\') →
      let run := (Tokenizer.ofString Preset.generic.dialect s).tokenize
      let run' := (Tokenizer.ofString Preset.mysql.dialect s).tokenize
      run'.1 = Tokenizer.mapLexemes (Lexeme.withEscape (some '\\')) run.1 ∧
        run'.2.position = run.2.position) := by
  refine ⟨?_, ?_, ?_⟩
  · intro d d' s agree
    exact ⟨agree.tokenize.1, agree.tokenize.2, agree.tokenize_eq⟩
  · intro s plain
    have agree := Preset.agree_postgresql plain
    exact ⟨agree.tokenize_eq rfl, agree.tokenize.2⟩
  · intro s plain
    exact (Preset.agree_mysql plain).tokenize

/-- A text that all presets read alike, but for the escape character that MySQL notes. -/
theorem tokenize_agree_common :
    let s := "SELECT 'it''s', N'b' FROM \"t\" -- x"
    let generic := (Tokenizer.ofString Preset.generic.dialect s).tokenize.1
    let mysql := (Tokenizer.ofString Preset.mysql.dialect s).tokenize.1
    (Tokenizer.ofString Preset.postgresql.dialect s).tokenize.1 = generic ∧ mysql ≠ generic ∧
      mysql = Tokenizer.mapLexemes (Lexeme.withEscape (some '\\')) generic := by
  intro s generic mysql
  obtain ⟨-, postgresql, escaped⟩ := tokenize_agree
  have plain : ∀ c ∈ s.toList, c.toNat < 128 ∧ c ≠ '@' ∧ c ≠ '#' :=
    forall_mem_of_all (by decide +kernel)
  have free : ∀ c ∈ s.toList, c ≠ '#' ∧ c ≠ '$' ∧ c ≠ '\x60' ∧ c ≠ '\\' :=
    forall_mem_of_all (by decide +kernel)
  have differ : mysql ≠ generic := by decide +kernel
  exact ⟨(postgresql s plain).1, differ, (escaped s free).1⟩

end SqlLex
