/-
# SqlLex.Proofs.Respelling -- the text of a lexeme, compared with the slice it came from

`Rule.respell` is the text of what a slice says.  It is the slice itself except
that whitespace has its line breaks unified, a national string begins with a
capital letter, and the body of a string is written afresh.  Comments apart, it
spells a lexeme of the same rule (`Spells.respell`) that says the same
(`lexeme_respell`), and it begins with the same character up to the changes just
named (`Respelled`).
-/
import SqlLex.Proofs.Grammar

namespace SqlLex

set_option autoImplicit false

/-! ## Bodies written afresh -/

namespace Literal

theorem Body.encode_plain (text : List Char) : Body false (encode none text) := by
  induction text with
  | nil => exact .nil
  | cons c text ih =>
      by_cases isQuote : c = quote
      · simpa [encode, encodeChar, isQuote] using ih.doubled
      · simpa [encode, encodeChar, isQuote] using ih.plain isQuote (by simp)

theorem Body.encode_escaped (text : List Char) : Body true (encode (some escapeChar) text) := by
  induction text with
  | nil => exact .nil
  | cons c text ih =>
      by_cases special : c = escapeChar ∨ c = quote
      · simpa [encode, encodeChar, special] using ih.escaped (c := c) rfl
      · have ordinary := not_or.1 special
        simpa [encode, encodeChar, special] using ih.plain ordinary.2 fun _ => ordinary.1

theorem Body.encode (d : Dialect) (text : List Char) :
    Body d.backslashEscapes (Literal.encode d.escape text) := by
  unfold Dialect.escape
  cases d.backslashEscapes with
  | false => exact encode_plain text
  | true => exact encode_escaped text

theorem decode_encode (d : Dialect) (text : List Char) :
    decode d.backslashEscapes (encode d.escape text) = text := by
  unfold Dialect.escape
  cases d.backslashEscapes with
  | false => exact decode_encode_plain text
  | true => exact decode_encode_escaped text

/-- Without escapes there is one way to write a body. -/
theorem encode_decode_plain {body : List Char} (well : Body false body) :
    encode none (decode false body) = body := by
  induction well with
  | nil => rfl
  | @plain c body noQuote _ _ ih =>
      rw [decode_cons_plain c body noQuote]
      simpa [encode, encodeChar, noQuote] using ih
  | @doubled body _ ih =>
      rw [decode, if_pos rfl]
      simpa [encode, encodeChar] using ih
  | escaped on => cases on

end Literal

/-! ## Unified line breaks -/

namespace Blank

theorem head?_unifyBreaks (cs : List Char) :
    (unifyBreaks cs).head? = cs.head?.map fun c => if c = '\r' then '\n' else c := by
  fun_induction unifyBreaks cs with
  | case4 c rest _ other => simp [show c ≠ '\r' from other]
  | _ => rfl

/-- Unifying adds no character but the line feed of a return. -/
theorem mem_unifyBreaks {c : Char} {cs : List Char} (h : c ∈ unifyBreaks cs) :
    c ∈ cs ∨ c = '\n' ∧ '\r' ∈ cs := by
  fun_induction unifyBreaks cs with
  | case1 => simp at h
  | case4 x rest _ _ ih =>
      rcases List.mem_cons.1 h with rfl | later
      · exact .inl List.mem_cons_self
      · rcases ih later with mem | ⟨feed, mem⟩
        · exact .inl (List.mem_cons_of_mem _ mem)
        · exact .inr ⟨feed, List.mem_cons_of_mem _ mem⟩
  | _ => grind

theorem return_notMem_unifyBreaks (cs : List Char) : '\r' ∉ unifyBreaks cs := by
  fun_induction unifyBreaks cs <;> simp_all [eq_comm]

theorem unifyBreaks_of_notMem {cs : List Char} (h : '\r' ∉ cs) : unifyBreaks cs = cs := by
  fun_induction unifyBreaks cs <;> simp_all

theorem unifyBreaks_unifyBreaks (cs : List Char) : unifyBreaks (unifyBreaks cs) = unifyBreaks cs :=
  unifyBreaks_of_notMem (return_notMem_unifyBreaks cs)

end Blank

namespace Rule

variable {d : Dialect} {r : Rule} {u : List Char}

/-! ## The text of a slice -/

/-- The text of what a slice says. -/
def respell (d : Dialect) (r : Rule) (u : List Char) : List Char := (r.lexeme d u).text.toList

theorem respell_whitespace (blank : Blank) :
    respell d (.whitespace blank) u = Blank.unifyBreaks u := by
  simp [respell, lexeme, Lexeme.text]

theorem respell_string (body : List Char) :
    respell d (.string false) (Literal.quote :: (body ++ [Literal.quote])) =
      Literal.quote ::
        (Literal.encode d.escape (Literal.decode d.backslashEscapes body) ++ [Literal.quote]) := by
  simp [respell, lexeme, Lexeme.text, Lexeme.enclose, head]

theorem respell_nationalString (n : Char) (body : List Char) :
    respell d (.string true) (n :: Literal.quote :: (body ++ [Literal.quote])) =
      'N' :: Literal.quote ::
        (Literal.encode d.escape (Literal.decode d.backslashEscapes body) ++ [Literal.quote]) := by
  simp [respell, lexeme, Lexeme.text, Lexeme.enclose, head]

theorem respell_quoted (opening : Char) (body : List Char) :
    respell d (.quoted opening) (opening :: (body ++ [Text.closing opening])) =
      opening :: (body ++ [Text.closing opening]) := by
  simp [respell, lexeme, Lexeme.text, Word.text, Dialect.classify]

theorem respell_word : respell d .word u = u := by
  simp [respell, lexeme, Lexeme.text, Word.text, Dialect.classify]

theorem respell_number : respell d .number u = u := by
  simp [respell, lexeme, Lexeme.text]

theorem respell_operator {o : Operator} (known : o.kind ≠ .string ∧ o.kind ≠ .nationalString) :
    respell d (.operator o) u = u := by
  rcases o with ⟨kind, paired⟩
  cases kind <;> simp_all [respell, lexeme, Lexeme.text]

/-- The slices whose text is the slice itself. -/
theorem respell_of_spells (h : Spells d r u) (plain : (r.lexeme d u).kind ≠ .comment) :
    respell d r u = u ∨ (∃ blank, r = .whitespace blank) ∨ ∃ national, r = .string national := by
  cases h with
  | whitespace => exact .inr (.inl ⟨_, rfl⟩)
  | string => exact .inr (.inr ⟨_, rfl⟩)
  | nationalString => exact .inr (.inr ⟨_, rfl⟩)
  | quoted => exact .inl (respell_quoted _ _)
  | word => exact .inl respell_word
  | whole => exact .inl respell_number
  | decimal => exact .inl respell_number
  | lineComment => exact absurd rfl plain
  | blockComment => exact absurd rfl plain
  | operator spelled =>
      exact .inl (respell_operator (spelled.of_table
        (P := fun kind _ => kind ≠ .string ∧ kind ≠ .nationalString) (by decide)))

/-- Whitespace with unified line breaks is whitespace of the same category. -/
theorem Spells.unifyBlanks {blank : Blank} (h : Spells d (.whitespace blank) u) :
    Spells d (.whitespace blank) (Blank.unifyBreaks u) := by
  cases h with
  | whitespace some all =>
      constructor
      · intro none
        have front := Blank.head?_unifyBreaks u
        rw [none] at front
        cases u <;> simp_all
      · intro c mem
        rcases Blank.mem_unifyBreaks mem with here | ⟨rfl, back⟩
        · exact all c here
        · obtain rfl := Blank.eq_of_mem_chars (b := .lineBreak) (by decide) (all '\r' back)
          decide

/-- **The text of a lexeme spells it.** -/
theorem Spells.respell (h : Spells d r u) (plain : (r.lexeme d u).kind ≠ .comment) :
    Spells d r (Rule.respell d r u) := by
  rcases respell_of_spells h plain with same | ⟨blank, rfl⟩ | ⟨national, rfl⟩
  · rw [same]
    exact h
  · rw [respell_whitespace]
    exact h.unifyBlanks
  · cases h with
    | string => rw [respell_string]; exact .string (.encode d _)
    | nationalString => rw [respell_nationalString]; exact .nationalString (.inl rfl) (.encode d _)

/-- **The text of a lexeme says the same.** -/
theorem lexeme_respell (h : Spells d r u) (plain : (r.lexeme d u).kind ≠ .comment) :
    r.lexeme d (respell d r u) = r.lexeme d u := by
  rcases respell_of_spells h plain with same | ⟨blank, rfl⟩ | ⟨national, rfl⟩
  · rw [same]
  · rw [respell_whitespace]
    simp [lexeme, Blank.unifyBreaks_unifyBreaks]
  · cases h with
    | string =>
        rw [respell_string]
        simp [lexeme, head, Literal.decode_encode]
    | nationalString =>
        rw [respell_nationalString]
        simp [lexeme, head, Literal.decode_encode]

/-- How the first character of a slice may change in the text. -/
def Respelled (c c' : Char) : Prop := c' = c ∨ (c = '\r' ∧ c' = '\n') ∨ (c = 'n' ∧ c' = 'N')

theorem respelled_of_spells (h : Spells d r u) (plain : (r.lexeme d u).kind ≠ .comment) :
    ∃ c ∈ u.head?, ∃ c' ∈ (Rule.respell d r u).head?, Respelled c c' := by
  obtain ⟨c, rest, rfl⟩ := List.exists_cons_of_ne_nil h.ne_nil
  refine ⟨c, rfl, ?_⟩
  rcases respell_of_spells h plain with same | ⟨blank, rfl⟩ | ⟨national, rfl⟩
  · rw [same]
    exact ⟨c, rfl, .inl rfl⟩
  · rw [respell_whitespace]
    refine ⟨if c = '\r' then '\n' else c, by rw [Blank.head?_unifyBreaks]; rfl, ?_⟩
    by_cases back : c = '\r'
    · exact .inr (.inl ⟨back, if_pos back⟩)
    · exact .inl (if_neg back)
  · cases h with
    | string =>
        rw [respell_string]
        exact ⟨_, rfl, .inl rfl⟩
    | nationalString letter =>
        rw [respell_nationalString]
        refine ⟨_, rfl, ?_⟩
        rcases letter with rfl | rfl
        · exact .inl rfl
        · exact .inr (.inr ⟨rfl, rfl⟩)

end Rule

end SqlLex
