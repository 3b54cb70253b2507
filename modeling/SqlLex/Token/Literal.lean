/-
# SqlLex.Token.Literal -- the body of a string literal

Between its quotes a string literal spells its text.  A quote is spelled by two
quotes; where the dialect has escapes, a backslash in front of a quote or of a
backslash stands for that character alone, and any other backslash stands for
itself.  `decode` reads a body and `encode` writes one.

Writing uses the escape character where there is one and doubles the quote where
there is none, so what is written is read back (`decode_encode_plain`,
`decode_encode_escaped`).
-/

namespace SqlLex.Literal

set_option autoImplicit false

/-- The quote around a string literal. -/
def quote : Char := '\x27'

/-- The escape character of the dialects that have one. -/
def escapeChar : Char := '\\'

/-- The text that a body spells.  A body holds a quote only as one of a pair or behind an escape. -/
def decode (escapes : Bool) : List Char → List Char
  | [] => []
  | [c] => [c]
  | c :: d :: rest =>
      if c = quote then quote :: decode escapes rest
      else if escapes = true ∧ c = escapeChar then
        if d = quote ∨ d = escapeChar then d :: decode escapes rest
        else c :: d :: decode escapes rest
      else c :: decode escapes (d :: rest)

/-- The spelling of one character in a body. -/
def encodeChar (escape : Option Char) (c : Char) : List Char :=
  match escape with
  | some e => if c = e ∨ c = quote then [e, c] else [c]
  | none => if c = quote then [quote, quote] else [c]

/-- The body that spells a text. -/
def encode (escape : Option Char) (text : List Char) : List Char :=
  text.flatMap (encodeChar escape)

theorem decode_cons_plain (c : Char) (rest : List Char) (plain : c ≠ quote) :
    decode false (c :: rest) = c :: decode false rest := by
  cases rest <;> simp [decode, plain]

theorem decode_cons_escaped (c : Char) (rest : List Char) (plain : c ≠ quote)
    (noEscape : c ≠ escapeChar) : decode true (c :: rest) = c :: decode true rest := by
  cases rest <;> simp [decode, plain, noEscape]

/-- Without escapes, a written body is read back. -/
theorem decode_encode_plain (text : List Char) : decode false (encode none text) = text := by
  induction text with
  | nil => rfl
  | cons c text ih =>
    by_cases isQuote : c = quote
    · have : encode none (c :: text) = quote :: quote :: encode none text := by
        simp [encode, encodeChar, isQuote]
      rw [this, decode, if_pos rfl, ih, isQuote]
    · have : encode none (c :: text) = c :: encode none text := by
        simp [encode, encodeChar, isQuote]
      rw [this, decode_cons_plain c _ isQuote, ih]

/-- With escapes, a written body is read back. -/
theorem decode_encode_escaped (text : List Char) :
    decode true (encode (some escapeChar) text) = text := by
  induction text with
  | nil => rfl
  | cons c text ih =>
    by_cases special : c = escapeChar ∨ c = quote
    · have : encode (some escapeChar) (c :: text)
          = escapeChar :: c :: encode (some escapeChar) text := by
        simp [encode, encodeChar, special]
      rw [this, decode]
      simp [show escapeChar ≠ quote by decide, special.symm, ih]
    · have : encode (some escapeChar) (c :: text) = c :: encode (some escapeChar) text := by
        simp [encode, encodeChar, special]
      rw [this, decode_cons_escaped c _ (fun h => special (.inr h)) (fun h => special (.inl h)), ih]

end SqlLex.Literal
