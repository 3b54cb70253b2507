/-
# SqlLex.Json.Text -- strings of JSON documents

A string stands between double quotes.  Its quote and the backslash are escaped,
and so are the characters below U+0020; all else may stand for itself.  An escape
`\u` names a UTF-16 unit: two units that form a surrogate pair make one
character, and half of a pair makes none, so that the string has no text.

`spell` writes the shortest escape of each character that needs one, and `read`
reads what it wrote.
-/

namespace SqlLex.Json.Text

set_option autoImplicit false

/-- What a string is made of: characters and halves of surrogate pairs. -/
inductive Piece where
  | char (c : Char)
  | half (code : Nat)
deriving DecidableEq, Repr

/-- The piece that a UTF-16 unit is. -/
def Piece.ofUnit (n : Nat) : Piece :=
  if 0xD800 ≤ n ∧ n ≤ 0xDFFF then .half n else .char (Char.ofNat n)

/-- The text of the pieces, if every half is the first or second of a pair. -/
def join? : List Piece → Option (List Char)
  | [] => some []
  | .char c :: rest => (join? rest).map (c :: ·)
  | .half high :: .half low :: rest =>
      if high < 0xDC00 ∧ 0xDC00 ≤ low then
        (join? rest).map (Char.ofNat (0x10000 + (high - 0xD800) * 0x400 + (low - 0xDC00)) :: ·)
      else none
  | .half _ :: _ => none

/-- The value of a hexadecimal digit of either case. -/
def hexValue? (c : Char) : Option Nat :=
  if c.isDigit then some (c.toNat - '0'.toNat)
  else if 'a' ≤ c ∧ c ≤ 'f' then some (c.toNat - 'a'.toNat + 10)
  else if 'A' ≤ c ∧ c ≤ 'F' then some (c.toNat - 'A'.toNat + 10)
  else none

/-- The number that hexadecimal digits spell. -/
def hexNumber? (digits : List Char) : Option Nat :=
  digits.foldlM (fun n c => (hexValue? c).map (16 * n + ·)) 0

/-- The escapes of two characters: the letter behind the backslash and what it stands for. -/
def escapes : List (Char × Char) :=
  [('"', '"'), ('\\', '\\'), ('/', '/'), ('b', '\x08'), ('f', '\x0c'), ('n', '\n'), ('r', '\r'),
   ('t', '\t')]

/-- The pieces up to the closing quote, and what stands behind it. -/
def read? : List Char → Option (List Piece × List Char)
  | [] => none
  | '"' :: rest => some ([], rest)
  | '\\' :: 'u' :: a :: b :: c :: d :: rest => do
      let unit ← hexNumber? [a, b, c, d]
      let (pieces, after) ← read? rest
      some (Piece.ofUnit unit :: pieces, after)
  | '\\' :: e :: rest => do
      let c ← escapes.lookup e
      let (pieces, after) ← read? rest
      some (.char c :: pieces, after)
  | c :: rest =>
      if c.toNat < 0x20 ∨ c = '\\' then none
      else do
        let (pieces, after) ← read? rest
        some (.char c :: pieces, after)

/-- Reading a string leaves less. -/
theorem length_of_read? {cs after : List Char} {pieces : List Piece}
    (h : read? cs = some (pieces, after)) : after.length < cs.length := by
  fun_induction read? cs generalizing pieces after with
  | case1 => simp at h
  | case2 rest => simp_all
  | case3 a b c d rest ih =>
    simp only [Option.bind_eq_bind, Option.bind_eq_some_iff, Option.some.injEq, Prod.mk.injEq,
      Prod.exists] at h
    obtain ⟨-, -, p, x, more, -, rfl⟩ := h
    have := ih more
    simp only [List.length_cons]
    omega
  | case4 e rest differs ih =>
    simp only [Option.bind_eq_bind, Option.bind_eq_some_iff, Option.some.injEq, Prod.mk.injEq,
      Prod.exists] at h
    obtain ⟨-, -, p, x, more, -, rfl⟩ := h
    have := ih more
    simp only [List.length_cons]
    omega
  | case5 => simp at h
  | case6 c rest h1 h2 h3 h4 ih =>
    simp only [Option.bind_eq_bind, Option.bind_eq_some_iff, Option.some.injEq, Prod.mk.injEq,
      Prod.exists] at h
    obtain ⟨p, x, more, -, rfl⟩ := h
    have := ih more
    simp only [List.length_cons]
    omega

/-- The spelling of a character in a string. -/
def spellChar (c : Char) : List Char :=
  if c = '"' then ['\\', '"']
  else if c = '\\' then ['\\', '\\']
  else if c = '\x08' then ['\\', 'b']
  else if c = '\x0c' then ['\\', 'f']
  else if c = '\n' then ['\\', 'n']
  else if c = '\r' then ['\\', 'r']
  else if c = '\t' then ['\\', 't']
  else if c.toNat < 0x20 then
    ['\\', 'u', '0', '0', Nat.digitChar (c.toNat / 16), Nat.digitChar (c.toNat % 16)]
  else [c]

/-- A text between its quotes. -/
def spell (text : List Char) : List Char :=
  '"' :: (text.flatMap spellChar ++ ['"'])

end SqlLex.Json.Text
