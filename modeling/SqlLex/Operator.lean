/-
# SqlLex.Operator -- punctuation and operators

An operator is spelled by one character or by two, and the longer spelling wins:
`longest?` looks at a character and the one behind it, if there is one, and
prefers the pair (`longest?_pair`).
-/
import SqlLex.Token.Kind

namespace SqlLex

set_option autoImplicit false

/-- A recognised operator: its kind, and whether its spelling is a pair of characters. -/
structure Operator where
  kind : Kind
  paired : Bool
deriving DecidableEq, Repr

namespace Operator

/-- The operators spelled by two characters. -/
def pairs : List ((Char × Char) × Kind) :=
  [(('<', '='), .lessEqual), (('<', '>'), .notEqual), (('>', '='), .greaterEqual),
   (('!', '='), .notEqual), ((':', ':'), .doubleColon)]

/-- The operators spelled by one character. -/
def singles : List (Char × Kind) :=
  [('<', .less), ('>', .greater), ('=', .equal), ('+', .plus), ('-', .minus), ('*', .star),
   ('/', .slash), ('%', .percent), (':', .colon), (';', .semicolon), (',', .comma),
   ('.', .period), ('\\', .backslash), ('(', .leftParen), (')', .rightParen),
   ('[', .leftBracket), (']', .rightBracket), ('\x7b', .leftBrace), ('\x7d', .rightBrace),
   ('&', .ampersand)]

/-- The operator spelled by the pair. -/
def ofPair? (first second : Char) : Option Operator :=
  (pairs.lookup (first, second)).map (⟨·, true⟩)

/-- The operator spelled by the character alone. -/
def ofChar? (first : Char) : Option Operator :=
  (singles.lookup first).map (⟨·, false⟩)

/-- The longest operator at a character, given the one behind it. -/
def longest? (first : Char) (second : Option Char) : Option Operator :=
  (second.bind (ofPair? first)).or (ofChar? first)

/-- The number of characters in the spelling. -/
def width (o : Operator) : Nat := if o.paired then 2 else 1

theorem longest?_pair {first second : Char} {o : Operator} (h : ofPair? first second = some o) :
    longest? first (some second) = some o := by
  simp [longest?, h]

theorem width_pos (o : Operator) : 0 < o.width := by
  unfold width
  split <;> decide

end Operator

end SqlLex
