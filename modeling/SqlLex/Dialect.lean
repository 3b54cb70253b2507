/-
# SqlLex.Dialect -- what a dialect decides

A dialect answers six questions: its name, which characters begin and continue a
bare identifier, which words are reserved, which characters open a quoted
identifier, and whether a backslash escapes in string literals.  Nothing else in
the lexer depends on the dialect.  The classes may overlap in any way; the order
in which the lexer asks decides.

A dialect that leaves the last three open takes the shared table of reserved
words, the double quote, and no escapes.
-/
import SqlLex.Keyword

namespace SqlLex

set_option autoImplicit false

/-- The rules by which a SQL dialect forms its words and literals. -/
structure Dialect where
  /-- The name shown in messages. -/
  name : String
  /-- May the character begin a bare identifier? -/
  beginsWord : Char → Bool
  /-- May the character continue a bare identifier? -/
  continuesWord : Char → Bool
  /-- The canonical spelling of a reserved word given in upper case. -/
  reserved : String → Option String := Keyword.lookup
  /-- Does the character open a quoted identifier? -/
  opensQuoted : Char → Bool := fun c => c == '"'
  /-- Does a backslash escape in string literals? -/
  backslashEscapes : Bool := false

end SqlLex
