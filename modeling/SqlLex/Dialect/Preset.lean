/-
# SqlLex.Dialect.Preset -- the dialects that can be chosen by name

Three dialects are known by name.  `Preset.name` is the name under which a
preset is written down, and the dialect it builds carries that name
(`dialect_name`).  A name typed by a person is read more leniently by
`Preset.ofName?`: white space around it and the case of its letters do not
matter, and each of the aliases `ansi`, `postgres` and `pg` is accepted.
-/
import SqlLex.Dialect
import SqlLex.Text.Alphabetic
import SqlLex.Text.LowerCase
import SqlLex.Text.Numeric
import SqlLex.Text.WhiteSpace

namespace SqlLex

set_option autoImplicit false

namespace Dialect

/-- SQL without the habits of one product: ASCII words that may hold `_`, `@`, `#` and, past the
first character, `$`. -/
def generic : Dialect where
  name := "generic"
  beginsWord c := c.isAlpha || c == '_' || c == '@' || c == '#'
  continuesWord c := c.isAlphanum || c == '_' || c == '@' || c == '#' || c == '$'

/-- PostgreSQL: words may hold letters and numbers of every script. -/
def postgresql : Dialect where
  name := "postgresql"
  beginsWord c := Text.isAlphabetic c || c == '_'
  continuesWord c := Text.isAlphabetic c || Text.isNumeric c || c == '_' || c == '$'

/-- MySQL: the backquote opens identifiers too, and a backslash escapes in strings. -/
def mysql : Dialect where
  name := "mysql"
  beginsWord c := c.isAlpha || c == '_' || c == '$' || c == '@'
  continuesWord c := c.isAlphanum || c == '_' || c == '$' || c == '@'
  opensQuoted c := c == '\x60' || c == '"'
  backslashEscapes := true

end Dialect

/-- A dialect that can be chosen by name. -/
inductive Preset where
  | generic
  | postgresql
  | mysql
deriving DecidableEq, Repr

namespace Preset

instance : Inhabited Preset := ⟨.generic⟩

/-- Every preset. -/
def all : List Preset := [.generic, .postgresql, .mysql]

/-- The name under which a preset is written down. -/
def name : Preset → String
  | .generic => "generic"
  | .postgresql => "postgresql"
  | .mysql => "mysql"

/-- The dialect that a preset stands for. -/
def dialect : Preset → Dialect
  | .generic => .generic
  | .postgresql => .postgresql
  | .mysql => .mysql

/-- The preset written down under exactly this name. -/
def ofExactName? (s : String) : Option Preset :=
  all.find? (fun p => p.name == s)

/-- The names by which a person may ask for a preset. -/
def aliases : List (String × Preset) :=
  [("generic", .generic), ("ansi", .generic),
   ("postgresql", .postgresql), ("postgres", .postgresql), ("pg", .postgresql),
   ("mysql", .mysql)]

/-- The preset that a person asks for, whatever the letter case and the white space around. -/
def ofName? (s : String) : Option Preset :=
  aliases.lookup (String.ofList (Text.lowerCase (Text.trim s.toList)))

theorem dialect_name (p : Preset) : p.dialect.name = p.name := by
  cases p <;> rfl

theorem ofExactName?_name (p : Preset) : ofExactName? p.name = some p := by
  cases p <;> decide

end Preset

end SqlLex
