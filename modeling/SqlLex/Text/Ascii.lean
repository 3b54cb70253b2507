/-
# SqlLex.Text.Ascii -- letter case within ASCII

Key words are compared without regard to the case of the letters A to Z.  Letters
outside ASCII keep their case and match only themselves.
-/

namespace SqlLex.Text

set_option autoImplicit false

/-- The text with the letters a to z in upper case. -/
def upper (s : String) : String :=
  String.ofList (s.toList.map Char.toUpper)

/-- Are two texts equal up to the case of ASCII letters? -/
def sameUpToCase (a b : String) : Bool :=
  upper a == upper b

end SqlLex.Text
