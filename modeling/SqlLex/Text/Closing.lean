/-
# SqlLex.Text.Closing -- the quote that closes a quoted identifier

An opening square bracket is closed by the closing one; every other opening
quote closes itself.
-/

namespace SqlLex.Text

set_option autoImplicit false

/-- The character that closes what `opening` opened. -/
def closing (opening : Char) : Char :=
  if opening = '[' then ']' else opening

end SqlLex.Text
