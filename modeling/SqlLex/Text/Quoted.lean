/-
# SqlLex.Text.Quoted -- characters and texts spelled between quotes

Messages show a character between single quotes and a text between double
quotes.  NUL, tab, carriage return, line feed and the backslash have escapes of
two characters; so has the enclosing quote; code points that would not show are
spelled by their number in lower-case hexadecimal; all else stands for itself.
-/
import SqlLex.Text.Unprintable

namespace SqlLex.Text

set_option autoImplicit false

/-- The spelling of a character between quotes of the given sort. -/
def spell (quote c : Char) : List Char :=
  if c = '\x00' then ['\\', '0']
  else if c = '\t' then ['\\', 't']
  else if c = '\r' then ['\\', 'r']
  else if c = '\n' then ['\\', 'n']
  else if c = '\\' then ['\\', '\\']
  else if c = quote then ['\\', quote]
  else if isUnprintable c then
    ['\\', 'u', '\x7b'] ++ Nat.toDigits 16 c.toNat ++ ['\x7d']
  else [c]

/-- A character between single quotes. -/
def quotedChar (c : Char) : String :=
  String.ofList ('\x27' :: (spell '\x27' c ++ ['\x27']))

/-- A text between double quotes. -/
def quoted (s : String) : String :=
  String.ofList ('"' :: (s.toList.flatMap (spell '"') ++ ['"']))

end SqlLex.Text
