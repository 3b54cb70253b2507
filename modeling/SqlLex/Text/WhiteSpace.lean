/-
# SqlLex.Text.WhiteSpace -- the Unicode property White_Space, and trimming

`whiteSpace` lists the code points with the Unicode property *White_Space*,
`isWhiteSpace` tests for it and `trim` takes such characters off both ends.
The zero-width space U+200B is not one of them.
-/
import SqlLex.Text.CodeRange

namespace SqlLex.Text

set_option autoImplicit false

/-- The table of `isWhiteSpace`. -/
def whiteSpace : CodeTable where
  ranges :=
    [(0x9, 0xd), (0x20, 0x20), (0x85, 0x85), (0xa0, 0xa0), (0x1680, 0x1680), (0x2000, 0x200a),
     (0x2028, 0x2029), (0x202f, 0x202f), (0x205f, 0x205f), (0x3000, 0x3000)]
  ascending := by decide +kernel

/-- The Unicode property *White_Space*. -/
def isWhiteSpace (c : Char) : Bool :=
  whiteSpace.covers c.toNat

/-- The characters without the white space at both ends. -/
def trim (s : List Char) : List Char :=
  ((s.dropWhile isWhiteSpace).reverse.dropWhile isWhiteSpace).reverse

end SqlLex.Text
