/-
# SqlLex.Toml.Number -- how numbers are written, and how large they may be

Digits may be grouped by single underscores that have a digit on both sides.  A
whole number has no zero in front of other digits; sixteen, eight and two are the
other bases.  A float has a fraction, an exponent or both.

A whole number fits into 128 bits, with a sign or without.  A float is rounded to
double precision and has to stay finite, which is decided on its digits without
any rounding (`Decimal.overflows`).
-/
import SqlLex.Json.Text

namespace SqlLex.Toml.Number

set_option autoImplicit false

/-! ## Digits -/

/-- Digits, at least one, with single underscores between some of them. -/
def isGrouped (digit : Char → Bool) : List Char → Bool
  | [] => false
  | [c] => digit c
  | c :: '_' :: rest => digit c && isGrouped digit rest
  | c :: rest => digit c && isGrouped digit rest

/-- Decimal digits without a zero in front of others. -/
def isWhole : List Char → Bool
  | '0' :: rest => rest.isEmpty
  | cs => isGrouped Char.isDigit cs

/-- The number that grouped digits spell to a base. -/
def valueOf (base : Nat) (cs : List Char) : Nat :=
  (cs.filterMap Json.Text.hexValue?).foldl (fun n digit => base * n + digit) 0

/-- What stands behind a sign, or all of it where there is none. -/
def unsigned : List Char → List Char
  | '+' :: rest | '-' :: rest => rest
  | rest => rest

/-! ## Whole numbers -/

/-- A digit to base sixteen. -/
def isHex (c : Char) : Bool := (Json.Text.hexValue? c).isSome

/-- The least number that 128 bits without a sign do not hold. -/
def aboveLargest : Nat := Nat.pow 2 128

/-- The number whose negative is the least that 128 bits with a sign hold. -/
def mostNegative : Nat := Nat.pow 2 127

/-- Grouped digits of a number that 128 bits hold. -/
def isSmall (base : Nat) (digit : Char → Bool) (cs : List Char) : Bool :=
  isGrouped digit cs && valueOf base cs < aboveLargest

/-- A whole number to any base. -/
def isInteger : List Char → Bool
  | '0' :: 'x' :: digits => isSmall 16 isHex digits
  | '0' :: 'o' :: digits => isSmall 8 (fun c => '0' ≤ c && c ≤ '7') digits
  | '0' :: 'b' :: digits => isSmall 2 (fun c => c == '0' || c == '1') digits
  | '-' :: digits => isWhole digits && valueOf 10 digits ≤ mostNegative
  | cs => isWhole (unsigned cs) && valueOf 10 (unsigned cs) < aboveLargest

/-! ## Floats -/

/-- Digits, and the power of ten that the number they spell is multiplied by. -/
structure Decimal where
  digits : List Char
  exponent : Int
deriving DecidableEq, Repr

/-- The least number that is rounded to infinity: it is halfway from the largest double,
`2 ^ 1024 - 2 ^ 971`, to the next power of two, and a tie goes away from an odd significand. -/
def leastInfinite : Nat := Nat.pow 2 1024 - Nat.pow 2 970

/-- Is the number rounded to infinity?  A power of ten past `10 ^ 308` does so by itself, and a
number below one does not. -/
def Decimal.overflows (x : Decimal) : Bool :=
  let m := valueOf 10 x.digits
  match x.exponent with
  | .ofNat n => m ≠ 0 && (308 < n || leastInfinite ≤ m * Nat.pow 10 n)
  | .negSucc n => n + 1 < x.digits.length && leastInfinite * Nat.pow 10 (n + 1) ≤ m

/-- The characters of grouped digits. -/
def inDigits (c : Char) : Bool := c.isDigit || c == '_'

/-- The exponent that stands behind its letter, or zero where nothing stands. -/
def exponent? : List Char → Option Int
  | [] => some 0
  | letter :: cs =>
      if (letter = 'e' ∨ letter = 'E') ∧ isGrouped Char.isDigit (unsigned cs) then
        let n : Int := valueOf 10 (unsigned cs)
        some (if cs.head? = some '-' then -n else n)
      else none

/-- Reads a number with a fraction, an exponent or both. -/
def decimal? (cs : List Char) : Option Decimal :=
  let whole := cs.takeWhile inDigits
  if isWhole whole then
    match cs.dropWhile inDigits with
    | [] => none
    | '.' :: rest =>
        let fraction := rest.takeWhile inDigits
        if isGrouped Char.isDigit fraction then do
          let exponent ← exponent? (rest.dropWhile inDigits)
          some ⟨whole ++ fraction, exponent - fraction.countP Char.isDigit⟩
        else none
    | rest => (exponent? rest).map (⟨whole, ·⟩)
  else none

/-- A finite number with a fraction or an exponent, an infinity, or no number. -/
def isFloat (cs : List Char) : Bool :=
  let cs := unsigned cs
  cs == ['i', 'n', 'f'] || cs == ['n', 'a', 'n'] ||
    match decimal? cs with
    | some x => !x.overflows
    | none => false

end SqlLex.Toml.Number
