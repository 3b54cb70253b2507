/-
# SqlLex.Toml.Literal -- how numbers, truth values, dates and times are written

A literal is kept as it is written; `isLiteral` tells the spellings that mean
something.  Dates exist in the calendar, and a time may leave its seconds out.
-/
import SqlLex.Toml.Number

namespace SqlLex.Toml.Literal

set_option autoImplicit false

/-- A number of exactly `n` digits, and what stands behind it. -/
def number? (n : Nat) (cs : List Char) : Option (Nat × List Char) :=
  let digits := cs.take n
  if digits.length = n ∧ digits.all Char.isDigit = true then
    some (Number.valueOf 10 digits, cs.drop n)
  else none

/-- What stands behind one given character. -/
def behind? (c : Char) : List Char → Option (List Char)
  | d :: rest => if c = d then some rest else none
  | [] => none

/-- The days of a month. -/
def daysIn (year month : Nat) : Nat :=
  if month = 2 then
    if year % 4 = 0 ∧ (year % 100 ≠ 0 ∨ year % 400 = 0) then 29 else 28
  else if month = 4 ∨ month = 6 ∨ month = 9 ∨ month = 11 then 30
  else 31

/-- What stands behind a date of the calendar. -/
def date? (cs : List Char) : Option (List Char) := do
  let (year, cs) ← number? 4 cs
  let cs ← behind? '-' cs
  let (month, cs) ← number? 2 cs
  let cs ← behind? '-' cs
  let (day, cs) ← number? 2 cs
  if 1 ≤ month ∧ month ≤ 12 ∧ 1 ≤ day ∧ day ≤ daysIn year month then some cs else none

/-- What stands behind the seconds of a time, which may be left out. -/
def seconds? : List Char → Option (List Char)
  | ':' :: cs => do
      let (second, cs) ← number? 2 cs
      if second ≤ 60 then
        match cs with
        | '.' :: cs =>
            if (cs.takeWhile Char.isDigit).isEmpty then none else some (cs.dropWhile Char.isDigit)
        | cs => some cs
      else none
  | cs => some cs

/-- What stands behind an hour and a minute. -/
def clock? (cs : List Char) : Option (List Char) := do
  let (hour, cs) ← number? 2 cs
  let cs ← behind? ':' cs
  let (minute, cs) ← number? 2 cs
  if hour ≤ 23 ∧ minute ≤ 59 then some cs else none

/-- What stands behind a time of day. -/
def time? (cs : List Char) : Option (List Char) :=
  (clock? cs).bind seconds?

/-- Is this nothing, or a distance from universal time? -/
def isOffset : List Char → Bool
  | [] | ['Z'] | ['z'] => true
  | '+' :: cs | '-' :: cs => clock? cs == some []
  | _ => false

/-- A date, a time, or both. -/
def isMoment (cs : List Char) : Bool :=
  match date? cs with
  | some [] => true
  | some (c :: rest) =>
      (c == 'T' || c == 't' || c == ' ') &&
        match time? rest with
        | some rest => isOffset rest
        | none => false
  | none => time? cs == some []

/-- A spelling that means something. -/
def isLiteral (cs : List Char) : Bool :=
  cs == "true".toList || cs == "false".toList || Number.isInteger cs || Number.isFloat cs ||
    isMoment cs

/-- The characters that literals are made of. -/
def inLiteral (c : Char) : Bool :=
  c.isAlphanum || c == '_' || c == '+' || c == '-' || c == '.' || c == ':'

/-- The characters of a literal, and what stands behind it.  A blank may stand between a date and
a time. -/
def split (cs : List Char) : List Char × List Char :=
  let own := cs.takeWhile inLiteral
  let rest := cs.dropWhile inLiteral
  match date? own, rest with
  | some [], ' ' :: c :: more =>
      if c.isDigit then
        (own ++ ' ' :: (c :: more).takeWhile inLiteral, (c :: more).dropWhile inLiteral)
      else (own, rest)
  | _, _ => (own, rest)

end SqlLex.Toml.Literal
