/-
# SqlLex.Toml.Text -- strings of TOML documents

A string stands between double quotes, with escapes, or between single quotes,
without; and between three of either, when it may also hold line breaks and up to
two of its own quotes in a row.  A line break right behind the three opening
quotes does not count, and an escaped line break takes the blanks and line breaks
behind it along.
-/
import SqlLex.Json.Text

namespace SqlLex.Toml.Text

set_option autoImplicit false

/-- A blank within a line. -/
def isBlank (c : Char) : Bool := c == ' ' || c == '\t'

/-- May the character stand for itself in a string or comment? -/
def isPlain (c : Char) : Bool := c == '\t' || !(c.toNat < 0x20 || c.toNat == 0x7F)

/-- The character with the number that hexadecimal digits spell. -/
def scalar? (digits : List Char) : Option Char :=
  match Json.Text.hexNumber? digits with
  | some n => if n.isValidChar then some (Char.ofNat n) else none
  | none => none

/-- The escapes of two characters: the letter behind the backslash and what it stands for. -/
def escapes : List (Char × Char) :=
  [('b', '\x08'), ('t', '\t'), ('n', '\n'), ('f', '\x0c'), ('r', '\r'), ('e', '\x1b'),
   ('"', '"'), ('\\', '\\')]

/-- What an escape stands for, read behind its backslash, and what stands behind it. -/
def escape? : List Char → Option (Char × List Char)
  | [] => none
  | letter :: rest =>
      let digits := match letter with
        | 'x' => 2
        | 'u' => 4
        | 'U' => 8
        | _ => 0
      if digits = 0 then (escapes.lookup letter).map (·, rest)
      else if rest.length < digits then none
      else (scalar? (rest.take digits)).map (·, rest.drop digits)

/-- Reads a string within one line up to its closing quote.  `fuel` bounds its length. -/
def line? (quote : Char) : Nat → List Char → Option (List Char × List Char)
  | 0, _ => none
  | _, [] => none
  | fuel + 1, c :: rest =>
      if c = quote then some ([], rest)
      else if c = '\\' ∧ quote = '"' then do
        let (meant, rest) ← escape? rest
        let (text, rest) ← line? quote fuel rest
        some (meant :: text, rest)
      else if isPlain c then do
        let (text, rest) ← line? quote fuel rest
        some (c :: text, rest)
      else none

/-- The quotes that belong to a string and what stands behind it, at the three that close it. -/
def closing? (quote : Char) (cs : List Char) : Option (List Char × List Char) :=
  let own := min 5 (cs.takeWhile (· == quote)).length
  if own < 3 then none else some (List.replicate (own - 3) quote, cs.drop own)

/-- What stands behind blanks and line breaks. -/
def skipGap : List Char → List Char
  | [] => []
  | '\n' :: rest | '\r' :: '\n' :: rest => skipGap rest
  | c :: rest => if isBlank c then skipGap rest else c :: rest

/-- What stands behind an escaped line break and the gap after it. -/
def continued? (cs : List Char) : Option (List Char) :=
  match cs.dropWhile isBlank with
  | '\n' :: rest | '\r' :: '\n' :: rest => some (skipGap rest)
  | _ => none

/-- Reads a string of several lines up to its closing quotes.  `fuel` bounds its length. -/
def lines? (quote : Char) : Nat → List Char → Option (List Char × List Char)
  | 0, _ => none
  | fuel + 1, cs =>
      match closing? quote cs with
      | some found => some found
      | none =>
          match cs with
          | [] => none
          | '\r' :: '\n' :: rest | '\n' :: rest => do
              let (text, rest) ← lines? quote fuel rest
              some ('\n' :: text, rest)
          | c :: rest =>
              if c = '\\' ∧ quote = '"' then
                match continued? rest with
                | some rest => lines? quote fuel rest
                | none => do
                    let (meant, rest) ← escape? rest
                    let (text, rest) ← lines? quote fuel rest
                    some (meant :: text, rest)
              else if isPlain c then do
                let (text, rest) ← lines? quote fuel rest
                some (c :: text, rest)
              else none

/-- What stands behind a first line break, if there is one. -/
def skipBreak : List Char → List Char
  | '\n' :: rest | '\r' :: '\n' :: rest => rest
  | rest => rest

/-- Reads a string behind its first quote. -/
def string? (quote : Char) (cs : List Char) : Option (String × List Char) :=
  let found := match cs with
    | a :: b :: rest =>
        if a = quote ∧ b = quote then lines? quote (cs.length + 1) (skipBreak rest)
        else line? quote (cs.length + 1) cs
    | _ => line? quote (cs.length + 1) cs
  found.map fun (text, rest) => (.ofList text, rest)

end SqlLex.Toml.Text
