/-
# SqlLex.Toml.Reader -- tables from documents

A document is read statement by statement: a header names the table that the
statements behind it fill, and a statement gives a value to a key of that table.
Blank space, line breaks and comments may stand between statements, and between
the parts of a value in brackets or braces.  A byte order mark in front of the
document is passed over.  Brackets and braces are nested at most `maxNesting`
deep, and a dotted key has at most as many parts.

The readers of values and statements take `fuel`, a bound on the number of steps;
each step reads at least one character, so that the length of the document is
enough.  `room` is the number of brackets and braces that may still be opened
inside each other.
-/
import SqlLex.Toml
import SqlLex.Toml.Literal
import SqlLex.Toml.Text

namespace SqlLex.Toml

set_option autoImplicit false

/-- Passes over blank space, line breaks and comments; refused where a comment holds a control
character. -/
def skip (inComment : Bool) : List Char → Option (List Char)
  | [] => some []
  | '\n' :: rest | '\r' :: '\n' :: rest => skip false rest
  | c :: rest =>
      if inComment then if Text.isPlain c then skip true rest else none
      else if Text.isBlank c then skip false rest
      else if c = '#' then skip true rest
      else some (c :: rest)

/-- Passes over the end of a line and the gap behind it. -/
def endLine (cs : List Char) : Option (List Char) :=
  match cs.dropWhile Text.isBlank with
  | [] => some []
  | '\n' :: rest | '\r' :: '\n' :: rest => skip false rest
  | '#' :: rest => skip true rest
  | _ => none

/-- The characters of a bare key. -/
def inBareKey (c : Char) : Bool := c.isAlphanum || c == '_' || c == '-'

/-- Reads one key. -/
def key? : List Char → Option (String × List Char)
  | [] => none
  | c :: rest =>
      if c = '"' ∨ c = '\x27' then
        (Text.line? c (rest.length + 1) rest).map fun (text, rest) => (.ofList text, rest)
      else if inBareKey c then
        some (.ofList (c :: rest.takeWhile inBareKey), rest.dropWhile inBareKey)
      else none

/-- The most levels that a value or a dotted key may have. -/
def maxNesting : Nat := 80

/-- Reads keys with periods between, at most so many, and gives all but the last and the last. -/
def keys? : Nat → List Char → Option ((List String × String) × List Char)
  | 0, _ => none
  | most + 1, cs => do
      let (key, rest) ← key? (cs.dropWhile Text.isBlank)
      match rest.dropWhile Text.isBlank with
      | '.' :: rest => do
          let ((path, last), rest) ← keys? most rest
          some ((key :: path, last), rest)
      | rest => some (([], key), rest)

/-- Reads a dotted key: the path to it and its last part. -/
def path? (cs : List Char) : Option ((List String × String) × List Char) := keys? maxNesting cs

mutual

/-- Reads a value. -/
def value? : Nat → Nat → List Char → Option (Toml × List Char)
  | 0, _, _ => none
  | _, _, [] => none
  | fuel + 1, room, c :: rest =>
      if c = '"' ∨ c = '\x27' then
        (Text.string? c rest).map fun (text, rest) => (.string text, rest)
      else if c = '[' ∨ c = '\x7b' then
        match room with
        | 0 => none
        | room + 1 =>
            if c = '[' then do
              let (elems, rest) ← elements? fuel room (← skip false rest)
              some (.array elems, rest)
            else do
              let (entries, rest) ← members? fuel room [] (← skip false rest)
              some (.table .inline entries, rest)
      else
        let (spelling, rest) := Literal.split (c :: rest)
        if Literal.isLiteral spelling then some (.literal (.ofList spelling), rest) else none

/-- Reads the elements of an array up to its closing bracket. -/
def elements? : Nat → Nat → List Char → Option (List Toml × List Char)
  | 0, _, _ => none
  | _, _, ']' :: rest => some ([], rest)
  | fuel + 1, room, cs => do
      let (v, rest) ← value? fuel room cs
      match ← skip false rest with
      | ',' :: rest => do
          let (elems, rest) ← elements? fuel room (← skip false rest)
          some (v :: elems, rest)
      | ']' :: rest => some ([v], rest)
      | _ => none

/-- Reads the entries of a table within braces. -/
def members? : Nat → Nat → Entries → List Char → Option (Entries × List Char)
  | 0, _, _, _ => none
  | _, _, entries, '\x7d' :: rest => some (entries, rest)
  | fuel + 1, room, entries, cs => do
      let ((path, key), rest) ← path? cs
      let rest ← Literal.behind? '=' (← skip false rest)
      let (v, rest) ← value? fuel room (← skip false rest)
      let entries ← entries.insert path key v
      match ← skip false rest with
      | ',' :: rest => do members? fuel room entries (← skip false rest)
      | '\x7d' :: rest => some (entries, rest)
      | _ => none

end

/-- Reads statements into `root`; `here` is the path of the table being filled. -/
def statements? : Nat → List String → Entries → List Char → Option Entries
  | 0, _, _, _ => none
  | _, _, root, [] => some root
  | fuel + 1, _, root, '[' :: '[' :: rest => do
      let ((path, key), rest) ← path? rest
      let rest ← Literal.behind? ']' rest
      let rest ← Literal.behind? ']' rest
      statements? fuel (path ++ [key]) (← root.openElement path key) (← endLine rest)
  | fuel + 1, _, root, '[' :: rest => do
      let ((path, key), rest) ← path? rest
      let rest ← Literal.behind? ']' rest
      statements? fuel (path ++ [key]) (← root.openTable path key) (← endLine rest)
  | fuel + 1, here, root, cs => do
      let ((path, key), rest) ← path? cs
      let rest ← Literal.behind? '=' rest
      let (v, rest) ← value? (rest.length + 1) maxNesting (rest.dropWhile Text.isBlank)
      let root ← Entries.along false (Entries.insert path key v) here root
      statements? fuel here root (← endLine rest)

/-- What stands behind a byte order mark, or all of it where there is none. -/
def skipMark : List Char → List Char
  | '\uFEFF' :: rest => rest
  | cs => cs

/-- The table that a document is. -/
def parse? (document : String) : Option Entries := do
  let cs ← skip false (skipMark document.toList)
  statements? (cs.length + 1) [] [] cs

end SqlLex.Toml
