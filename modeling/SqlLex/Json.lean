/-
# SqlLex.Json -- values of JSON documents

A document holds one value.  Two things that a document may hold are kept as what
they are rather than refused at once, because a reader passes over fields it does
not know: a string whose escapes name half of a surrogate pair is a string
without a text, and a number that is not written with digits alone is kept as its
literal.

`Json.record` is how a record of named fields is read.  A record is an object,
whose fields may stand in any order and among fields of other names, or an array
of its fields in their declared order.
-/

namespace SqlLex

set_option autoImplicit false

/-- A value of a document. -/
inductive Json where
  | null
  | boolean (b : Bool)
  /-- A number written with digits alone. -/
  | natural (n : Nat)
  /-- A number written with a sign, a fraction or an exponent. -/
  | number (literal : String)
  /-- A string, and its text if it has one. -/
  | string (text : Option String)
  | array (elems : List Json)
  | object (fields : List (Option String × Json))
deriving Repr

namespace Json

/-- A field of an object: its name, if the name has a text, and its value. -/
abbrev Field := Option String × Json

/-- A string with this text. -/
def ofString (s : String) : Json := .string (some s)

/-- A string of one character. -/
def ofChar (c : Char) : Json := .ofString (.ofList [c])

/-- What `write` makes of a value, or null where there is none. -/
def ofOption {α : Type} (write : α → Json) : Option α → Json
  | some a => write a
  | none => .null

/-- An object with these fields. -/
def ofFields (fields : List (String × Json)) : Json :=
  .object (fields.map fun (name, value) => (some name, value))

/-- The text of a string. -/
def string? : Json → Option String
  | .string text => text
  | _ => none

/-- The character that is the whole text of a string. -/
def char? (v : Json) : Option Char :=
  match v.string?.map String.toList with
  | some [c] => some c
  | _ => none

/-- A number written with digits alone that fits in sixty-four bits. -/
def word64? : Json → Option Nat
  | .natural n => if n < 18446744073709551616 then some n else none
  | _ => none

/-- A value that may be null or left out. -/
def optional? {α : Type} (read : Json → Option α) : Option Json → Option (Option α)
  | none | some .null => some none
  | some v => (read v).map some

/-- The value of the field of this name, if there is one; refused if there are more. -/
def single? (fields : List Field) (name : String) : Option (Option Json) :=
  match fields.filter (fun field => field.1 == some name) with
  | [] => some none
  | [field] => some (some field.2)
  | _ => none

/-- The values of the named fields, in the order of the names.  An array must hold at least
`least` of them, and no more than there are names. -/
def record? (names : List String) (least : Nat) : Json → Option (List (Option Json))
  | .object fields =>
      if fields.all (fun field => field.1.isSome) then names.mapM (single? fields) else none
  | .array elems =>
      if least ≤ elems.length ∧ elems.length ≤ names.length then
        some (elems.map some ++ List.replicate (names.length - elems.length) none)
      else none
  | _ => none

end Json

end SqlLex
