/-
# SqlLex.Token.Document -- tokens as JSON values

Positions, words and tokens are kept in documents as records.  Each type has a
writer `toJson` and a reader `ofJson?`.  The writer gives every field but an
absent escape character; the reader also takes a record as an array, and takes a
reserved spelling, a quote or an escape that is left out of an object for an
absent one.
-/
import SqlLex.Json.Reader
import SqlLex.Token

namespace SqlLex

set_option autoImplicit false

namespace Position

/-- A position as a record. -/
def toJson (p : Position) : Json :=
  .ofFields [("line", .natural p.line), ("column", .natural p.column)]

/-- Reads a position. -/
def ofJson? (v : Json) : Option Position :=
  match v.record? ["line", "column"] 2 with
  | some [some line, some column] => do
      some ⟨← line.word64?, ← column.word64?⟩
  | _ => none

end Position

namespace Word

/-- A word as a record. -/
def toJson (w : Word) : Json :=
  .ofFields
    [("value", .ofString w.value), ("keyword", .ofOption .ofString w.keyword),
     ("quote_style", .ofOption .ofChar w.quote)]

/-- Reads a word. -/
def ofJson? (v : Json) : Option Word :=
  match v.record? ["value", "keyword", "quote_style"] 3 with
  | some [some value, keyword, quote] => do
      some ⟨← value.string?, ← Json.optional? Json.string? keyword,
        ← Json.optional? Json.char? quote⟩
  | _ => none

end Word

namespace TokenValue

/-- A value as an object whose one field says which sort it is. -/
def toJson : TokenValue → Json
  | .text s => .ofFields [("Text", .ofString s)]
  | .word w => .ofFields [("Word", w.toJson)]

/-- Reads a value. -/
def ofJson? : Json → Option TokenValue
  | .object [(some "Text", v)] => v.string?.map .text
  | .object [(some "Word", v)] => (Word.ofJson? v).map .word
  | _ => none

end TokenValue

namespace Kind

/-- A kind as its name. -/
def toJson (k : Kind) : Json := .ofString k.name

/-- Reads a kind: its name, or an object whose one field has that name and is null. -/
def ofJson? : Json → Option Kind
  | .string (some name) => ofName? name
  | .object [(some name, .null)] => ofName? name
  | _ => none

end Kind

namespace Token

/-- A token as a record. -/
def toJson (t : Token) : Json :=
  .ofFields
    ([("kind", t.kind.toJson), ("value", t.value.toJson), ("from", t.start.toJson),
      ("to", t.stop.toJson)]
      ++ match t.escape with
        | some e => [("escape", .ofChar e)]
        | none => [])

/-- Reads a token. -/
def ofJson? (v : Json) : Option Token :=
  match v.record? ["kind", "value", "from", "to", "escape"] 4 with
  | some [some kind, some value, some start, some stop, escape] => do
      some ⟨⟨← Kind.ofJson? kind, ← TokenValue.ofJson? value,
          ← Json.optional? Json.char? escape⟩,
        ← Position.ofJson? start, ← Position.ofJson? stop⟩
  | _ => none

end Token

end SqlLex
