/-
# SqlLex.Json.Reader -- values from symbols

A document is read in one pass over its symbols.  The reader keeps the containers
that are still open, the innermost first, and knows what may come next.  A value
that is complete goes into the innermost container, or is the document if there
is none; then nothing may follow it.
-/
import SqlLex.Json.Symbol

namespace SqlLex.Json

set_option autoImplicit false

/-- A container that is still open, or the whole document. -/
inductive Frame where
  /-- An array and its elements, the last first. -/
  | array (elems : List Json)
  /-- An object and its fields, the last first. -/
  | object (fields : List Field)
  /-- A field of the object around it, whose value is to come. -/
  | field (name : Option String)
  /-- The value of the document. -/
  | whole (v : Json)
deriving Repr

/-- What may come next. -/
inductive Awaited where
  | value
  /-- A value, or the end of an array that has no elements. -/
  | element
  /-- A name. -/
  | name
  /-- A name, or the end of an object that has no fields. -/
  | member
  | colon
  /-- A comma, or the end of the container. -/
  | separator
deriving DecidableEq, Repr

/-- A document half read. -/
structure Reading where
  frames : List Frame
  awaited : Awaited
deriving Repr

namespace Reading

/-- Nothing read yet. -/
def start : Reading := ⟨[], .value⟩

/-- Puts a complete value where it belongs. -/
def place (v : Json) : List Frame → Option Reading
  | [] => some ⟨[.whole v], .separator⟩
  | .array elems :: frames => some ⟨.array (v :: elems) :: frames, .separator⟩
  | .field name :: .object fields :: frames =>
      some ⟨.object ((name, v) :: fields) :: frames, .separator⟩
  | _ => none

/-- Begins a value. -/
def begin (frames : List Frame) : Symbol → Option Reading
  | .scalar v => place v frames
  | .openBracket => some ⟨.array [] :: frames, .element⟩
  | .openBrace => some ⟨.object [] :: frames, .member⟩
  | _ => none

/-- Closes the innermost container. -/
def close : List Frame → Symbol → Option Reading
  | .array elems :: frames, .closeBracket => place (.array elems.reverse) frames
  | .object fields :: frames, .closeBrace => place (.object fields.reverse) frames
  | _, _ => none

/-- Begins a field. -/
def beginField (frames : List Frame) : Symbol → Option Reading
  | .scalar (.string name) => some ⟨.field name :: frames, .colon⟩
  | _ => none

/-- Reads one symbol. -/
def step (r : Reading) (x : Symbol) : Option Reading :=
  match r.awaited with
  | .value => begin r.frames x
  | .element => (close r.frames x).or (begin r.frames x)
  | .name => beginField r.frames x
  | .member => (close r.frames x).or (beginField r.frames x)
  | .colon =>
      match x with
      | .colon => some ⟨r.frames, .value⟩
      | _ => none
  | .separator =>
      match x, r.frames with
      | .comma, .array _ :: _ => some ⟨r.frames, .value⟩
      | .comma, .object _ :: _ => some ⟨r.frames, .name⟩
      | _, frames => close frames x

/-- The document, if it is whole. -/
def result? (r : Reading) : Option Json :=
  match r.frames with
  | [.whole v] => some v
  | _ => none

end Reading

/-- The value that symbols write. -/
def ofSymbols? (xs : List Symbol) : Option Json :=
  (xs.foldlM Reading.step Reading.start).bind Reading.result?

/-- The value of a document. -/
def parse? (document : String) : Option Json :=
  (Symbol.ofChars? document.toList).bind ofSymbols?

end SqlLex.Json
