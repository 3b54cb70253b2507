/-
# SqlLex.Proofs.Documents -- what is written to a document is read back

A document is written in three steps, and each has its own way back: a record is written
as a value (`toJson`), a value as symbols, symbols as text.  The reader of symbols puts a
value where it belongs whatever containers are open around it (`Reading.foldlM_symbols`),
so it finds every value in its symbols (`ofSymbols?_symbols`).  Splitting the text needs
more, that no number in the value has a sign, a fraction or an exponent (`Plain`), and
records write none that has.

A field that is absent is written as null, but for an escape, which is left out; the
reader takes either for an absence (`optional?_ofOption`).  What bounds the whole are the
numbers of positions: the reader takes those of sixty-four bits and no others
(`Position.Fits`).  Within that bound, `documents_read_back` is the round trip of
positions, words and tokens.
-/
import SqlLex.Proofs.Symbols
import SqlLex.Token.Document

namespace SqlLex

set_option autoImplicit false

namespace Json

/-! ## Values from their symbols -/

namespace Reading

/-! ### One symbol -/

section Step

variable {awaited : Awaited}

/-- Only the two closing marks close a container. -/
theorem close_eq_none {x : Symbol} (opening : x ≠ .closeBracket ∧ x ≠ .closeBrace)
    (frames : List Frame) : close frames x = none := by
  fun_cases close frames x <;> simp_all

/-- Where an element may come, a value begins as it does elsewhere. -/
theorem step_eq_begin {x : Symbol} (opening : x ≠ .closeBracket ∧ x ≠ .closeBrace)
    (ready : awaited = .value ∨ awaited = .element) (frames : List Frame) :
    step ⟨frames, awaited⟩ x = begin frames x := by
  rcases ready with rfl | rfl
  · rfl
  · simp [step, close_eq_none opening]

theorem step_scalar (ready : awaited = .value ∨ awaited = .element) (frames : List Frame)
    (v : Json) : step ⟨frames, awaited⟩ (.scalar v) = place v frames :=
  step_eq_begin (by simp) ready frames

theorem step_openBracket (ready : awaited = .value ∨ awaited = .element) (frames : List Frame) :
    step ⟨frames, awaited⟩ .openBracket = some ⟨.array [] :: frames, .element⟩ :=
  step_eq_begin (by simp) ready frames

theorem step_openBrace (ready : awaited = .value ∨ awaited = .element) (frames : List Frame) :
    step ⟨frames, awaited⟩ .openBrace = some ⟨.object [] :: frames, .member⟩ :=
  step_eq_begin (by simp) ready frames

theorem step_name (ready : awaited = .name ∨ awaited = .member) (frames : List Frame)
    (name : Option String) :
    step ⟨frames, awaited⟩ (.scalar (.string name)) = some ⟨.field name :: frames, .colon⟩ := by
  rcases ready with rfl | rfl
  · rfl
  · simp [step, close_eq_none, beginField]

theorem step_closeBracket (last : awaited = .element ∨ awaited = .separator)
    (elems : List Json) (frames : List Frame) :
    step ⟨.array elems :: frames, awaited⟩ .closeBracket = place (.array elems.reverse) frames := by
  rcases last with rfl | rfl
  · exact Option.or_none
  · rfl

theorem step_closeBrace (last : awaited = .member ∨ awaited = .separator)
    (fields : List Field) (frames : List Frame) :
    step ⟨.object fields :: frames, awaited⟩ .closeBrace =
      place (.object fields.reverse) frames := by
  rcases last with rfl | rfl
  · exact Option.or_none
  · rfl

theorem step_colon (frames : List Frame) :
    step ⟨frames, .colon⟩ .colon = some ⟨frames, .value⟩ := rfl

theorem step_comma_array (elems : List Json) (frames : List Frame) :
    step ⟨.array elems :: frames, .separator⟩ .comma =
      some ⟨.array elems :: frames, .value⟩ := rfl

theorem step_comma_object (fields : List Field) (frames : List Frame) :
    step ⟨.object fields :: frames, .separator⟩ .comma =
      some ⟨.object fields :: frames, .name⟩ := rfl

end Step

/-! ### The symbols of a value -/

mutual

/-- Reading the symbols of a value puts it in its place. -/
theorem foldlM_symbols {awaited : Awaited} (ready : awaited = .value ∨ awaited = .element)
    (frames : List Frame) : (v : Json) → v.symbols.foldlM step ⟨frames, awaited⟩ = place v frames
  | .null | .boolean _ | .natural _ | .number _ | .string _ => by
    simp [symbols, step_scalar ready]
  | .array [] => by
    simp [symbols, elementSymbols, step_openBracket ready, step_closeBracket]
  | .array (v :: rest) => by
    have elems := foldlM_elementSymbols (.inr rfl) frames [] (v :: rest) (by simp)
    simp [symbols, step_openBracket ready, elems, step_closeBracket]
  | .object [] => by
    simp [symbols, fieldSymbols, step_openBrace ready, step_closeBrace]
  | .object (field :: rest) => by
    have fields := foldlM_fieldSymbols (.inr rfl) frames [] (field :: rest) (by simp)
    simp [symbols, step_openBrace ready, fields, step_closeBrace]

/-- Reading the symbols of elements adds them to the array that is open. -/
theorem foldlM_elementSymbols {awaited : Awaited} (ready : awaited = .value ∨ awaited = .element)
    (frames : List Frame) (earlier : List Json) : (elems : List Json) → elems ≠ [] →
    (elementSymbols elems).foldlM step ⟨.array earlier :: frames, awaited⟩ =
      some ⟨.array (elems.reverse ++ earlier) :: frames, .separator⟩
  | [], nonempty => absurd rfl nonempty
  | [v], _ => by
    simp [elementSymbols, foldlM_symbols ready, place]
  | v :: w :: rest, _ => by
    have others := foldlM_elementSymbols (.inl rfl) frames (v :: earlier) (w :: rest) (by simp)
    simp [elementSymbols, foldlM_symbols ready, place, step_comma_array, others]

/-- Reading the symbols of fields adds them to the object that is open. -/
theorem foldlM_fieldSymbols {awaited : Awaited} (ready : awaited = .name ∨ awaited = .member)
    (frames : List Frame) (earlier : List Field) : (fields : List Field) → fields ≠ [] →
    (fieldSymbols fields).foldlM step ⟨.object earlier :: frames, awaited⟩ =
      some ⟨.object (fields.reverse ++ earlier) :: frames, .separator⟩
  | [], nonempty => absurd rfl nonempty
  | [(name, v)], _ => by
    simp [fieldSymbols, step_name ready, step_colon, foldlM_symbols (.inl rfl), place]
  | (name, v) :: field :: rest, _ => by
    have others :=
      foldlM_fieldSymbols (.inl rfl) frames ((name, v) :: earlier) (field :: rest) (by simp)
    simp [fieldSymbols, step_name ready, step_colon, foldlM_symbols (.inl rfl), place,
      step_comma_object, others]

end

end Reading

/-- Every value is read back from its symbols. -/
theorem ofSymbols?_symbols (v : Json) : ofSymbols? v.symbols = some v := by
  rw [ofSymbols?, Reading.start, Reading.foldlM_symbols (.inl rfl)]
  rfl

/-! ## Values from their documents -/

/-- A value is plain if no number in it has a sign, a fraction or an exponent. -/
def Plain (v : Json) : Prop := ∀ x ∈ v.symbols, x.isPlain

/-- **A plain value is read back from the document that writes it.** -/
theorem parse?_render {v : Json} (plain : v.Plain) : parse? v.render = some v := by
  rw [parse?, render, String.toList_ofList,
    Symbol.ofChars?_flatMap_text plain (isChain_symbols v), Option.bind_some, ofSymbols?_symbols]

theorem plain_natural (n : Nat) : (natural n).Plain := by
  simp [Plain, symbols, Symbol.isPlain]

theorem plain_ofString (s : String) : (ofString s).Plain := by
  simp [Plain, ofString, symbols, Symbol.isPlain]

theorem plain_ofChar (c : Char) : (ofChar c).Plain := plain_ofString _

theorem plain_ofOption {α : Type} {write : α → Json} (plain : ∀ a, (write a).Plain)
    (value : Option α) : (ofOption write value).Plain := by
  cases value with
  | none => simp [Plain, ofOption, symbols, Symbol.isPlain]
  | some a => exact plain a

theorem isPlain_fieldSymbols : (fields : List Field) → (∀ field ∈ fields, field.2.Plain) →
    ∀ x ∈ fieldSymbols fields, x.isPlain
  | [], _ => by simp [fieldSymbols]
  | [(name, v)], plain => by
    have value : v.Plain := plain (name, v) List.mem_cons_self
    simp only [fieldSymbols, List.mem_cons]
    rintro x (rfl | rfl | own)
    · rfl
    · rfl
    · exact value x own
  | (name, v) :: field :: rest, plain => by
    have value : v.Plain := plain (name, v) List.mem_cons_self
    have others := isPlain_fieldSymbols (field :: rest)
      (fun other mem => plain other (List.mem_cons_of_mem _ mem))
    simp only [fieldSymbols, List.mem_cons, List.mem_append]
    rintro x (rfl | rfl | own | rfl | later)
    · rfl
    · rfl
    · exact value x own
    · rfl
    · exact others x later

/-- An object of plain values is plain. -/
theorem plain_ofFields {fields : List (String × Json)}
    (plain : ∀ field ∈ fields, field.2.Plain) : (ofFields fields).Plain := by
  simp only [Plain, ofFields, symbols, List.mem_cons, List.mem_append, List.not_mem_nil, or_false]
  rintro x (rfl | field | rfl)
  · rfl
  · refine isPlain_fieldSymbols _ ?_ x field
    exact List.forall_mem_map.2 plain
  · rfl

/-! ## Parts of a record -/

theorem string?_ofString (s : String) : (ofString s).string? = some s := rfl

theorem char?_ofChar (c : Char) : (ofChar c).char? = some c := by
  simp [char?, ofChar, string?_ofString]

/-- A value that may be absent is read back if it is when present, and is not written as null. -/
theorem optional?_ofOption {α : Type} {read : Json → Option α} {write : α → Json}
    (back : ∀ a, read (write a) = some a) (present : ∀ a, write a ≠ .null) (value : Option α) :
    optional? read (some (ofOption write value)) = some value := by
  cases value with
  | none => rfl
  | some a =>
    rw [ofOption, optional?]
    · rw [back, Option.map_some]
    · simpa using present a

theorem optional?_ofString (value : Option String) :
    optional? string? (some (ofOption ofString value)) = some value :=
  optional?_ofOption string?_ofString (by simp [ofString]) value

theorem optional?_ofChar (value : Option Char) :
    optional? char? (some (ofOption ofChar value)) = some value :=
  optional?_ofOption char?_ofChar (by simp [ofChar, ofString]) value

end Json

namespace Position

/-- The numbers of a position fit in sixty-four bits. -/
def Fits (p : Position) : Prop :=
  p.line < 18446744073709551616 ∧ p.column < 18446744073709551616

instance (p : Position) : Decidable p.Fits :=
  inferInstanceAs (Decidable (p.line < 18446744073709551616 ∧ p.column < 18446744073709551616))

theorem ofJson?_toJson {p : Position} (fits : p.Fits) : ofJson? p.toJson = some p := by
  simp [ofJson?, toJson, Json.ofFields, Json.record?, Json.single?, Json.word64?, fits.1, fits.2]

theorem plain_toJson (p : Position) : p.toJson.Plain :=
  Json.plain_ofFields (by simp [Json.plain_natural])

end Position

namespace Word

theorem ofJson?_toJson (w : Word) : ofJson? w.toJson = some w := by
  simp [ofJson?, toJson, Json.ofFields, Json.record?, Json.single?, Json.string?_ofString,
    Json.optional?_ofString, Json.optional?_ofChar]

theorem plain_toJson (w : Word) : w.toJson.Plain :=
  Json.plain_ofFields (by
    simp [Json.plain_ofString, Json.plain_ofOption, Json.plain_ofChar])

end Word

namespace TokenValue

theorem ofJson?_toJson (v : TokenValue) : ofJson? v.toJson = some v := by
  cases v with
  | text s => rfl
  | word w => simp [toJson, Json.ofFields, ofJson?, Word.ofJson?_toJson]

theorem plain_toJson (v : TokenValue) : v.toJson.Plain := by
  cases v with
  | text s => exact Json.plain_ofFields (by simp [Json.plain_ofString])
  | word w => exact Json.plain_ofFields (by simp [Word.plain_toJson])

end TokenValue

namespace Kind

theorem ofJson?_toJson (k : Kind) : ofJson? k.toJson = some k := ofName?_name k

theorem plain_toJson (k : Kind) : k.toJson.Plain := Json.plain_ofString k.name

end Kind

namespace Token

theorem ofJson?_toJson {t : Token} (start : t.start.Fits) (stop : t.stop.Fits) :
    ofJson? t.toJson = some t := by
  obtain ⟨⟨kind, value, escape⟩, first, last⟩ := t
  cases escape with
  | none =>
    simp [ofJson?, toJson, Json.ofFields, Json.record?, Json.single?, Kind.ofJson?_toJson,
      TokenValue.ofJson?_toJson, Position.ofJson?_toJson start, Position.ofJson?_toJson stop,
      Json.optional?]
  | some e =>
    have escape := Json.optional?_ofChar (some e)
    rw [Json.ofOption] at escape
    simp [ofJson?, toJson, Json.ofFields, Json.record?, Json.single?, Kind.ofJson?_toJson,
      TokenValue.ofJson?_toJson, Position.ofJson?_toJson start, Position.ofJson?_toJson stop,
      escape]

theorem plain_toJson (t : Token) : t.toJson.Plain := by
  refine Json.plain_ofFields ?_
  cases t.escape <;>
    simp [Kind.plain_toJson, TokenValue.plain_toJson, Position.plain_toJson, Json.plain_ofChar]

end Token

/-! ## Whole documents -/

/-- **The document of a position, a word or a token is read back as that position, word or
token.** -/
theorem documents_read_back :
    (∀ p : Position, p.Fits → (Json.parse? p.toJson.render).bind Position.ofJson? = some p) ∧
    (∀ w : Word, (Json.parse? w.toJson.render).bind Word.ofJson? = some w) ∧
    (∀ t : Token, t.start.Fits → t.stop.Fits →
      (Json.parse? t.toJson.render).bind Token.ofJson? = some t) := by
  refine ⟨fun p fits => ?_, fun w => ?_, fun t start stop => ?_⟩
  · rw [Json.parse?_render p.plain_toJson, Option.bind_some, Position.ofJson?_toJson fits]
  · rw [Json.parse?_render w.plain_toJson, Option.bind_some, Word.ofJson?_toJson]
  · rw [Json.parse?_render t.plain_toJson, Option.bind_some, Token.ofJson?_toJson start stop]

/-- A word of quotes, backslashes, control characters and a character outside the basic
plane, in a token with an escape that ends on the last line and column there are. -/
theorem documents_read_back_escaped :
    let last : Position := ⟨18446744073709551615, 18446744073709551615⟩
    let word : Word := ⟨"'\"\\\n\x01\x7f😀", some "SELECT", some '"'⟩
    let token : Token := ⟨⟨.nationalString, .word word, some '\\'⟩, .origin, last⟩
    Position.origin.Fits ∧ last.Fits ∧
      (Json.parse? last.toJson.render).bind Position.ofJson? = some last ∧
      (Json.parse? token.toJson.render).bind Token.ofJson? = some token :=
  have first : Position.origin.Fits := by decide
  have last : Position.Fits ⟨18446744073709551615, 18446744073709551615⟩ := by decide
  ⟨first, last, documents_read_back.1 _ last, documents_read_back.2.2 _ first last⟩

end SqlLex
