/-
# SqlLex.Json.Symbol -- documents as symbols

Between characters and values stand symbols: the six punctuation marks and the
values that hold no others.  A value is written as the symbols of `Json.symbols`,
and a document is the texts of its symbols with nothing between
(`Json.render`).  Reading goes the same way back: `Symbol.ofChars?` splits
a document into symbols, passing over blanks.
-/
import SqlLex.Json
import SqlLex.Json.Text

namespace SqlLex.Json

set_option autoImplicit false

/-- A punctuation mark, or a value that holds no others. -/
inductive Symbol where
  | openBrace | closeBrace
  | openBracket | closeBracket
  | colon | comma
  | scalar (v : Json)
deriving Repr

/-! ## Numbers -/

/-- The digits at the front, and what stands behind them. -/
def splitDigits (cs : List Char) : List Char × List Char :=
  (cs.takeWhile Char.isDigit, cs.dropWhile Char.isDigit)

/-- The number that decimal digits spell. -/
def decimal (digits : List Char) : Nat :=
  digits.foldl (fun n c => 10 * n + (c.toNat - '0'.toNat)) 0

/-- Are these the digits of a whole part: at least one, and no zero in front of others? -/
def isWhole : List Char → Bool
  | [] => false
  | ['0'] => true
  | c :: rest => c.isDigit && c != '0' && rest.all Char.isDigit

/-- Is this nothing, or an exponent? -/
def isExponent : List Char → Bool
  | [] => true
  | e :: rest =>
      let digits := match rest with
        | '+' :: digits | '-' :: digits => digits
        | digits => digits
      (e == 'e' || e == 'E') && !digits.isEmpty && digits.all Char.isDigit

/-- Is this nothing, a fraction, an exponent or both? -/
def isFraction : List Char → Bool
  | '.' :: rest =>
      let (digits, behind) := splitDigits rest
      !digits.isEmpty && isExponent behind
  | rest => isExponent rest

/-- The number that a literal spells. -/
def ofLiteral? (literal : List Char) : Option Json :=
  if isWhole literal then some (.natural (decimal literal))
  else
    let unsigned := match literal with
      | '-' :: rest => rest
      | rest => rest
    let (whole, behind) := splitDigits unsigned
    if isWhole whole && isFraction behind then some (.number (.ofList literal)) else none

/-- The characters that numbers are made of. -/
def inNumber (c : Char) : Bool :=
  c.isDigit || c == '-' || c == '+' || c == '.' || c == 'e' || c == 'E'

/-! ## Splitting a document -/

/-- The characters that may stand between symbols. -/
def isGap (c : Char) : Bool := c == ' ' || c == '\t' || c == '\n' || c == '\r'

/-- The punctuation mark that a character is. -/
def Symbol.ofMark? : Char → Option Symbol
  | '\x7b' => some .openBrace
  | '\x7d' => some .closeBrace
  | '[' => some .openBracket
  | ']' => some .closeBracket
  | ':' => some .colon
  | ',' => some .comma
  | _ => none

/-- The first symbol of a list that begins with one, and what stands behind it. -/
def Symbol.first? : List Char → Option (Symbol × List Char)
  | [] => none
  | '"' :: rest =>
      (Text.read? rest).map fun (pieces, after) =>
        (.scalar (.string ((Text.join? pieces).map String.ofList)), after)
  | 't' :: 'r' :: 'u' :: 'e' :: rest => some (.scalar (.boolean true), rest)
  | 'f' :: 'a' :: 'l' :: 's' :: 'e' :: rest => some (.scalar (.boolean false), rest)
  | 'n' :: 'u' :: 'l' :: 'l' :: rest => some (.scalar .null, rest)
  | c :: rest =>
      match ofMark? c with
      | some mark => some (mark, rest)
      | none =>
          if c.isDigit || c == '-' then
            (ofLiteral? (c :: rest.takeWhile inNumber)).map fun v =>
              (.scalar v, rest.dropWhile inNumber)
          else none

theorem Symbol.length_of_first? {cs after : List Char} {x : Symbol}
    (h : first? cs = some (x, after)) : after.length < cs.length := by
  unfold first? at h
  split at h
  · simp at h
  · simp only [Option.map_eq_some_iff, Prod.mk.injEq, Prod.exists] at h
    obtain ⟨pieces, behind, read, -, rfl⟩ := h
    have := Text.length_of_read? read
    simp only [List.length_cons]
    omega
  · cases h; simp only [List.length_cons]; omega
  · cases h; simp only [List.length_cons]; omega
  · cases h; simp only [List.length_cons]; omega
  · split at h
    · cases h; simp
    · split at h
      · simp only [Option.map_eq_some_iff, Prod.mk.injEq] at h
        obtain ⟨v, -, -, rfl⟩ := h
        exact Nat.lt_succ_of_le (List.dropWhile_suffix inNumber).length_le
      · simp at h

/-- The symbols of a document. -/
def Symbol.ofChars? (cs : List Char) : Option (List Symbol) :=
  match cs with
  | [] => some []
  | c :: rest =>
      if isGap c then ofChars? rest
      else
        match _h : first? (c :: rest) with
        | some (x, after) => (ofChars? after).map (x :: ·)
        | none => none
termination_by cs.length
decreasing_by
  · simp
  · exact length_of_first? _h

/-! ## Writing a document -/

/-- The text of a symbol. -/
def Symbol.text : Symbol → List Char
  | .openBrace => ['\x7b']
  | .closeBrace => ['\x7d']
  | .openBracket => ['[']
  | .closeBracket => [']']
  | .colon => [':']
  | .comma => [',']
  | .scalar (.boolean true) => "true".toList
  | .scalar (.boolean false) => "false".toList
  | .scalar (.natural n) => Nat.toDigits 10 n
  | .scalar (.number literal) => literal.toList
  | .scalar (.string (some text)) => Text.spell text.toList
  | .scalar (.string none) => "\"\\ud800\"".toList
  | .scalar _ => "null".toList

mutual

/-- The symbols that write a value. -/
def symbols : Json → List Symbol
  | .array elems => .openBracket :: (elementSymbols elems ++ [.closeBracket])
  | .object fields => .openBrace :: (fieldSymbols fields ++ [.closeBrace])
  | v => [.scalar v]

/-- The symbols of elements with commas between. -/
def elementSymbols : List Json → List Symbol
  | [] => []
  | [v] => symbols v
  | v :: rest => symbols v ++ .comma :: elementSymbols rest

/-- The symbols of fields with commas between. -/
def fieldSymbols : List (Option String × Json) → List Symbol
  | [] => []
  | [(name, v)] => .scalar (.string name) :: .colon :: symbols v
  | (name, v) :: rest =>
      .scalar (.string name) :: .colon :: (symbols v ++ .comma :: fieldSymbols rest)

end

/-- The document that writes a value. -/
def render (v : Json) : String :=
  .ofList (v.symbols.flatMap Symbol.text)

end SqlLex.Json
