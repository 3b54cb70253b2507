/-
# SqlLex.Token -- tokens and what they say

A `Lexeme` is what a slice of text says: its kind, its value and, for a string
read by a dialect with escapes, the escape character.  A `Token` is a lexeme
together with the positions before and behind its slice.

`Lexeme.text` writes a lexeme the way SQL spells it.  Quotes come back around
strings and quoted words, a comment comes back without its delimiters, and all
else is its value.  `Token.describe` is the line shown to a person.
-/
import SqlLex.Dialect
import SqlLex.Position
import SqlLex.Text.Ascii
import SqlLex.Text.Closing
import SqlLex.Text.Quoted
import SqlLex.Token.Kind
import SqlLex.Token.Literal

namespace SqlLex

set_option autoImplicit false

/-- An identifier or reserved word. -/
structure Word where
  /-- The word as written, in its letter case, without quotes. -/
  value : String
  /-- The canonical spelling, if the word is reserved. -/
  keyword : Option String
  /-- The opening quote, if the word was quoted. -/
  quote : Option Char
deriving DecidableEq, Repr

namespace Word

/-- Is the word reserved? -/
def isKeyword (w : Word) : Bool := w.keyword.isSome

/-- Was the word quoted? -/
def isQuoted (w : Word) : Bool := w.quote.isSome

/-- The word in its quotes, if it had any. -/
def text (w : Word) : String :=
  match w.quote with
  | some opening =>
      String.ofList (opening :: (w.value.toList ++ [Text.closing opening]))
  | none => w.value

end Word

/-- What a token stands for: a word, or the text of anything else. -/
inductive TokenValue where
  | text (s : String)
  | word (w : Word)
deriving DecidableEq, Repr

namespace TokenValue

/-- The characters of a value. -/
def asString : TokenValue → String
  | .text s => s
  | .word w => w.value

/-- The word, if the value is one. -/
def asWord : TokenValue → Option Word
  | .text _ => none
  | .word w => some w

end TokenValue

/-- What a slice of text says, wherever it stands. -/
structure Lexeme where
  kind : Kind
  value : TokenValue
  /-- The escape character with which a string was read. -/
  escape : Option Char := none
deriving DecidableEq, Repr

namespace Lexeme

/-- Is the lexeme the reserved word `keyword`, whatever the letter case? -/
def isKeyword (x : Lexeme) (keyword : String) : Bool :=
  match x.value.asWord.bind Word.keyword with
  | some own => Text.sameUpToCase own keyword
  | none => false

/-- Whitespace or a comment? -/
def isTrivia (x : Lexeme) : Bool := x.kind.isTrivia

/-- A string literal with the given opening and body. -/
def enclose (opening : List Char) (escape : Option Char) (s : String) : String :=
  String.ofList (opening ++ Literal.encode escape s.toList ++ [Literal.quote])

/-- The lexeme as SQL spells it. -/
def text (x : Lexeme) : String :=
  match x.kind, x.value with
  | _, .word w => w.text
  | .string, .text s => enclose [Literal.quote] x.escape s
  | .nationalString, .text s => enclose ['N', Literal.quote] x.escape s
  | _, .text s => s

end Lexeme

/-- A lexeme and the positions before and behind its slice. -/
structure Token extends Lexeme where
  start : Position
  stop : Position
deriving DecidableEq, Repr

namespace Token

/-- Kind, quoted value and positions, on one line. -/
def describe (t : Token) : String :=
  t.kind.name ++ "(" ++ Text.quoted t.value.asString ++ ") at "
    ++ t.start.text ++ "-" ++ t.stop.text

/-- The texts of the tokens with nothing between. -/
def render (tokens : List Token) : String :=
  String.join (tokens.map (fun t => t.toLexeme.text))

end Token

/-- The word that a dialect makes of a text: reserved if the dialect says so of its upper case,
quoted or not. -/
def Dialect.classify (d : Dialect) (value : String) (quote : Option Char) : Word where
  value := value
  keyword := d.reserved (Text.upper value)
  quote := quote

end SqlLex
