/-
# SqlLex.Token.Kind -- the kinds of tokens

Every piece of a SQL text has one of thirty kinds.  `Kind.name` is the name under
which a kind is written in messages and documents, and `ofName?` reads it back
(`ofName?_name`).  Punctuation and operators have a canonical `symbol`; for the
inequality, which has two spellings, it is `!=`.
-/

namespace SqlLex

set_option autoImplicit false

/-- What sort of piece a token is. -/
inductive Kind where
  | whitespace | comment
  | word | string | nationalString | number
  | leftParen | rightParen | leftBracket | rightBracket | leftBrace | rightBrace
  | comma | semicolon | colon | doubleColon | period
  | plus | minus | star | slash | percent
  | equal | notEqual | less | lessEqual | greater | greaterEqual
  | backslash | ampersand
deriving DecidableEq, Repr

namespace Kind

/-- Every kind. -/
def all : List Kind :=
  [.whitespace, .comment, .word, .string, .nationalString, .number,
   .leftParen, .rightParen, .leftBracket, .rightBracket, .leftBrace, .rightBrace,
   .comma, .semicolon, .colon, .doubleColon, .period,
   .plus, .minus, .star, .slash, .percent,
   .equal, .notEqual, .less, .lessEqual, .greater, .greaterEqual,
   .backslash, .ampersand]

/-- The name under which a kind is written. -/
def name : Kind → String
  | .whitespace => "Whitespace"
  | .comment => "Comment"
  | .word => "Word"
  | .string => "SingleQuotedString"
  | .nationalString => "NationalStringLiteral"
  | .number => "Number"
  | .leftParen => "LParen"
  | .rightParen => "RParen"
  | .leftBracket => "LBracket"
  | .rightBracket => "RBracket"
  | .leftBrace => "LBrace"
  | .rightBrace => "RBrace"
  | .comma => "Comma"
  | .semicolon => "Semicolon"
  | .colon => "Colon"
  | .doubleColon => "DoubleColon"
  | .period => "Period"
  | .plus => "Plus"
  | .minus => "Minus"
  | .star => "Mult"
  | .slash => "Div"
  | .percent => "Mod"
  | .equal => "Eq"
  | .notEqual => "Neq"
  | .less => "Lt"
  | .lessEqual => "LtEq"
  | .greater => "Gt"
  | .greaterEqual => "GtEq"
  | .backslash => "Backslash"
  | .ampersand => "Ampersand"

/-- The kind written under this name. -/
def ofName? (s : String) : Option Kind :=
  all.find? (fun k => k.name == s)

/-- The canonical spelling of punctuation and operators. -/
def symbol : Kind → Option String
  | .leftParen => some "("
  | .rightParen => some ")"
  | .leftBracket => some "["
  | .rightBracket => some "]"
  | .leftBrace => some "\x7b"
  | .rightBrace => some "\x7d"
  | .comma => some ","
  | .semicolon => some ";"
  | .colon => some ":"
  | .doubleColon => some "::"
  | .period => some "."
  | .plus => some "+"
  | .minus => some "-"
  | .star => some "*"
  | .slash => some "/"
  | .percent => some "%"
  | .equal => some "="
  | .notEqual => some "!="
  | .less => some "<"
  | .lessEqual => some "<="
  | .greater => some ">"
  | .greaterEqual => some ">="
  | .backslash => some "\\"
  | .ampersand => some "&"
  | .whitespace | .comment | .word | .string | .nationalString | .number => none

/-- The label of a kind: its symbol, or a word in capitals where it has none. -/
def label : Kind → String
  | .whitespace => "WHITESPACE"
  | .comment => "COMMENT"
  | .word => "WORD"
  | .string => "STRING"
  | .nationalString => "NATIONAL_STRING"
  | .number => "NUMBER"
  | kind => kind.symbol.getD ""

/-- Does the kind compute or compare, rather than separate? -/
def isOperator : Kind → Bool
  | .plus | .minus | .star | .slash | .percent
  | .equal | .notEqual | .less | .lessEqual | .greater | .greaterEqual
  | .backslash | .ampersand => true
  | _ => false

/-- Whitespace and comments carry no meaning. -/
def isTrivia : Kind → Bool
  | .whitespace | .comment => true
  | _ => false

theorem mem_all (k : Kind) : k ∈ all := by
  cases k <;> decide

theorem ofName?_name (k : Kind) : ofName? k.name = some k := by
  cases k <;> decide

end Kind

end SqlLex
