/-
# SqlLex.Error -- why reading stopped

An `Error` is a cause: a construct left open at the end of the input, a character
that begins nothing, a failed read, or a configuration that names no dialect.
The first two are lexical and have a position.  `Error.message` is the wording.

A `Failure` is an error that ended a run, with the tokens read before it.
-/
import SqlLex.Token

namespace SqlLex

set_option autoImplicit false

/-- A construct that must be closed before the input ends. -/
inductive Enclosed where
  | string
  | comment
  | quotedIdentifier
deriving DecidableEq, Repr

namespace Enclosed

/-- The construct in words. -/
def description : Enclosed → String
  | .string => "string literal"
  | .comment => "block comment"
  | .quotedIdentifier => "quoted identifier"

end Enclosed

/-- Why reading stopped. -/
inductive Error where
  /-- The input ended at `stop` inside a construct begun at `start`. -/
  | unterminated (construct : Enclosed) (start stop : Position)
  /-- No rule begins with this character. -/
  | invalidCharacter (c : Char) (position : Position)
  /-- The input could not be read. -/
  | io (reason : String)
  /-- The configuration cannot be used. -/
  | configuration (reason : String)
deriving DecidableEq, Repr

namespace Error

/-- The wording of an error. -/
def message : Error → String
  | .unterminated construct start stop =>
      "unterminated " ++ construct.description ++ " starting at " ++ start.text
        ++ " (input ended at " ++ stop.text ++ ")"
  | .invalidCharacter c position =>
      "invalid character " ++ Text.quotedChar c ++ " at " ++ position.text
  | .io reason => "I/O error: " ++ reason
  | .configuration reason => "Configuration error: " ++ reason

/-- Where reading stopped, for an error in the text itself. -/
def position : Error → Option Position
  | .unterminated _ _ stop => some stop
  | .invalidCharacter _ position => some position
  | .io _ | .configuration _ => none

/-- Is the fault in the text, rather than in reading or configuring? -/
def isLexical (e : Error) : Bool := e.position.isSome

/-- The wording of the fault underneath: only a failed read has one. -/
def underlying : Error → Option String
  | .io reason => some reason
  | _ => none

end Error

/-- An error that ended a run, and the tokens read before it. -/
structure Failure where
  error : Error
  tokens : List Token
deriving DecidableEq, Repr

namespace Failure

/-- The error and the number of tokens read before it, in words. -/
def summary (f : Failure) : String :=
  f.error.message ++ " (" ++ toString f.tokens.length ++ " tokens scanned before failure)"

end Failure

end SqlLex
