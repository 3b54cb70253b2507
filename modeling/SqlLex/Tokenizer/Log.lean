/-
# SqlLex.Tokenizer.Log -- the record of a run

A run of `Tokenizer.tokenize` is recorded as lines: one when it begins, one per
token in detail, and one when it ends, which says how many tokens there are and
where reading stopped, and, if it failed, why.
-/
import SqlLex.Tokenizer

namespace SqlLex

set_option autoImplicit false

/-- How much detail a line belongs to. -/
inductive LogLevel where
  | debug
  | trace
deriving DecidableEq, Repr

namespace LogLevel

/-- The label of a level. -/
def label : LogLevel → String
  | .debug => "DEBUG"
  | .trace => "TRACE"

end LogLevel

/-- A line of the record. -/
structure LogLine where
  level : LogLevel
  message : String
deriving DecidableEq, Repr

namespace LogLine

/-- The line that opens a run. -/
def opening (d : Dialect) : LogLine :=
  ⟨.debug, "Начало токенизации (диалект: " ++ d.name ++ ")"⟩

/-- The line of a token. -/
def ofToken (t : Token) : LogLine := ⟨.trace, t.describe⟩

/-- The line that closes a run which stopped at `stop`. -/
def closing (stop : Position) : Except Failure (List Token) → LogLine
  | .ok tokens =>
      ⟨.debug, "Токенизация завершена: " ++ toString tokens.length
        ++ " токенов, конечная позиция " ++ stop.text⟩
  | .error failure =>
      ⟨.debug, "Токенизация остановлена на " ++ stop.text ++ ": " ++ failure.error.message
        ++ " (разобрано токенов: " ++ toString failure.tokens.length ++ ")"⟩

end LogLine

/-- The record of reading all tokens that are left. -/
def Tokenizer.record (t : Tokenizer) : List LogLine :=
  let (result, after) := t.tokenize
  LogLine.opening t.dialect ::
    ((tokensOf result).map LogLine.ofToken ++ [LogLine.closing after.position result])

end SqlLex
