/-
# SqlLex.Tokenizer -- tokens with positions

A tokenizer holds a dialect, a source, the cursor behind the characters taken so
far, and whether it is done.  `next` reads one token and `tokenize` reads all the
rest; both answer with the tokenizer that goes on from there.

A tokenizer is done once its source has answered nothing where a token would
begin, or once reading has failed.  From then on it answers no token, reads
nothing and keeps its position (`next_of_done`, `tokenize_of_done`).
-/
import SqlLex.Cursor
import SqlLex.Scan

namespace SqlLex

set_option autoImplicit false
set_option linter.unusedVariables false

/-- The error that a fault is, for a lexeme that begins at `start` and with `stop` behind what was
taken. -/
def Fault.error (start stop : Position) : Fault → Error
  | .unterminated construct => .unterminated construct start stop
  | .invalidCharacter c => .invalidCharacter c start
  | .source e => e

/-- A reader of tokens. -/
structure Tokenizer where
  dialect : Dialect
  source : Source
  cursor : Cursor := .start
  done : Bool := false

namespace Tokenizer

/-- A tokenizer at the beginning of a source. -/
def ofSource (d : Dialect) (s : Source) : Tokenizer := ⟨d, s, .start, false⟩

/-- A tokenizer at the beginning of a text. -/
def ofString (d : Dialect) (s : String) : Tokenizer := ofSource d (.ofString s)

/-- The position behind the characters taken so far. -/
def position (t : Tokenizer) : Position := t.cursor.position

/-- Reads one token, or answers that there is none. -/
def next (t : Tokenizer) : Except Error (Option Token) × Tokenizer :=
  if t.done then (.ok none, t)
  else
    let scan := t.source.scan t.dialect
    let cursor := t.cursor.advanceAll scan.taken
    match scan.finding with
    | .lexeme x =>
        (.ok (some ⟨x, t.position, cursor.position⟩), ⟨t.dialect, scan.rest, cursor, false⟩)
    | .finished => (.ok none, ⟨t.dialect, scan.rest, cursor, true⟩)
    | .fault f =>
        (.error (f.error t.position cursor.position), ⟨t.dialect, scan.rest, cursor, true⟩)

/-- Reading a token leaves the source shorter. -/
theorem size_lt_of_next {t after : Tokenizer} {token : Token}
    (h : t.next = (.ok (some token), after)) : after.source.size < t.source.size := by
  unfold next at h
  split at h
  · simp at h
  · dsimp only at h
    split at h
    · next x found =>
      simp only [Prod.mk.injEq] at h
      rw [← h.2]
      exact Source.size_scan_lt found
    · simp at h
    · simp at h

/-- The loop of `tokenize`; `seen` holds the tokens read, the last first. -/
def tokenizeFrom (seen : List Token) (t : Tokenizer) : Except Failure (List Token) × Tokenizer :=
  match h : t.next with
  | (.ok (some token), after) => tokenizeFrom (token :: seen) after
  | (.ok none, after) => (.ok seen.reverse, after)
  | (.error e, after) => (.error ⟨e, seen.reverse⟩, after)
termination_by t.source.size
decreasing_by exact size_lt_of_next h

/-- Reads all tokens that are left. -/
def tokenize (t : Tokenizer) : Except Failure (List Token) × Tokenizer := tokenizeFrom [] t

/-- The tokens read, whether or not reading failed behind them. -/
def tokensOf : Except Failure (List Token) → List Token
  | .ok tokens => tokens
  | .error failure => failure.tokens

/-- All tokens, or the error that came before the end. -/
def collect (t : Tokenizer) : Except Error (List Token) :=
  match t.tokenize.1 with
  | .ok tokens => .ok tokens
  | .error failure => .error failure.error

/-! ## A tokenizer that is done -/

theorem next_of_done {t : Tokenizer} (h : t.done = true) : t.next = (.ok none, t) := by
  simp [next, h]

theorem tokenize_of_done {t : Tokenizer} (h : t.done = true) : t.tokenize = (.ok [], t) := by
  unfold tokenize tokenizeFrom
  split <;> simp_all [next_of_done h]

end Tokenizer

end SqlLex
