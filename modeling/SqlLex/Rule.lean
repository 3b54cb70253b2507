/-
# SqlLex.Rule -- the lexical rules

A lexeme is read in three steps.  `Rule.select` looks at most two characters
ahead and chooses the rule; `Rule.cut` takes the slice that the rule covers; and
`Rule.lexeme` says what the slice means.  The first two look at the source, the
third only at the slice.

The order of the questions in `Rule.select` decides between rules that could both
apply: whitespace, strings, national strings, quoted identifiers, bare words,
numbers, comments and last operators.  A rule begins with a fixed number of
characters (`Rule.head`), at least one, so a slice is never empty
(`Rule.taken_ne_nil`).
-/
import SqlLex.Cut
import SqlLex.Dialect
import SqlLex.Operator
import SqlLex.Token

namespace SqlLex

set_option autoImplicit false

/-- The categories of whitespace; a run does not mix them. -/
inductive Blank where
  | space
  | tab
  | lineBreak
deriving DecidableEq, Repr

namespace Blank

/-- The category of a character. -/
def of? (c : Char) : Option Blank :=
  if c = ' ' then some .space
  else if c = '\t' then some .tab
  else if c = '\n' ∨ c = '\r' then some .lineBreak
  else none

/-- Is the character of this category? -/
def holds (b : Blank) (c : Char) : Bool := of? c == some b

/-- Each line break, however spelled, as one line feed. -/
def unifyBreaks : List Char → List Char
  | [] => []
  | '\r' :: '\n' :: rest => '\n' :: unifyBreaks rest
  | '\r' :: rest => '\n' :: unifyBreaks rest
  | c :: rest => c :: unifyBreaks rest

end Blank

/-- The escape character of a dialect's string literals. -/
def Dialect.escape (d : Dialect) : Option Char :=
  if d.backslashEscapes then some Literal.escapeChar else none

/-- What sort of lexeme begins here. -/
inductive Rule where
  | whitespace (blank : Blank)
  | string (national : Bool)
  | quoted (opening : Char)
  | word
  | number
  | lineComment
  | blockComment
  | operator (o : Operator)
deriving DecidableEq, Repr

/-- A fault in reading, before it is given positions. -/
inductive Fault where
  | unterminated (construct : Enclosed)
  | invalidCharacter (c : Char)
  | source (e : Error)
deriving DecidableEq, Repr

/-- The outcome of choosing a rule. -/
inductive Choice where
  | rule (r : Rule)
  | finished
  | fault (f : Fault)
deriving DecidableEq, Repr

namespace Rule

/-! ## Choosing -/

/-- Chooses `r` if the second character is `expected`, and goes on asking if it is not. -/
def ifSecond (expected : Char) (r : Rule) (s : Source) (otherwise : Source → Choice × Source) :
    Choice × Source :=
  match s.peekNth 1 with
  | (.char c, after) => if c = expected then (.rule r, after) else otherwise after
  | (.nothing, after) => otherwise after
  | (.fail e, after) => (.fault (.source e), after)

/-- The longest operator, or none: then the character begins nothing. -/
def selectOperator (c : Char) (s : Source) : Choice × Source :=
  match s.peekNth 1 with
  | (.fail e, after) => (.fault (.source e), after)
  | (answer, after) =>
      match Operator.longest? c answer.char? with
      | some o => (.rule (.operator o), after)
      | none => (.fault (.invalidCharacter c), after)

/-- Words, numbers, comments and operators, in this order. -/
def selectWord (d : Dialect) (c : Char) (s : Source) : Choice × Source :=
  if d.opensQuoted c then (.rule (.quoted c), s)
  else if d.beginsWord c then (.rule .word, s)
  else if c.isDigit then (.rule .number, s)
  else if c = '-' then ifSecond '-' .lineComment s (selectOperator c)
  else if c = '/' then ifSecond '*' .blockComment s (selectOperator c)
  else selectOperator c s

/-- The rule of a lexeme that begins with `c`. -/
def selectAt (d : Dialect) (c : Char) (s : Source) : Choice × Source :=
  match Blank.of? c with
  | some blank => (.rule (.whitespace blank), s)
  | none =>
      if c = Literal.quote then (.rule (.string false), s)
      else if c = 'N' ∨ c = 'n' then ifSecond Literal.quote (.string true) s (selectWord d c)
      else selectWord d c s

/-- The rule of the next lexeme. -/
def select (d : Dialect) (s : Source) : Choice × Source :=
  match s.peek with
  | (.char c, after) => selectAt d c after
  | (.nothing, after) => (.finished, after)
  | (.fail e, after) => (.fault (.source e), after)

/-! ## Taking -/

/-- The number of characters that a rule takes without asking again. -/
def head : Rule → Nat
  | .whitespace _ | .string false | .quoted _ | .word | .number => 1
  | .string true | .lineComment | .blockComment => 2
  | .operator o => o.width

/-- What a rule takes behind its first characters. -/
def tail (d : Dialect) : Rule → Source → Cut
  | .whitespace blank => Source.takeWhile blank.holds
  | .string _ => Source.takeString d.backslashEscapes
  | .quoted opening => Source.takeThrough (Text.closing opening)
  | .word => Source.takeWhile d.continuesWord
  | .number => fun s => (s.takeWhile Char.isDigit).andThen Source.takeFraction
  | .lineComment => Source.takeWhile (fun c => !(c == '\n' || c == '\r'))
  | .blockComment => Source.takeComment
  | .operator _ => Cut.empty

/-- The slice of a rule. -/
def cut (d : Dialect) (r : Rule) (s : Source) : Cut :=
  (s.take r.head).andThen (r.tail d)

/-- The construct left open when the input ends inside the slice. -/
def construct : Rule → Option Enclosed
  | .string _ => some .string
  | .quoted _ => some .quotedIdentifier
  | .blockComment => some .comment
  | _ => none

/-! ## Meaning -/

/-- What the slice of a rule says. -/
def lexeme (d : Dialect) (r : Rule) (slice : List Char) : Lexeme :=
  match r with
  | .whitespace _ => ⟨.whitespace, .text (.ofList (Blank.unifyBreaks slice)), none⟩
  | .string national =>
      let body := (slice.drop r.head).dropLast
      ⟨if national then .nationalString else .string,
        .text (.ofList (Literal.decode d.backslashEscapes body)), d.escape⟩
  | .quoted opening =>
      ⟨.word, .word (d.classify (.ofList (slice.drop 1).dropLast) (some opening)), none⟩
  | .word => ⟨.word, .word (d.classify (.ofList slice) none), none⟩
  | .number => ⟨.number, .text (.ofList slice), none⟩
  | .lineComment => ⟨.comment, .text (.ofList (slice.drop 2)), none⟩
  | .blockComment => ⟨.comment, .text (.ofList (slice.drop 2).dropLast.dropLast), none⟩
  | .operator o => ⟨o.kind, .text (.ofList slice), none⟩

/-! ## A slice is never empty -/

theorem head_pos (r : Rule) : 0 < r.head := by
  unfold head
  split <;> first | decide | exact Operator.width_pos _

theorem within_tail (d : Dialect) (r : Rule) (s : Source) : (r.tail d s).Within s.size := by
  cases r with
  | whitespace blank => exact Source.within_takeWhile _ s
  | string national => exact Source.within_takeString _ s
  | quoted opening => exact Source.within_takeThrough _ s
  | word => exact Source.within_takeWhile _ s
  | number =>
    exact Cut.within_andThen (Source.within_takeWhile _ s) Source.within_takeFraction
  | lineComment => exact Source.within_takeWhile _ s
  | blockComment => exact Source.within_takeComment s
  | operator o => simp [tail, Cut.empty, Cut.Within]

theorem within_cut (d : Dialect) (r : Rule) (s : Source) : (r.cut d s).Within s.size :=
  Cut.within_andThen (Source.within_take _ s) (within_tail d r)

/-- A whole slice holds at least the characters that its rule begins with. -/
theorem taken_ne_nil {d : Dialect} {r : Rule} {s : Source} (h : (r.cut d s).stop = .complete) :
    (r.cut d s).taken ≠ [] := by
  have whole := Cut.stop_of_andThen h
  have long := Source.length_take whole
  have := head_pos r
  unfold cut
  rw [Cut.taken_andThen whole]
  intro none
  have : (s.take r.head).taken = [] := (List.append_eq_nil_iff.1 none).1
  simp_all

/-- A whole slice leaves the source shorter. -/
theorem size_cut_lt {d : Dialect} {r : Rule} {s : Source} (h : (r.cut d s).stop = .complete) :
    (r.cut d s).rest.size < s.size := by
  have bound := within_cut d r s
  have := List.length_pos_iff.2 (taken_ne_nil h)
  simp only [Cut.Within] at bound
  omega

theorem size_ifSecond {expected : Char} {r : Rule} {s : Source}
    {otherwise : Source → Choice × Source} (h : ∀ s, (otherwise s).2.size ≤ s.size) :
    (ifSecond expected r s otherwise).2.size ≤ s.size := by
  have bound := Source.size_peekNth 1 s
  unfold ifSecond
  split
  · next c after seen =>
    rw [seen] at bound
    split
    · exact bound
    · exact Nat.le_trans (h after) bound
  · next after seen => rw [seen] at bound; exact Nat.le_trans (h after) bound
  · next e after seen => rw [seen] at bound; exact bound

theorem size_selectOperator (c : Char) (s : Source) : (selectOperator c s).2.size ≤ s.size := by
  have bound := Source.size_peekNth 1 s
  unfold selectOperator
  split
  · next e after seen => rw [seen] at bound; exact bound
  · next answer after differs seen =>
    rw [seen] at bound
    split <;> exact bound

theorem size_selectWord (d : Dialect) (c : Char) (s : Source) :
    (selectWord d c s).2.size ≤ s.size := by
  have operator := size_selectOperator c
  unfold selectWord
  repeat' split
  all_goals first
    | exact Nat.le_refl _
    | exact size_ifSecond operator
    | exact operator s

theorem size_selectAt (d : Dialect) (c : Char) (s : Source) :
    (selectAt d c s).2.size ≤ s.size := by
  have word := size_selectWord d c
  unfold selectAt
  repeat' split
  all_goals first
    | exact Nat.le_refl _
    | exact size_ifSecond word
    | exact word s

/-- Choosing never makes a source longer. -/
theorem size_select (d : Dialect) (s : Source) : (select d s).2.size ≤ s.size := by
  have bound := Source.size_peekNth 0 s
  rw [show s.peekNth 0 = s.peek from rfl] at bound
  unfold select
  split
  · next c after seen => rw [seen] at bound; exact Nat.le_trans (size_selectAt d c after) bound
  · next after seen => rw [seen] at bound; exact bound
  · next e after seen => rw [seen] at bound; exact bound

end Rule

end SqlLex
