/-
# SqlLex.Proofs.Lines -- a position counts line breaks and columns

A cursor sees one character at a time and decides by a single bit whether a line feed
begins a line or belongs to the return in front of it.  A text as a whole has line
breaks, of which a return with its line feed is one (`Text.lineBreaks`), and a line
behind the last of them (`Text.lastLine`).  The two readings agree: the line of a
position counts the breaks in front of it, and its column is the width of the line
that the last break began (`Cursor.position_advanceAll`).

The induction follows the breaks of the text, so it needs a cursor that does not stand
inside one: behind a return no line feed may follow (`Cursor.Apart`).

Each character adds at most one line or `tabWidth` columns (`Cursor.line_le`,
`Cursor.column_le`), so counters of 64 bits never overflow on a text of fewer than 2^62
characters (`Cursor.foldlM_advance?`).
-/
import Mathlib
import SqlLex.Proofs.Ascending
import SqlLex.Proofs.Contiguity

namespace SqlLex

set_option autoImplicit false

/-! ## The lines of a text -/

namespace Text

/-- The number of line breaks: a return with the line feed behind it, a return alone or a line feed
alone. -/
def lineBreaks : List Char → Nat
  | [] => 0
  | '\r' :: '\n' :: cs => lineBreaks cs + 1
  | '\r' :: cs => lineBreaks cs + 1
  | '\n' :: cs => lineBreaks cs + 1
  | _ :: cs => lineBreaks cs

/-- Does the character end a line? -/
def endsLine (c : Char) : Bool := c == '\n' || c == '\r'

/-- The characters behind the last line break. -/
def lastLine (cs : List Char) : List Char := cs.rtakeWhile fun c => !endsLine c

/-- The columns of a run of characters: four for a tab, one for any other character. -/
def width (cs : List Char) : Nat := (cs.map fun c => if c = '\t' then 4 else 1).sum

variable {c : Char} {u cs : List Char}

/-- What stands in front of a line break is not of the last line. -/
theorem lastLine_append_cons (breaks : endsLine c = true) :
    lastLine (u ++ c :: cs) = lastLine cs := by
  have stops : ∀ w : List Char, (c :: w).takeWhile (fun c => !endsLine c) = [] := by
    simp [breaks]
  rw [lastLine, lastLine, List.rtakeWhile, List.rtakeWhile, List.reverse_append, List.reverse_cons,
    List.append_assoc, List.singleton_append, List.takeWhile_append, stops, List.append_nil]
  split
  · next whole => rw [(List.takeWhile_prefix _).eq_of_length whole]
  · rfl

/-- A text without line breaks is its last line. -/
theorem lastLine_of_plain (plain : cs.any endsLine = false) : lastLine cs = cs := by
  rw [lastLine, List.rtakeWhile_eq_self_iff]
  intro c mem
  simpa using List.any_eq_false.1 plain c mem

theorem lastLine_cons (plain : endsLine c = false) :
    lastLine (c :: cs) = if cs.any endsLine then lastLine cs else c :: lastLine cs := by
  split
  · next broken =>
    obtain ⟨e, mem, breaks⟩ := List.any_eq_true.1 broken
    obtain ⟨front, back, rfl⟩ := List.append_of_mem mem
    rw [← List.cons_append, lastLine_append_cons breaks, lastLine_append_cons breaks]
  · next whole =>
    have none : cs.any endsLine = false := by simpa using whole
    rw [lastLine_of_plain none, lastLine_of_plain]
    simp [plain, none]

end Text

/-! ## The position behind a text -/

namespace Cursor

open Text

variable {k : Cursor} {c : Char} {cs : List Char}

/-- A break begins a line, unless it is the line feed of one that has begun. -/
theorem advance_break (breaks : endsLine c = true) (apart : k.Apart (c :: cs)) :
    k.advance c = ⟨⟨k.position.line + 1, 0⟩, c == '\r'⟩ := by
  have noFeed : ¬ (c = '\n' ∧ k.afterReturn = true) := by
    rintro ⟨rfl, on⟩
    exact apart on rfl
  have either : c = '\n' ∨ c = '\r' := by simpa [endsLine] using breaks
  simp only [advance, if_neg noFeed, if_pos either]

/-- The cursor is moved by the same columns. -/
theorem visualWidth_eq (c : Char) : visualWidth c = if c = '\t' then 4 else 1 := rfl

theorem advance_plain (plain : endsLine c = false) :
    k.advance c = ⟨⟨k.position.line, k.position.column + visualWidth c⟩, false⟩ := by
  obtain ⟨noFeed, noReturn⟩ : c ≠ '\n' ∧ c ≠ '\r' := by simpa [endsLine] using plain
  simp [advance, noFeed, noReturn]

/-- **The line counts the breaks, and the column is the width of the last line**, which goes on the
line of the cursor if there is no break. -/
theorem position_advanceAll (apart : k.Apart cs) :
    (k.advanceAll cs).position =
      ⟨k.position.line + lineBreaks cs,
        (if cs.any endsLine then 0 else k.position.column) + width (lastLine cs)⟩ := by
  have off : ∀ {p : Position} {w : List Char}, Apart ⟨p, false⟩ w := nofun
  induction cs using lineBreaks.induct generalizing k with
  | case1 => simp [lineBreaks, lastLine, width]
  | case2 cs ih =>
      -- the return begins the line and its line feed stays there
      have moved : (k.advance '\r').advance '\n' = ⟨⟨k.position.line + 1, 0⟩, false⟩ := by
        rw [advance_break rfl apart]
        simp [advance]
      have last : lastLine ('\r' :: '\n' :: cs) = lastLine cs :=
        lastLine_append_cons (u := ['\r']) rfl
      rw [advanceAll_cons, advanceAll_cons, moved, ih off, last, lineBreaks]
      simp [endsLine, Nat.add_assoc, Nat.add_comm]
  | case3 cs noFeed ih =>
      have last : lastLine ('\r' :: cs) = lastLine cs := lastLine_append_cons (u := []) rfl
      have behind : Apart ⟨⟨k.position.line + 1, 0⟩, true⟩ cs := by
        intro _ front
        obtain ⟨rest, rfl⟩ := List.head?_eq_some_iff.1 front
        exact noFeed rest rfl
      rw [advanceAll_cons, advance_break rfl apart, beq_self_eq_true, ih behind, last,
        lineBreaks.eq_3 _ noFeed]
      simp [endsLine, Nat.add_assoc, Nat.add_comm]
  | case4 cs ih =>
      have last : lastLine ('\n' :: cs) = lastLine cs := lastLine_append_cons (u := []) rfl
      rw [advanceAll_cons, advance_break rfl apart, show ('\n' == '\r') = false from rfl, ih off,
        last, lineBreaks]
      simp [endsLine, Nat.add_assoc, Nat.add_comm]
  | case5 c cs torn noReturn noFeed ih =>
      have plain : endsLine c = false := by
        simp only [endsLine, Bool.or_eq_false_iff, beq_eq_false_iff_ne]
        exact ⟨noFeed, noReturn⟩
      rw [advanceAll_cons, advance_plain plain, ih off, lastLine_cons plain,
        lineBreaks.eq_5 _ _ torn noReturn noFeed, List.any_cons, plain, Bool.false_or]
      by_cases broken : cs.any endsLine
      · simp [broken]
      · simp [broken, width, visualWidth_eq, Nat.add_assoc]

/-- A cursor stands behind a return exactly if a return is the last character. -/
theorem afterReturn_advanceAll : (start.advanceAll cs).afterReturn = true ↔ '\r' ∈ cs.getLast? := by
  refine ⟨fun on => last_of_afterReturn ?_ on, fun last => ?_⟩
  · rintro rfl
    cases on
  · obtain ⟨front, rfl⟩ := List.getLast?_eq_some_iff.1 last
    simp [advanceAll_append, advance]

/-- **A character keeps the position exactly if it is the line feed of a return.** -/
theorem position_advance_eq_iff :
    k.position = (k.advance c).position ↔ c = '\n' ∧ k.afterReturn = true := by
  constructor
  · intro same
    by_contra other
    have apart : k.Apart [c] := fun on front => other ⟨by simpa using front, on⟩
    exact Position.not_le_of_lt (lt_advance apart) (same ▸ Position.le_refl _)
  · rintro ⟨rfl, on⟩
    exact (position_advance_lineFeed on).symm

/-! ## Counters of 64 bits -/

theorem visualWidth_le (c : Char) : visualWidth c ≤ tabWidth := by
  unfold visualWidth
  split <;> decide

theorem line_advance_le (k : Cursor) (c : Char) :
    (k.advance c).position.line ≤ k.position.line + 1 := by
  simp only [advance]
  split
  · omega
  · split <;> simp

theorem column_advance_le (k : Cursor) (c : Char) :
    (k.advance c).position.column ≤ k.position.column + tabWidth := by
  have wide := visualWidth_le c
  simp only [advance]
  split
  · omega
  · split
    · simp
    · simp only
      omega

/-- A character adds at most one line. -/
theorem line_le (k : Cursor) (cs : List Char) :
    (k.advanceAll cs).position.line ≤ k.position.line + cs.length := by
  induction cs generalizing k with
  | nil => simp
  | cons c cs ih =>
      have step := k.line_advance_le c
      have rest := ih (k.advance c)
      rw [advanceAll_cons, List.length_cons]
      omega

/-- A character adds at most the columns of a tab. -/
theorem column_le (k : Cursor) (cs : List Char) :
    (k.advanceAll cs).position.column ≤ k.position.column + tabWidth * cs.length := by
  induction cs generalizing k with
  | nil => simp
  | cons c cs ih =>
      have step := k.column_advance_le c
      have rest := ih (k.advance c)
      rw [advanceAll_cons, List.length_cons, Nat.mul_succ]
      omega

/-- The sum of two counters, if 64 bits hold it. -/
def add? (a b : Nat) : Option Nat := if a + b < 2 ^ 64 then some (a + b) else none

/-- The cursor behind one more character, with counters of 64 bits: nothing where an addition
overflows. -/
def advance? (k : Cursor) (c : Char) : Option Cursor :=
  if c = '\n' ∧ k.afterReturn = true then some ⟨k.position, false⟩
  else if c = '\n' ∨ c = '\r' then
    (add? k.position.line 1).map fun line => ⟨⟨line, 0⟩, c == '\r'⟩
  else
    (add? k.position.column (visualWidth c)).map fun column =>
      ⟨⟨k.position.line, column⟩, c == '\r'⟩

/-- Where the position fits in 64 bits, no addition overflows on the way there. -/
theorem advance?_eq_some (line : (k.advance c).position.line < 2 ^ 64)
    (column : (k.advance c).position.column < 2 ^ 64) : k.advance? c = some (k.advance c) := by
  unfold advance advance? add? at *
  by_cases feed : c = '\n' ∧ k.afterReturn = true
  · simp [feed]
  · by_cases breaks : c = '\n' ∨ c = '\r'
    · simp only [if_neg feed, if_pos breaks] at line ⊢
      rw [if_pos line]
      rfl
    · simp only [if_neg feed, if_neg breaks] at column ⊢
      rw [if_pos column]
      rfl

/-- **No addition overflows** as long as the text is short enough for its positions to fit. -/
theorem foldlM_advance? (line : k.position.line + cs.length < 2 ^ 64)
    (column : k.position.column + tabWidth * cs.length < 2 ^ 64) :
    cs.foldlM advance? k = some (k.advanceAll cs) := by
  induction cs generalizing k with
  | nil => rfl
  | cons c cs ih =>
      have lines := k.line_advance_le c
      have columns := k.column_advance_le c
      rw [List.length_cons] at line
      rw [List.length_cons, Nat.mul_succ] at column
      have first : k.advance? c = some (k.advance c) :=
        advance?_eq_some (by omega) (by omega)
      rw [List.foldlM_cons, first, advanceAll_cons]
      exact ih (by omega) (by omega)

end Cursor

/-- **The position behind a text counts its lines and columns.**  The line is one more than the number
of line breaks, and the column is the width of the last line.  The cursor is the same however the
text is cut into pieces.  Along the text the position never decreases, and a character keeps it
exactly if it is a line feed right behind a return.  Lines and columns are bounded by the length of
the text, so that counters of 64 bits hold them for every text of fewer than 2^62 characters, and no
addition overflows on the way. -/
theorem position_counts_lines (s : String) :
    Cursor.behind s.toList =
        ⟨1 + Text.lineBreaks s.toList, Text.width (Text.lastLine s.toList)⟩ ∧
      (∀ pieces : List (List Char), pieces.flatten = s.toList →
        pieces.foldl Cursor.advanceAll .start = Cursor.start.advanceAll s.toList) ∧
      (∀ (before after : List Char) (c : Char), s.toList = before ++ c :: after →
        Cursor.behind before ≤ Cursor.behind (before ++ [c]) ∧
          (Cursor.behind before = Cursor.behind (before ++ [c]) ↔
            c = '\n' ∧ '\r' ∈ before.getLast?)) ∧
      (Cursor.behind s.toList).line ≤ 1 + s.length ∧
      (Cursor.behind s.toList).column ≤ 4 * s.length ∧
      (s.length < 2 ^ 62 →
        s.toList.foldlM Cursor.advance? .start = some (Cursor.start.advanceAll s.toList)) := by
  let k := Cursor.start.advanceAll s.toList
  have fresh : Cursor.start.Apart s.toList := nofun
  have size : s.toList.length = s.length := String.length_toList
  have lines : k.position.line ≤ Cursor.start.position.line + s.toList.length :=
    Cursor.line_le _ _
  have columns : k.position.column ≤ Cursor.start.position.column + tabWidth * s.toList.length :=
    Cursor.column_le _ _
  refine ⟨?_, ?_, ?_, size ▸ lines, ?_, ?_⟩
  · rw [Cursor.behind, Cursor.position_advanceAll fresh]
    simp [Cursor.start, Position.origin]
  · intro pieces whole
    rw [← whole]
    exact List.foldl_flatten.symm
  · intro before after c _
    rw [Cursor.behind, Cursor.behind, Cursor.advanceAll_append, ← Cursor.afterReturn_advanceAll]
    exact ⟨Cursor.le_advance _ c, Cursor.position_advance_eq_iff⟩
  · simpa [Cursor.behind, k, Cursor.start, Position.origin, size, tabWidth] using columns
  · intro short
    apply Cursor.foldlM_advance?
    · simp only [Cursor.start, Position.origin, size]
      omega
    · simp only [Cursor.start, Position.origin, size, tabWidth]
      omega

/-- Two returns, the second with its line feed, a tab and a letter, fed in pieces that cut the line
feed off. -/
theorem position_counts_lines_torn :
    let s := "a\r\r\n\tb"
    let pieces := [['a', '\r', '\r'], [], ['\n', '\t'], ['b']]
    let k := Cursor.start.advanceAll s.toList
    pieces.flatten = s.toList ∧ s.toList = ['a', '\r', '\r'] ++ '\n' :: ['\t', 'b'] ∧
      s.length < 2 ^ 62 ∧ k.position = ⟨3, 5⟩ ∧ pieces.foldl Cursor.advanceAll .start = k ∧
      Cursor.behind ['a', '\r', '\r'] = Cursor.behind ['a', '\r', '\r', '\n'] ∧
      s.toList.foldlM Cursor.advance? .start = some k := by
  intro s pieces k
  have cut : pieces.flatten = s.toList := by decide
  have feed : s.toList = ['a', '\r', '\r'] ++ '\n' :: ['\t', 'b'] := by decide
  have short : s.length < 2 ^ 62 := by decide
  obtain ⟨-, fed, along, -, -, counted⟩ := position_counts_lines s
  obtain ⟨-, kept⟩ := along _ _ _ feed
  exact ⟨cut, feed, short, by decide, fed pieces cut, kept.2 ⟨rfl, rfl⟩, counted short⟩

end SqlLex
