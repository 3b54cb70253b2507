/-
# SqlLex.Cursor -- the position behind the characters read so far

A cursor starts at the origin and is told each character in turn.  A line break
is a carriage return, a line feed, or the two together: the line feed right
behind a carriage return belongs to the break that the return began and moves
nothing.  Every other character moves by its visual width.

Feeding a text in pieces is feeding it whole (`advanceAll_append`), also when a
cut falls between a carriage return and its line feed, because the cursor
remembers the return.
-/
import SqlLex.Position

namespace SqlLex

set_option autoImplicit false

/-- The visual columns of a tab. -/
def tabWidth : Nat := 4

/-- The visual columns of a character: a tab has `tabWidth`, any other one. -/
def visualWidth (c : Char) : Nat :=
  if c = '\t' then tabWidth else 1

/-- The position behind what was read, and whether that ended in a carriage return. -/
structure Cursor where
  position : Position := .origin
  afterReturn : Bool := false
deriving DecidableEq, Repr

namespace Cursor

/-- The cursor of an empty text. -/
def start : Cursor := {}

instance : Inhabited Cursor := ⟨start⟩

/-- The cursor behind one more character. -/
def advance (k : Cursor) (c : Char) : Cursor where
  position :=
    if c = '\n' ∧ k.afterReturn = true then k.position
    else if c = '\n' ∨ c = '\r' then ⟨k.position.line + 1, 0⟩
    else ⟨k.position.line, k.position.column + visualWidth c⟩
  afterReturn := c == '\r'

/-- The cursor behind a run of characters. -/
def advanceAll (k : Cursor) (cs : List Char) : Cursor :=
  cs.foldl advance k

@[simp] theorem advanceAll_nil (k : Cursor) : k.advanceAll [] = k := rfl

@[simp] theorem advanceAll_cons (k : Cursor) (c : Char) (cs : List Char) :
    k.advanceAll (c :: cs) = (k.advance c).advanceAll cs := rfl

theorem advanceAll_append (k : Cursor) (as bs : List Char) :
    k.advanceAll (as ++ bs) = (k.advanceAll as).advanceAll bs := by
  simp [advanceAll, List.foldl_append]

/-- Only the last character tells whether a cursor stands behind a return. -/
theorem last_of_afterReturn {k : Cursor} {cs : List Char} (nonempty : cs ≠ [])
    (on : (k.advanceAll cs).afterReturn = true) : '\r' ∈ cs.getLast? := by
  obtain ⟨before, c, rfl⟩ := (List.eq_nil_or_concat cs).resolve_left nonempty
  rw [List.concat_eq_append, advanceAll_append] at on
  obtain rfl : c = '\r' := by simpa [Cursor.advance] using on
  simp

/-- The cursors passed on the way through a run, the first one left out. -/
def trace (k : Cursor) : List Char → List Cursor
  | [] => []
  | c :: cs => k.advance c :: trace (k.advance c) cs

end Cursor

end SqlLex
