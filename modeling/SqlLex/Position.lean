/-
# SqlLex.Position -- places in a text

A `Position` names a place between two characters by its line, counted from 1,
and its column, counted from 0 in visual columns.  Positions are ordered by line
first and column second (`Position.compare`), and `Position.text` writes one as
`line:column`.
-/

namespace SqlLex

set_option autoImplicit false

/-- A place in a text: line from 1, visual column from 0. -/
structure Position where
  line : Nat
  column : Nat
deriving DecidableEq, Repr

namespace Position

/-- The place before the first character. -/
def origin : Position := ⟨1, 0⟩

instance : Inhabited Position := ⟨origin⟩

/-- By line first, by column within a line. -/
def compare (a b : Position) : Ordering :=
  (Ord.compare a.line b.line).then (Ord.compare a.column b.column)

instance : Ord Position := ⟨compare⟩

instance : LT Position := ⟨fun a b => a.line < b.line ∨ a.line = b.line ∧ a.column < b.column⟩

instance : LE Position := ⟨fun a b => a.line < b.line ∨ a.line = b.line ∧ a.column ≤ b.column⟩

instance (a b : Position) : Decidable (a < b) :=
  inferInstanceAs (Decidable (a.line < b.line ∨ a.line = b.line ∧ a.column < b.column))

instance (a b : Position) : Decidable (a ≤ b) :=
  inferInstanceAs (Decidable (a.line < b.line ∨ a.line = b.line ∧ a.column ≤ b.column))

/-- Positions in ascending order, equal ones in the order given. -/
def sort (positions : List Position) : List Position :=
  positions.mergeSort (fun a b => decide (a ≤ b))

/-- Line and column with a colon between. -/
def text (p : Position) : String :=
  toString p.line ++ ":" ++ toString p.column

/-! ## The two readings of the order agree -/

theorem compare_eq_lt_iff (a b : Position) : compare a b = .lt ↔ a < b := by
  show _ ↔ (a.line < b.line ∨ a.line = b.line ∧ a.column < b.column)
  simp [compare, Ordering.then_eq_lt, Nat.compare_eq_lt]

theorem compare_eq_eq_iff (a b : Position) : compare a b = .eq ↔ a = b := by
  cases a; cases b
  simp [compare, Ordering.then_eq_eq]

end Position

end SqlLex
