/-
# SqlLex.Text.CodeRange -- sets of code points as ascending ranges

A character class of Unicode is a table of inclusive ranges of code points, which
carries the proof that they ascend and do not meet (`CodeTable`).  A search walks the
ranges and stops at the first one that lies above the code point; in a table that
loses nothing (`CodeTable.covers_iff`).
-/

namespace SqlLex.Text

set_option autoImplicit false

/-- An inclusive range of code points, lowest first. -/
abbrev CodeRange := Nat × Nat

namespace CodeRange

/-- Is the code point in one of the ranges?  Stops at the first range above it. -/
def covers : List CodeRange → Nat → Bool
  | [], _ => false
  | (low, high) :: ranges, n =>
      if n < low then false else if n ≤ high then true else covers ranges n

/-- Is each range in order, and does it begin above `floor` and end below the next? -/
def ascendsFrom (floor : Nat) : List CodeRange → Bool
  | [] => true
  | (low, high) :: ranges =>
      decide (floor ≤ low) && decide (low ≤ high) && ascendsFrom (high + 1) ranges

/-- Ranges that ascend from a floor cover nothing below it. -/
theorem floor_le_of_mem {floor : Nat} {ranges : List CodeRange} {r : CodeRange}
    (ascending : ascendsFrom floor ranges = true) (member : r ∈ ranges) : floor ≤ r.1 := by
  induction ranges generalizing floor with
  | nil => simp at member
  | cons first ranges ih =>
    simp only [ascendsFrom, Bool.and_eq_true, decide_eq_true_eq] at ascending
    obtain ⟨⟨begins, ordered⟩, later⟩ := ascending
    rcases List.mem_cons.1 member with rfl | member
    · exact begins
    · have := ih later member
      omega

theorem covers_iff_of_ascendsFrom {floor : Nat} {ranges : List CodeRange}
    (ascending : ascendsFrom floor ranges = true) (n : Nat) :
    covers ranges n = true ↔ ∃ r ∈ ranges, r.1 ≤ n ∧ n ≤ r.2 := by
  induction ranges generalizing floor with
  | nil => simp [covers]
  | cons r ranges ih =>
    simp only [ascendsFrom, Bool.and_eq_true, decide_eq_true_eq] at ascending
    obtain ⟨⟨-, ordered⟩, later⟩ := ascending
    simp only [covers, List.mem_cons, exists_eq_or_imp]
    by_cases low : n < r.1
    · have beyond : ∀ x ∈ ranges, ¬ (x.1 ≤ n ∧ n ≤ x.2) := fun x member h => by
        have := floor_le_of_mem later member
        omega
      simp only [if_pos low, Bool.false_eq_true, false_iff, not_or, not_exists, not_and]
      exact ⟨fun h => by omega, fun x member h h' => beyond x member ⟨h, h'⟩⟩
    · by_cases high : n ≤ r.2
      · simp only [if_neg low, if_pos high, true_iff]
        exact .inl ⟨by omega, high⟩
      · simp only [if_neg low, if_neg high, ih later]
        exact ⟨.inr, fun h => h.resolve_left (fun h => high h.2)⟩

end CodeRange

/-- Ranges of code points that ascend and do not meet. -/
structure CodeTable where
  ranges : List CodeRange
  ascending : CodeRange.ascendsFrom 0 ranges = true

namespace CodeTable

/-- Is the code point in one of the ranges? -/
def covers (table : CodeTable) (n : Nat) : Bool := CodeRange.covers table.ranges n

/-- The early stop loses nothing. -/
theorem covers_iff (table : CodeTable) (n : Nat) :
    table.covers n = true ↔ ∃ r ∈ table.ranges, r.1 ≤ n ∧ n ≤ r.2 :=
  CodeRange.covers_iff_of_ascendsFrom table.ascending n

end CodeTable

end SqlLex.Text
