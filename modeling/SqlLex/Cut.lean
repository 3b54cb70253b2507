/-
# SqlLex.Cut -- slices taken off the front of a source

A `Cut` is a slice taken off a source together with the way the taking stopped:
complete, at the end of the input, or with a failure of the source.  Cuts are
sequenced by `Cut.andThen`, and each of the cuts below takes the characters of
one shape of text:

* `take n` takes `n` characters;
* `takeWhile p` takes the longest run of characters that satisfy `p`;
* `takeFraction` takes a period and the digits behind it, if there are any;
* `takeThrough closer` takes up to and including the first `closer`;
* `takeComment` takes up to and including the first `*` followed by `/`;
* `takeString escapes` takes up to and including the first quote that is neither
  doubled nor, where there are escapes, escaped.

Characters taken and answers left together never exceed what the source had
(`Cut.Within`), so a cut that holds a character leaves the source shorter.
-/
import SqlLex.Source

namespace SqlLex

set_option autoImplicit false
set_option linter.unusedVariables false

/-- How the taking of a slice stopped. -/
inductive Stop where
  /-- The slice is whole. -/
  | complete
  /-- The source answered nothing before the slice was whole. -/
  | ended
  /-- The source failed. -/
  | failed (e : Error)
deriving DecidableEq, Repr

/-- A slice taken off a source, and what is left. -/
structure Cut where
  taken : List Char
  stop : Stop
  rest : Source
deriving DecidableEq, Repr

namespace Cut

/-- Nothing taken. -/
def empty (s : Source) : Cut := ⟨[], .complete, s⟩

/-- Goes on taking, if the first slice is whole. -/
def andThen (first : Cut) (more : Source → Cut) : Cut :=
  match first.stop with
  | .complete =>
      let second := more first.rest
      ⟨first.taken ++ second.taken, second.stop, second.rest⟩
  | _ => first

/-- A slice that is not whole stops the sequence. -/
theorem andThen_of_ne {first : Cut} {more : Source → Cut} (h : first.stop ≠ .complete) :
    first.andThen more = first := by
  unfold andThen
  split
  · next whole => exact absurd whole h
  · rfl

/-- A sequence is whole only if its first slice is. -/
theorem stop_of_andThen {first : Cut} {more : Source → Cut}
    (h : (first.andThen more).stop = .complete) : first.stop = .complete := by
  by_cases whole : first.stop = .complete
  · exact whole
  · rw [andThen_of_ne whole] at h
    exact h

/-- The slices of a sequence follow one another. -/
theorem taken_andThen {first : Cut} {more : Source → Cut} (h : first.stop = .complete) :
    (first.andThen more).taken = first.taken ++ (more first.rest).taken := by
  simp [andThen, h]

/-- Characters taken and answers left together are no more than `n`. -/
def Within (c : Cut) (n : Nat) : Prop := c.taken.length + c.rest.size ≤ n

theorem within_andThen {first : Cut} {more : Source → Cut} {n : Nat} (h : first.Within n)
    (hmore : ∀ s, (more s).Within s.size) : (first.andThen more).Within n := by
  unfold andThen
  split
  · have := hmore first.rest
    simp only [Within, List.length_append] at *
    omega
  · exact h

end Cut

namespace Source

/-- Takes `n` characters. -/
def take : Nat → Source → Cut
  | 0, s => .empty s
  | n + 1, s =>
      match s.next with
      | (.char c, after) =>
          let more := take n after
          ⟨c :: more.taken, more.stop, more.rest⟩
      | (.nothing, after) => ⟨[], .ended, after⟩
      | (.fail e, after) => ⟨[], .failed e, after⟩

/-- The loop of `takeWhile`; `seen` holds the characters taken, the last first. -/
def takeWhileFrom (p : Char → Bool) (seen : List Char) (s : Source) : Cut :=
  match h : s.nextIf p with
  | (.char c, after) => takeWhileFrom p (c :: seen) after
  | (.nothing, after) => ⟨seen.reverse, .complete, after⟩
  | (.fail e, after) => ⟨seen.reverse, .failed e, after⟩
termination_by s.size
decreasing_by exact size_lt_of_nextIf h

/-- Takes the longest run of characters that satisfy `p`. -/
def takeWhile (p : Char → Bool) (s : Source) : Cut := takeWhileFrom p [] s

/-- The loop of `takeThrough`. -/
def takeThroughFrom (closer : Char) (seen : List Char) (s : Source) : Cut :=
  match h : s.next with
  | (.char c, after) =>
      if c = closer then ⟨(c :: seen).reverse, .complete, after⟩
      else takeThroughFrom closer (c :: seen) after
  | (.nothing, after) => ⟨seen.reverse, .ended, after⟩
  | (.fail e, after) => ⟨seen.reverse, .failed e, after⟩
termination_by s.size
decreasing_by exact size_lt_of_next h

/-- Takes up to and including the first `closer`. -/
def takeThrough (closer : Char) (s : Source) : Cut := takeThroughFrom closer [] s

/-- The loop of `takeComment`. -/
def takeCommentFrom (seen : List Char) (s : Source) : Cut :=
  match h : s.next with
  | (.char c, after) =>
      if c = '*' then
        match h' : after.nextIf (· == '/') with
        | (.char d, later) => ⟨(d :: c :: seen).reverse, .complete, later⟩
        | (.nothing, later) => takeCommentFrom (c :: seen) later
        | (.fail e, later) => ⟨(c :: seen).reverse, .failed e, later⟩
      else takeCommentFrom (c :: seen) after
  | (.nothing, after) => ⟨seen.reverse, .ended, after⟩
  | (.fail e, after) => ⟨seen.reverse, .failed e, after⟩
termination_by s.size
decreasing_by
  · exact Nat.lt_of_le_of_lt (size_le_of_nextIf h') (size_lt_of_next h)
  · exact size_lt_of_next h

/-- Takes up to and including the first `*` followed by `/`. -/
def takeComment (s : Source) : Cut := takeCommentFrom [] s

/-- The loop of `takeString`. -/
def takeStringFrom (escapes : Bool) (seen : List Char) (s : Source) : Cut :=
  match h : s.next with
  | (.char c, after) =>
      if c = Literal.quote then
        match h' : after.nextIf (· == Literal.quote) with
        | (.char d, later) => takeStringFrom escapes (d :: c :: seen) later
        | (.nothing, later) => ⟨(c :: seen).reverse, .complete, later⟩
        | (.fail e, later) => ⟨(c :: seen).reverse, .failed e, later⟩
      else if escapes = true ∧ c = Literal.escapeChar then
        match h' : after.next with
        | (.char d, later) => takeStringFrom escapes (d :: c :: seen) later
        | (.nothing, later) => ⟨(c :: seen).reverse, .ended, later⟩
        | (.fail e, later) => ⟨(c :: seen).reverse, .failed e, later⟩
      else takeStringFrom escapes (c :: seen) after
  | (.nothing, after) => ⟨seen.reverse, .ended, after⟩
  | (.fail e, after) => ⟨seen.reverse, .failed e, after⟩
termination_by s.size
decreasing_by
  · exact Nat.lt_trans (size_lt_of_nextIf h') (size_lt_of_next h)
  · exact Nat.lt_trans (size_lt_of_next h') (size_lt_of_next h)
  · exact size_lt_of_next h

/-- Takes the rest of a string literal behind its opening quote. -/
def takeString (escapes : Bool) (s : Source) : Cut := takeStringFrom escapes [] s

/-- Takes a period and the digits behind it, if there is a period with a digit behind it. -/
def takeFraction (s : Source) : Cut :=
  match s.peek with
  | (.char c, held) =>
      if c = '.' then
        match held.peekNth 1 with
        | (.char d, held) =>
            if d.isDigit then (held.take 1).andThen (takeWhile Char.isDigit) else .empty held
        | (.nothing, held) => .empty held
        | (.fail e, held) => ⟨[], .failed e, held⟩
      else .empty held
  | (.nothing, held) => .empty held
  | (.fail e, held) => ⟨[], .failed e, held⟩

/-! ## A cut holds no more than the source lost -/

theorem within_take (n : Nat) (s : Source) : (s.take n).Within s.size := by
  induction n generalizing s with
  | zero => simp [take, Cut.Within, Cut.empty]
  | succ n ih =>
    unfold take
    split
    · next c after h =>
      have := size_lt_of_next h
      have := ih after
      simp only [Cut.Within, List.length_cons] at *
      omega
    · next after h => simpa [Cut.Within] using size_le_of_next h
    · next e after h => simpa [Cut.Within] using size_le_of_next h

/-- A whole cut of `n` characters holds `n` of them. -/
theorem length_take {n : Nat} {s : Source} (h : (s.take n).stop = .complete) :
    (s.take n).taken.length = n := by
  induction n generalizing s with
  | zero => simp [take, Cut.empty]
  | succ n ih =>
    unfold take at h ⊢
    split at h <;> simp_all

theorem within_takeWhileFrom (p : Char → Bool) (seen : List Char) (s : Source) :
    (s.takeWhileFrom p seen).Within (seen.length + s.size) := by
  fun_induction takeWhileFrom p seen s <;>
    grind [Cut.Within, → size_lt_of_nextIf, → size_le_of_nextIf]

theorem within_takeWhile (p : Char → Bool) (s : Source) : (s.takeWhile p).Within s.size := by
  simpa [takeWhile] using within_takeWhileFrom p [] s

theorem within_takeThroughFrom (closer : Char) (seen : List Char) (s : Source) :
    (s.takeThroughFrom closer seen).Within (seen.length + s.size) := by
  fun_induction takeThroughFrom closer seen s <;>
    grind [Cut.Within, → size_lt_of_next, → size_le_of_next]

theorem within_takeThrough (closer : Char) (s : Source) :
    (s.takeThrough closer).Within s.size := by
  simpa [takeThrough] using within_takeThroughFrom closer [] s

theorem within_takeCommentFrom (seen : List Char) (s : Source) :
    (s.takeCommentFrom seen).Within (seen.length + s.size) := by
  fun_induction takeCommentFrom seen s <;>
    grind [Cut.Within, → size_lt_of_next, → size_le_of_next, → size_lt_of_nextIf,
      → size_le_of_nextIf]

theorem within_takeComment (s : Source) : s.takeComment.Within s.size := by
  simpa [takeComment] using within_takeCommentFrom [] s

theorem within_takeStringFrom (escapes : Bool) (seen : List Char) (s : Source) :
    (s.takeStringFrom escapes seen).Within (seen.length + s.size) := by
  fun_induction takeStringFrom escapes seen s <;>
    grind [Cut.Within, → size_lt_of_next, → size_le_of_next, → size_lt_of_nextIf,
      → size_le_of_nextIf]

theorem within_takeString (escapes : Bool) (s : Source) :
    (s.takeString escapes).Within s.size := by
  simpa [takeString] using within_takeStringFrom escapes [] s

theorem within_takeFraction (s : Source) : s.takeFraction.Within s.size := by
  have first := size_peekNth 0 s
  rw [show s.peekNth 0 = s.peek from rfl] at first
  unfold takeFraction
  split
  · next c held seen =>
    rw [seen] at first
    have second := size_peekNth 1 held
    split
    · split
      · next d later seen' =>
        rw [seen'] at second
        split
        · refine Cut.within_andThen ?_ (within_takeWhile _)
          have := within_take 1 later
          simp only [Cut.Within] at *
          omega
        · simp only [Cut.Within, Cut.empty, List.length_nil] at *
          omega
      · next later seen' =>
        rw [seen'] at second
        simp only [Cut.Within, Cut.empty, List.length_nil] at *
        omega
      · next e later seen' =>
        rw [seen'] at second
        simp only [Cut.Within, List.length_nil] at *
        omega
    · simpa [Cut.Within, Cut.empty] using first
  · next held seen => rw [seen] at first; simpa [Cut.Within, Cut.empty] using first
  · next e held seen => rw [seen] at first; simpa [Cut.Within] using first

end Source

end SqlLex
