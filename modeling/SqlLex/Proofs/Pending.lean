/-
# SqlLex.Proofs.Pending -- a source is what it has pending

Characters held and answers to come are one list, `Source.pending`, and every
operation is determined by that list: taking removes its head (`next_of_cons`),
looking at a character leaves it alone (`peek_of_char`, `peekNth_one_of_char`), and
looking at anything else uses that answer up (`peek_of_other`).  Which part of the
list is held makes no difference, so the statements below never mention it.
-/
import SqlLex.Source

namespace SqlLex

set_option autoImplicit false

namespace Source

variable {s : Source} {c d : Char} {answer : Answer} {answers : List Answer}

/-! ## Taking -/

theorem next_of_nil (h : s.pending = []) :
    ∃ after, s.next = (.nothing, after) ∧ after.pending = [] := by
  rcases s with ⟨_ | ⟨x, ahead⟩, _ | ⟨y, rest⟩⟩
  · exact ⟨_, rfl, rfl⟩
  all_goals simp [pending] at h

theorem next_of_cons (h : s.pending = answer :: answers) :
    ∃ after, s.next = (answer, after) ∧ after.pending = answers := by
  rcases s with ⟨_ | ⟨x, ahead⟩, _ | ⟨y, rest⟩⟩
  · simp [pending] at h
  · obtain ⟨rfl, rfl⟩ : y = answer ∧ rest = answers := by simpa [pending] using h
    exact ⟨_, rfl, rfl⟩
  all_goals
    simp only [pending, List.map_cons, List.cons_append, List.cons.injEq] at h
    obtain ⟨rfl, rfl⟩ := h
    exact ⟨_, rfl, rfl⟩

/-! ## Looking -/

theorem peek_of_nil (h : s.pending = []) :
    ∃ held, s.peek = (.nothing, held) ∧ held.pending = [] := by
  rcases s with ⟨_ | ⟨x, ahead⟩, _ | ⟨y, rest⟩⟩
  · exact ⟨_, rfl, rfl⟩
  all_goals simp [pending] at h

/-- A look at a character leaves it pending. -/
theorem peek_of_char (h : s.pending = .char c :: answers) :
    ∃ held, s.peek = (.char c, held) ∧ held.pending = .char c :: answers := by
  rcases s with ⟨_ | ⟨x, ahead⟩, rest⟩
  · obtain rfl : rest = .char c :: answers := by simpa [pending] using h
    exact ⟨_, rfl, rfl⟩
  · simp only [pending, List.map_cons, List.cons_append, List.cons.injEq, Answer.char.injEq] at h
    obtain ⟨rfl, rfl⟩ := h
    exact ⟨_, rfl, rfl⟩

/-- A look at anything else uses it up. -/
theorem peek_of_other (h : s.pending = answer :: answers) (other : answer.char? = none) :
    ∃ held, s.peek = (answer, held) ∧ held.pending = answers := by
  rcases s with ⟨_ | ⟨x, ahead⟩, rest⟩
  · obtain rfl : rest = answer :: answers := by simpa [pending] using h
    cases answer with
    | char c => simp [Answer.char?] at other
    | nothing => exact ⟨_, rfl, rfl⟩
    | fail e => exact ⟨_, rfl, rfl⟩
  · simp only [pending, List.map_cons, List.cons_append, List.cons.injEq] at h
    obtain ⟨rfl, -⟩ := h
    simp [Answer.char?] at other

/-- Looking past the last character meets nothing. -/
theorem peekNth_one_of_single (h : s.pending = [.char c]) :
    ∃ held, s.peekNth 1 = (.nothing, held) ∧ held.pending = [.char c] := by
  rcases s with ⟨_ | ⟨x, _ | ⟨y, ahead⟩⟩, rest⟩
  · obtain rfl : rest = [.char c] := by simpa [pending] using h
    exact ⟨_, rfl, rfl⟩
  · obtain ⟨rfl, rfl⟩ : x = c ∧ rest = [] := by simpa [pending] using h
    exact ⟨_, rfl, rfl⟩
  · simp [pending] at h

/-- Looking past a character at another one leaves both pending. -/
theorem peekNth_one_of_char (h : s.pending = .char c :: .char d :: answers) :
    ∃ held, s.peekNth 1 = (.char d, held) ∧ held.pending = .char c :: .char d :: answers := by
  rcases s with ⟨_ | ⟨x, _ | ⟨y, ahead⟩⟩, rest⟩
  · obtain rfl : rest = .char c :: .char d :: answers := by simpa [pending] using h
    exact ⟨_, rfl, rfl⟩
  · obtain ⟨rfl, rfl⟩ : x = c ∧ rest = .char d :: answers := by simpa [pending] using h
    exact ⟨_, rfl, rfl⟩
  · simp only [pending, List.map_cons, List.cons_append, List.cons.injEq, Answer.char.injEq] at h
    obtain ⟨rfl, rfl, rfl⟩ := h
    exact ⟨_, rfl, rfl⟩

/-- Looking past a character at a failure uses the failure up. -/
theorem peekNth_one_of_fail {e : Error} (h : s.pending = .char c :: .fail e :: answers) :
    ∃ held, s.peekNth 1 = (.fail e, held) ∧ held.pending = .char c :: answers := by
  rcases s with ⟨_ | ⟨x, _ | ⟨y, ahead⟩⟩, rest⟩
  · obtain rfl : rest = .char c :: .fail e :: answers := by simpa [pending] using h
    exact ⟨_, rfl, rfl⟩
  · obtain ⟨rfl, rfl⟩ : x = c ∧ rest = .fail e :: answers := by simpa [pending] using h
    exact ⟨_, rfl, rfl⟩
  · simp [pending] at h

/-! ## Taking conditionally -/

theorem nextIf_of_nil (p : Char → Bool) (h : s.pending = []) :
    ∃ after, s.nextIf p = (.nothing, after) ∧ after.pending = [] := by
  obtain ⟨held, looked, left⟩ := peek_of_nil h
  exact ⟨held, by simp [nextIf, looked], left⟩

/-- A character that satisfies `p` is taken, another one stays. -/
theorem nextIf_of_char (p : Char → Bool) (h : s.pending = .char c :: answers) :
    ∃ after,
      s.nextIf p = (if p c then .char c else .nothing, after) ∧
        after.pending = if p c then answers else .char c :: answers := by
  obtain ⟨held, looked, left⟩ := peek_of_char h
  by_cases holds : p c
  · obtain ⟨after, taken, rest⟩ := next_of_cons left
    exact ⟨after, by simp [nextIf, looked, holds, taken], by simp [holds, rest]⟩
  · exact ⟨held, by simp [nextIf, looked, holds], by simp [holds, left]⟩

theorem nextIf_of_other (p : Char → Bool) (h : s.pending = answer :: answers)
    (other : answer.char? = none) :
    ∃ after, s.nextIf p = (answer, after) ∧ after.pending = answers := by
  obtain ⟨held, looked, left⟩ := peek_of_other h other
  cases answer with
  | char c => simp [Answer.char?] at other
  | nothing => exact ⟨held, by simp [nextIf, looked], left⟩
  | fail e => exact ⟨held, by simp [nextIf, looked], left⟩

end Source

end SqlLex
