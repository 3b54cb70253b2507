/-
# SqlLex.Source -- characters in order, looked at before they are taken

A source is asked for characters and answers each time with a character, with
nothing, or with a failure.  What it will answer is a list, and behind the list
it answers nothing for ever; an answer of nothing or of failure in the middle is
given once and reading goes on behind it.

Characters can be looked at before they are taken: `peekNth n` holds the `n + 1`
next characters `ahead`, and `next` takes from there first.  A look that meets
nothing or a failure uses that answer up and keeps the characters it already
holds.  What is `pending` are the characters held and the answers to come.  It is
never longer behind a look (`size_peekNth`), and shorter where a character is taken
(`size_lt_of_next`), so a loop that takes characters ends.
-/
import SqlLex.Error

namespace SqlLex

set_option autoImplicit false

/-- What a source says when asked for a character. -/
inductive Answer where
  | char (c : Char)
  | nothing
  | fail (e : Error)
deriving DecidableEq, Repr

/-- The character, if the answer is one. -/
def Answer.char? : Answer → Option Char
  | .char c => some c
  | _ => none

/-- Characters looked at but not taken, and the answers to come. -/
structure Source where
  ahead : List Char
  rest : List Answer
deriving DecidableEq, Repr

namespace Source

/-- The number of characters that may be looked at before they are taken. -/
def maxAhead : Nat := 2

/-- A source that gives these answers. -/
def ofAnswers (answers : List Answer) : Source := ⟨[], answers⟩

/-- A source that gives these characters. -/
def ofChars (cs : List Char) : Source := ofAnswers (cs.map .char)

/-- A source that gives the characters of a text. -/
def ofString (s : String) : Source := ofChars s.toList

/-- The answers not yet taken, those held included. -/
def pending (s : Source) : List Answer := s.ahead.map .char ++ s.rest

/-- The number of answers not yet taken. -/
def size (s : Source) : Nat := s.ahead.length + s.rest.length

/-- Holds answers until character `n` is held, and answers with it. -/
def look (n : Nat) (ahead : List Char) : List Answer → Answer × Source
  | [] => (.nothing, ⟨ahead, []⟩)
  | .nothing :: rest => (.nothing, ⟨ahead, rest⟩)
  | .fail e :: rest => (.fail e, ⟨ahead, rest⟩)
  | .char c :: rest =>
      if ahead.length = n then (.char c, ⟨ahead ++ [c], rest⟩) else look n (ahead ++ [c]) rest

/-- The character `n` places on, without taking any. -/
def peekNth (n : Nat) (s : Source) : Answer × Source :=
  match s.ahead[n]? with
  | some c => (.char c, s)
  | none => look n s.ahead s.rest

/-- The next character, without taking it. -/
def peek (s : Source) : Answer × Source := s.peekNth 0

/-- Takes the next answer. -/
def next : Source → Answer × Source
  | ⟨c :: ahead, rest⟩ => (.char c, ⟨ahead, rest⟩)
  | ⟨[], answer :: rest⟩ => (answer, ⟨[], rest⟩)
  | ⟨[], []⟩ => (.nothing, ⟨[], []⟩)

/-- Takes the next character if it satisfies `p`; answers nothing if it does not. -/
def nextIf (p : Char → Bool) (s : Source) : Answer × Source :=
  match s.peek with
  | (.char c, held) => if p c then held.next else (.nothing, held)
  | (answer, held) => (answer, held)

/-! ## How much the operations leave pending -/

theorem size_look (n : Nat) (ahead : List Char) (rest : List Answer) :
    (look n ahead rest).2.size ≤ ahead.length + rest.length := by
  induction rest generalizing ahead with
  | nil => simp [look, size]
  | cons answer rest ih =>
    cases answer with
    | char c =>
      by_cases here : ahead.length = n
      · simp only [look, if_pos here, size, List.length_append, List.length_cons, List.length_nil]
        omega
      · simp only [look, if_neg here, List.length_cons]
        have := ih (ahead ++ [c])
        simp only [List.length_append, List.length_cons, List.length_nil] at this
        omega
    | nothing => simp only [look, size, List.length_cons]; omega
    | fail e => simp only [look, size, List.length_cons]; omega

/-- A look never makes a source longer. -/
theorem size_peekNth (n : Nat) (s : Source) : (s.peekNth n).2.size ≤ s.size := by
  unfold peekNth
  split
  · exact Nat.le_refl _
  · exact size_look n s.ahead s.rest

/-- Taking never makes a source longer. -/
theorem size_le_of_next {s after : Source} {answer : Answer} (h : s.next = (answer, after)) :
    after.size ≤ s.size := by
  rcases s with ⟨_ | ⟨d, ahead⟩, _ | ⟨a, rest⟩⟩ <;> simp only [next, Prod.mk.injEq] at h <;>
    obtain ⟨-, rfl⟩ := h <;> simp only [size, List.length_cons, List.length_nil] <;> omega

/-- Taking a character makes a source shorter. -/
theorem size_lt_of_next {s after : Source} {c : Char} (h : s.next = (.char c, after)) :
    after.size < s.size := by
  rcases s with ⟨_ | ⟨d, ahead⟩, _ | ⟨a, rest⟩⟩ <;> simp only [next, Prod.mk.injEq] at h <;>
    obtain ⟨h, rfl⟩ := h <;> simp_all [size]

/-- Taking conditionally never makes a source longer. -/
theorem size_le_of_nextIf {p : Char → Bool} {s after : Source} {answer : Answer}
    (h : s.nextIf p = (answer, after)) : after.size ≤ s.size := by
  have bound := size_peekNth 0 s
  rw [show s.peekNth 0 = s.peek from rfl] at bound
  unfold nextIf at h
  split at h
  · next d held seen =>
    rw [seen] at bound
    split at h
    · exact Nat.le_trans (size_le_of_next h) bound
    · cases h; exact bound
  · next other held differs seen =>
    rw [seen] at bound
    cases h; exact bound

/-- Taking a character conditionally makes a source shorter. -/
theorem size_lt_of_nextIf {p : Char → Bool} {s after : Source} {c : Char}
    (h : s.nextIf p = (.char c, after)) : after.size < s.size := by
  have bound := size_peekNth 0 s
  rw [show s.peekNth 0 = s.peek from rfl] at bound
  unfold nextIf at h
  split at h
  · next d held seen =>
    rw [seen] at bound
    split at h
    · exact Nat.lt_of_lt_of_le (size_lt_of_next h) bound
    · simp at h
  · next other held differs seen =>
    simp only [Prod.mk.injEq] at h
    exact (differs c h.1).elim

end Source

end SqlLex
