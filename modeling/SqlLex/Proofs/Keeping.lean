/-
# SqlLex.Proofs.Keeping -- no character is lost or doubled

`Source.chars` are the characters that a source still has, those held included, in
order.  A look leaves them alone, whatever it meets (`chars_peekNth`), and taking
removes the character that it answers with, and nothing if it answers with anything
else (`chars_of_next`).  So a cut takes characters off the front of the source and
leaves the others (`Cut.Keeps`), and so does a scan, also one that fails
(`taken_append_chars_scan`).
-/
import SqlLex.Scan

namespace SqlLex

set_option autoImplicit false

namespace Source

variable {s after : Source} {answer : Answer}

/-- The characters that are still to come, those held included. -/
def chars (s : Source) : List Char := s.pending.filterMap Answer.char?

theorem chars_mk (ahead : List Char) (rest : List Answer) :
    chars ⟨ahead, rest⟩ = ahead ++ rest.filterMap Answer.char? := by
  simp [chars, pending, Answer.char?, Function.comp_def]

@[simp] theorem chars_ofAnswers (answers : List Answer) :
    (ofAnswers answers).chars = answers.filterMap Answer.char? := by
  simp [ofAnswers, chars_mk]

/-! ## Looking and taking -/

theorem chars_look (n : Nat) (ahead : List Char) (rest : List Answer) :
    (look n ahead rest).2.chars = ahead ++ rest.filterMap Answer.char? := by
  induction rest generalizing ahead with
  | nil => simp [look, chars_mk]
  | cons answer rest ih =>
      cases answer with
      | char c =>
          by_cases here : ahead.length = n
          · simp [look, here, chars_mk, Answer.char?]
          · simp [look, here, ih, Answer.char?]
      | nothing => simp [look, chars_mk, List.filterMap_cons, Answer.char?]
      | fail e => simp [look, chars_mk, List.filterMap_cons, Answer.char?]

/-- A look leaves every character, also where it fails. -/
theorem chars_peekNth (n : Nat) (s : Source) : (s.peekNth n).2.chars = s.chars := by
  unfold peekNth
  split
  · rfl
  · rw [chars_look, ← chars_mk]

/-- Taking removes the character that is taken. -/
theorem chars_of_next (h : s.next = (answer, after)) :
    answer.char?.toList ++ after.chars = s.chars := by
  rcases s with ⟨_ | ⟨c, ahead⟩, _ | ⟨other, rest⟩⟩
  all_goals
    obtain ⟨rfl, rfl⟩ := Prod.mk.inj h
    try cases other
    all_goals simp [chars_mk, List.filterMap_cons, Answer.char?]

theorem chars_of_nextIf {p : Char → Bool} (h : s.nextIf p = (answer, after)) :
    answer.char?.toList ++ after.chars = s.chars := by
  have kept := chars_peekNth 0 s
  rw [show s.peekNth 0 = s.peek from rfl] at kept
  unfold nextIf at h
  split at h
  · next c held seen =>
    rw [seen] at kept
    split at h
    · rw [← kept]
      exact chars_of_next h
    · obtain ⟨rfl, rfl⟩ := Prod.mk.inj h
      exact kept
  · next other held differs seen =>
    rw [seen] at kept
    obtain ⟨rfl, rfl⟩ := Prod.mk.inj h
    cases other with
    | char c => exact absurd rfl (differs c)
    | nothing => exact kept
    | fail e => exact kept

end Source

/-! ## Cuts -/

/-- What the cut took, and what it left, are the characters that there were. -/
def Cut.Keeps (cut : Cut) (chars : List Char) : Prop := cut.taken ++ cut.rest.chars = chars

theorem Cut.keeps_empty (s : Source) : (Cut.empty s).Keeps s.chars := rfl

theorem Cut.Keeps.andThen {first : Cut} {more : Source → Cut} {chars : List Char}
    (head : first.Keeps chars) (tail : ∀ s, (more s).Keeps s.chars) :
    (first.andThen more).Keeps chars := by
  unfold Cut.andThen
  split
  · have kept := tail first.rest
    simp only [Keeps] at head kept ⊢
    rw [List.append_assoc, kept, head]
  · exact head

namespace Source

theorem keeps_take (n : Nat) (s : Source) : (s.take n).Keeps s.chars := by
  induction n generalizing s with
  | zero => exact Cut.keeps_empty s
  | succ n ih =>
      unfold take
      split
      · next c after h =>
        have kept : (take n after).taken ++ (take n after).rest.chars = after.chars := ih after
        simp only [Cut.Keeps, List.cons_append, kept]
        exact chars_of_next h
      · next after h => exact chars_of_next h
      · next e after h => exact chars_of_next h

/-- The loop has taken the characters seen. -/
theorem keeps_takeWhileFrom (p : Char → Bool) (seen : List Char) (s : Source) :
    (s.takeWhileFrom p seen).Keeps (seen.reverse ++ s.chars) := by
  fun_induction takeWhileFrom p seen s with
  | case1 seen s c after h ih => simpa [← chars_of_nextIf h, Answer.char?] using ih
  | case2 seen s after h => simp [Cut.Keeps, ← chars_of_nextIf h, Answer.char?]
  | case3 seen s e after h => simp [Cut.Keeps, ← chars_of_nextIf h, Answer.char?]

theorem keeps_takeThroughFrom (closer : Char) (seen : List Char) (s : Source) :
    (s.takeThroughFrom closer seen).Keeps (seen.reverse ++ s.chars) := by
  fun_induction takeThroughFrom closer seen s with
  | case1 seen s after h => simp [Cut.Keeps, ← chars_of_next h, Answer.char?]
  | case2 seen s c after h _ ih => simpa [← chars_of_next h, Answer.char?] using ih
  | case3 seen s after h => simp [Cut.Keeps, ← chars_of_next h, Answer.char?]
  | case4 seen s e after h => simp [Cut.Keeps, ← chars_of_next h, Answer.char?]

theorem keeps_takeCommentFrom (seen : List Char) (s : Source) :
    (s.takeCommentFrom seen).Keeps (seen.reverse ++ s.chars) := by
  fun_induction takeCommentFrom seen s with
  | case1 seen s after d later h' h =>
      simp [Cut.Keeps, ← chars_of_next h, ← chars_of_nextIf h', Answer.char?]
  | case2 seen s after later h' h ih =>
      simpa [← chars_of_next h, ← chars_of_nextIf h', Answer.char?] using ih
  | case3 seen s after e later h' h =>
      simp [Cut.Keeps, ← chars_of_next h, ← chars_of_nextIf h', Answer.char?]
  | case4 seen s c after h _ ih => simpa [← chars_of_next h, Answer.char?] using ih
  | case5 seen s after h => simp [Cut.Keeps, ← chars_of_next h, Answer.char?]
  | case6 seen s e after h => simp [Cut.Keeps, ← chars_of_next h, Answer.char?]

theorem keeps_takeStringFrom (escapes : Bool) (seen : List Char) (s : Source) :
    (s.takeStringFrom escapes seen).Keeps (seen.reverse ++ s.chars) := by
  fun_induction takeStringFrom escapes seen s with
  | case1 seen s after d later h' h ih =>
      simpa [← chars_of_next h, ← chars_of_nextIf h', Answer.char?] using ih
  | case2 seen s after later h' h =>
      simp [Cut.Keeps, ← chars_of_next h, ← chars_of_nextIf h', Answer.char?]
  | case3 seen s after e later h' h =>
      simp [Cut.Keeps, ← chars_of_next h, ← chars_of_nextIf h', Answer.char?]
  | case4 seen s c after h _ _ d later h' ih =>
      simpa [← chars_of_next h, ← chars_of_next h', Answer.char?] using ih
  | case5 seen s c after h _ _ later h' =>
      simp [Cut.Keeps, ← chars_of_next h, ← chars_of_next h', Answer.char?]
  | case6 seen s c after h _ _ e later h' =>
      simp [Cut.Keeps, ← chars_of_next h, ← chars_of_next h', Answer.char?]
  | case7 seen s c after h _ _ ih => simpa [← chars_of_next h, Answer.char?] using ih
  | case8 seen s after h => simp [Cut.Keeps, ← chars_of_next h, Answer.char?]
  | case9 seen s e after h => simp [Cut.Keeps, ← chars_of_next h, Answer.char?]

theorem keeps_takeWhile (p : Char → Bool) (s : Source) : (s.takeWhile p).Keeps s.chars :=
  keeps_takeWhileFrom p [] s

theorem keeps_takeFraction (s : Source) : s.takeFraction.Keeps s.chars := by
  have first := chars_peekNth 0 s
  rw [show s.peekNth 0 = s.peek from rfl] at first
  unfold takeFraction
  split
  · next c held seen =>
    rw [seen] at first
    have second := chars_peekNth 1 held
    rw [← first]
    split
    · split
      · next d later seen' =>
        rw [seen'] at second
        rw [← second]
        split
        · exact (keeps_take 1 later).andThen (keeps_takeWhile _)
        · exact Cut.keeps_empty later
      · next later seen' =>
        rw [seen'] at second
        exact second
      · next e later seen' =>
        rw [seen'] at second
        exact second
    · exact Cut.keeps_empty held
  · next held seen =>
    rw [seen] at first
    exact first
  · next e held seen =>
    rw [seen] at first
    exact first

end Source

/-! ## Rules and scans -/

namespace Rule

variable {d : Dialect}

theorem keeps_tail (d : Dialect) (r : Rule) (s : Source) : (r.tail d s).Keeps s.chars := by
  cases r with
  | whitespace blank => exact Source.keeps_takeWhile _ s
  | string national => exact Source.keeps_takeStringFrom _ [] s
  | quoted opening => exact Source.keeps_takeThroughFrom _ [] s
  | word => exact Source.keeps_takeWhile _ s
  | number => exact (Source.keeps_takeWhile _ s).andThen Source.keeps_takeFraction
  | lineComment => exact Source.keeps_takeWhile _ s
  | blockComment => exact Source.keeps_takeCommentFrom [] s
  | operator o => exact Cut.keeps_empty s

/-- **The slice of a rule is taken off the characters of the source.** -/
theorem keeps_cut (d : Dialect) (r : Rule) (s : Source) : (r.cut d s).Keeps s.chars :=
  (Source.keeps_take r.head s).andThen (keeps_tail d r)

theorem chars_ifSecond {expected : Char} {r : Rule} {s : Source}
    {otherwise : Source → Choice × Source} (h : ∀ s, (otherwise s).2.chars = s.chars) :
    (ifSecond expected r s otherwise).2.chars = s.chars := by
  have kept := Source.chars_peekNth 1 s
  unfold ifSecond
  split
  · next c after seen =>
    rw [seen] at kept
    split
    · exact kept
    · exact (h after).trans kept
  · next after seen =>
    rw [seen] at kept
    exact (h after).trans kept
  · next e after seen =>
    rw [seen] at kept
    exact kept

theorem chars_selectOperator (c : Char) (s : Source) :
    (selectOperator c s).2.chars = s.chars := by
  have kept := Source.chars_peekNth 1 s
  unfold selectOperator
  split
  · next e after seen =>
    rw [seen] at kept
    exact kept
  · next answer after differs seen =>
    rw [seen] at kept
    split <;> exact kept

theorem chars_selectWord (d : Dialect) (c : Char) (s : Source) :
    (selectWord d c s).2.chars = s.chars := by
  have operator := chars_selectOperator c
  unfold selectWord
  repeat' split
  all_goals first
    | rfl
    | exact chars_ifSecond operator
    | exact operator s

/-- Choosing leaves every character. -/
theorem chars_select (d : Dialect) (s : Source) : (select d s).2.chars = s.chars := by
  have kept := Source.chars_peekNth 0 s
  rw [show s.peekNth 0 = s.peek from rfl] at kept
  unfold select
  split
  · next c after seen =>
    rw [seen] at kept
    have word := chars_selectWord d c
    unfold selectAt
    repeat' split
    all_goals first
      | exact kept
      | exact (chars_ifSecond word).trans kept
      | exact (word after).trans kept
  · next after seen =>
    rw [seen] at kept
    exact kept
  · next e after seen =>
    rw [seen] at kept
    exact kept

end Rule

/-- **A scan takes characters off the front of the source and leaves the others**, whatever it
finds. -/
theorem Source.taken_append_chars_scan (d : Dialect) (s : Source) :
    (s.scan d).taken ++ (s.scan d).rest.chars = s.chars := by
  have kept := Rule.chars_select d s
  unfold scan
  split
  · next r after selected =>
    rw [selected] at kept
    exact (Rule.keeps_cut d r after).trans kept
  · next after selected =>
    rw [selected] at kept
    exact kept
  · next f after selected =>
    rw [selected] at kept
    exact kept

end SqlLex
