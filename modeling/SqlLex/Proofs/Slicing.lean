/-
# SqlLex.Proofs.Slicing -- the loops take what the grammar describes

Each loop of `SqlLex.Cut` is opened once, by an equation, and then described by
what it does in front of a text: it passes over a run (`takeWhileFrom_run`,
`takeThroughFrom_run`, `takeStringFrom_run`), it stops complete behind the closing
characters, or it takes all that is left and has come to the end.  `Cut.Yields`
says slice, stop and pending answers of a cut in one breath.

For a rule as a whole: a spelling that ends in front of the text behind it is
exactly the slice (`Rule.cut_of_spells`).
-/
import SqlLex.Proofs.Grammar
import SqlLex.Proofs.Pending

namespace SqlLex

set_option autoImplicit false

/-- The slice of a cut, how it stopped, and what it left pending. -/
structure Cut.Yields (cut : Cut) (taken : List Char) (stop : Stop) (left : List Answer) : Prop where
  taken : cut.taken = taken
  stop : cut.stop = stop
  left : cut.rest.pending = left

theorem Cut.Yields.andThen {first : Cut} {more : Source → Cut} {u v : List Char} {stop : Stop}
    {left after : List Answer} (head : first.Yields u .complete left)
    (tail : ∀ s, s.pending = left → (more s).Yields v stop after) :
    (first.andThen more).Yields (u ++ v) stop after := by
  have rest := tail first.rest head.left
  unfold Cut.andThen
  rw [head.stop]
  exact ⟨by simp [head.taken, rest.taken], rest.stop, rest.left⟩

namespace Source

variable {s : Source} {answers : List Answer}

/-! ## Equations of the loops -/

theorem takeWhileFrom_eq (p : Char → Bool) (seen : List Char) (s : Source) :
    s.takeWhileFrom p seen =
      match s.nextIf p with
      | (.char c, after) => after.takeWhileFrom p (c :: seen)
      | (.nothing, after) => ⟨seen.reverse, .complete, after⟩
      | (.fail e, after) => ⟨seen.reverse, .failed e, after⟩ := by
  rw [takeWhileFrom]
  split <;> rename_i h <;> simp only [h]

theorem takeThroughFrom_eq (closer : Char) (seen : List Char) (s : Source) :
    s.takeThroughFrom closer seen =
      match s.next with
      | (.char c, after) =>
          if c = closer then ⟨(c :: seen).reverse, .complete, after⟩
          else after.takeThroughFrom closer (c :: seen)
      | (.nothing, after) => ⟨seen.reverse, .ended, after⟩
      | (.fail e, after) => ⟨seen.reverse, .failed e, after⟩ := by
  rw [takeThroughFrom]
  split <;> rename_i h <;> simp only [h]

theorem takeCommentFrom_eq (seen : List Char) (s : Source) :
    s.takeCommentFrom seen =
      match s.next with
      | (.char c, after) =>
          if c = '*' then
            match after.nextIf (· == '/') with
            | (.char d, later) => ⟨(d :: c :: seen).reverse, .complete, later⟩
            | (.nothing, later) => later.takeCommentFrom (c :: seen)
            | (.fail e, later) => ⟨(c :: seen).reverse, .failed e, later⟩
          else after.takeCommentFrom (c :: seen)
      | (.nothing, after) => ⟨seen.reverse, .ended, after⟩
      | (.fail e, after) => ⟨seen.reverse, .failed e, after⟩ := by
  rw [takeCommentFrom]
  split <;> rename_i h <;> simp only [h]
  split
  · split <;> rename_i h' <;> simp only [h']
  · rfl

theorem takeStringFrom_eq (escapes : Bool) (seen : List Char) (s : Source) :
    s.takeStringFrom escapes seen =
      match s.next with
      | (.char c, after) =>
          if c = Literal.quote then
            match after.nextIf (· == Literal.quote) with
            | (.char d, later) => later.takeStringFrom escapes (d :: c :: seen)
            | (.nothing, later) => ⟨(c :: seen).reverse, .complete, later⟩
            | (.fail e, later) => ⟨(c :: seen).reverse, .failed e, later⟩
          else if escapes = true ∧ c = Literal.escapeChar then
            match after.next with
            | (.char d, later) => later.takeStringFrom escapes (d :: c :: seen)
            | (.nothing, later) => ⟨(c :: seen).reverse, .ended, later⟩
            | (.fail e, later) => ⟨(c :: seen).reverse, .failed e, later⟩
          else after.takeStringFrom escapes (c :: seen)
      | (.nothing, after) => ⟨seen.reverse, .ended, after⟩
      | (.fail e, after) => ⟨seen.reverse, .failed e, after⟩ := by
  rw [takeStringFrom]
  split <;> rename_i h <;> simp only [h]
  split
  · split <;> rename_i h' <;> simp only [h']
  · split
    · split <;> rename_i h' <;> simp only [h']
    · rfl

/-! ## A number of characters -/

theorem take_length (u : List Char) (h : s.pending = u.map .char ++ answers) :
    (s.take u.length).Yields u .complete answers := by
  induction u generalizing s with
  | nil => exact ⟨rfl, rfl, h⟩
  | cons c u ih =>
      obtain ⟨after, taken, left⟩ := next_of_cons h
      have rest := ih left
      simp only [List.length_cons, take, taken]
      exact ⟨by simp [rest.taken], rest.stop, rest.left⟩

/-! ## Runs -/

/-- A run of characters that satisfy `p` is passed over. -/
theorem takeWhileFrom_run (p : Char → Bool) (run seen : List Char)
    (all : ∀ c ∈ run, p c = true) (h : s.pending = run.map .char ++ answers) :
    ∃ after : Source, s.takeWhileFrom p seen = after.takeWhileFrom p (run.reverse ++ seen) ∧
      after.pending = answers := by
  induction run generalizing s seen with
  | nil => exact ⟨s, rfl, h⟩
  | cons c run ih =>
      obtain ⟨first, others⟩ := List.forall_mem_cons.1 all
      have h : s.pending = .char c :: (run.map .char ++ answers) := h
      obtain ⟨after, taken, left⟩ := nextIf_of_char p h
      simp only [first, if_true] at taken left
      obtain ⟨rest, loop, stays⟩ := ih (c :: seen) others left
      refine ⟨rest, ?_, stays⟩
      rw [takeWhileFrom_eq, taken]
      simpa using loop

/-- The run ends at a character that does not satisfy `p`, whatever comes behind that. -/
theorem takeWhile_stop (p : Char → Bool) {run : List Char} {c : Char}
    (all : ∀ x ∈ run, p x = true) (fails : p c = false)
    (h : s.pending = run.map .char ++ .char c :: answers) :
    (s.takeWhile p).Yields run .complete (.char c :: answers) := by
  obtain ⟨after, loop, left⟩ := takeWhileFrom_run p run [] all h
  obtain ⟨later, looked, rest⟩ := nextIf_of_char p left
  simp only [fails, Bool.false_eq_true, if_false] at looked rest
  rw [takeWhile, loop, takeWhileFrom_eq, looked]
  exact ⟨by simp, rfl, rest⟩

theorem takeWhile_text (p : Char → Bool) {run behind : List Char} (all : ∀ c ∈ run, p c = true)
    (stops : ∀ c ∈ behind.head?, p c = false) (h : s.pending = (run ++ behind).map .char) :
    (s.takeWhile p).Yields run .complete (behind.map .char) := by
  rw [List.map_append] at h
  cases behind with
  | nil =>
      obtain ⟨after, loop, left⟩ := takeWhileFrom_run p run [] all h
      obtain ⟨later, looked, rest⟩ := nextIf_of_nil p left
      rw [takeWhile, loop, takeWhileFrom_eq, looked]
      exact ⟨by simp, rfl, rest⟩
  | cons c behind => exact takeWhile_stop p all (stops c rfl) h

/-! ## Up to a closing character -/

theorem takeThroughFrom_run (closer : Char) (run seen : List Char) (free : closer ∉ run)
    (h : s.pending = run.map .char ++ answers) :
    ∃ after : Source,
      s.takeThroughFrom closer seen = after.takeThroughFrom closer (run.reverse ++ seen) ∧
        after.pending = answers := by
  induction run generalizing s seen with
  | nil => exact ⟨s, rfl, h⟩
  | cons c run ih =>
      obtain ⟨differs, free⟩ : closer ≠ c ∧ closer ∉ run := by simpa using free
      obtain ⟨after, taken, left⟩ := next_of_cons h
      obtain ⟨rest, loop, stays⟩ := ih (c :: seen) free left
      refine ⟨rest, ?_, stays⟩
      rw [takeThroughFrom_eq, taken]
      simpa [differs.symm] using loop

theorem takeThrough_closed {closer : Char} {body : List Char} (free : closer ∉ body)
    (h : s.pending = body.map .char ++ .char closer :: answers) :
    (s.takeThrough closer).Yields (body ++ [closer]) .complete answers := by
  obtain ⟨after, loop, left⟩ := takeThroughFrom_run closer body [] free h
  obtain ⟨later, taken, rest⟩ := next_of_cons left
  rw [takeThrough, loop, takeThroughFrom_eq, taken]
  exact ⟨by simp, by simp, by simpa using rest⟩

theorem takeThrough_open {closer : Char} {body : List Char} (free : closer ∉ body)
    (h : s.pending = body.map .char) :
    (s.takeThrough closer).Yields body .ended [] := by
  rw [← List.append_nil (body.map _)] at h
  obtain ⟨after, loop, left⟩ := takeThroughFrom_run closer body [] free h
  obtain ⟨later, taken, rest⟩ := next_of_nil left
  rw [takeThrough, loop, takeThroughFrom_eq, taken]
  exact ⟨by simp, rfl, rest⟩

/-! ## The rest of a block comment -/

/-- A character that does not begin the closing pair is passed over. -/
theorem takeCommentFrom_char {c : Char} (seen : List Char)
    (notClosing : c = '*' → ∀ a ∈ answers.head?, ∃ e, a = .char e ∧ e ≠ '/')
    (h : s.pending = .char c :: answers) :
    ∃ after : Source, s.takeCommentFrom seen = after.takeCommentFrom (c :: seen) ∧
      after.pending = answers := by
  obtain ⟨after, taken, left⟩ := next_of_cons h
  by_cases star : c = '*'
  · cases answers with
    | nil =>
        obtain ⟨later, looked, rest⟩ := nextIf_of_nil (· == '/') left
        refine ⟨later, ?_, rest⟩
        rw [takeCommentFrom_eq, taken]
        simp only [star, if_true, looked]
    | cons a answers =>
        obtain ⟨e, rfl, differs⟩ := notClosing star a rfl
        obtain ⟨later, looked, rest⟩ := nextIf_of_char (· == '/') left
        simp only [beq_iff_eq, differs, if_false] at looked rest
        refine ⟨later, ?_, rest⟩
        rw [takeCommentFrom_eq, taken]
        simp only [star, if_true, looked]
  · refine ⟨after, ?_, left⟩
    rw [takeCommentFrom_eq, taken]
    simp only [star, if_false]

theorem takeCommentFrom_closing (seen : List Char)
    (h : s.pending = .char '*' :: .char '/' :: answers) :
    (s.takeCommentFrom seen).Yields (seen.reverse ++ ['*', '/']) .complete answers := by
  obtain ⟨after, taken, left⟩ := next_of_cons h
  obtain ⟨later, looked, rest⟩ := nextIf_of_char (· == '/') left
  simp only [BEq.rfl, if_true] at looked rest
  rw [takeCommentFrom_eq, taken]
  simp only [if_true, looked]
  exact ⟨by simp, rfl, rest⟩

/-- Where the closing pair does not occur, no slash follows a star. -/
theorem not_closing_of_free {c : Char} {body : List Char} (free : ¬ ['*', '/'] <:+: c :: body)
    (star : c = '*') : ∀ e ∈ body.head?, e ≠ '/' := by
  rintro e front rfl
  cases body with
  | nil => simp at front
  | cons x body =>
      obtain rfl : x = '/' := by simpa using front
      exact free ⟨[], body, by simp [star]⟩

theorem takeComment_closed {body : List Char} (free : ¬ ['*', '/'] <:+: body)
    (h : s.pending = body.map .char ++ .char '*' :: .char '/' :: answers) :
    s.takeComment.Yields (body ++ ['*', '/']) .complete answers := by
  -- the loop carries the characters seen, so the induction is on the body for all of them
  suffices loop : ∀ (seen : List Char) (s : Source),
      s.pending = body.map .char ++ .char '*' :: .char '/' :: answers →
        (s.takeCommentFrom seen).Yields (seen.reverse ++ body ++ ['*', '/']) .complete answers by
    simpa [takeComment] using loop [] s h
  clear h
  induction body with
  | nil =>
      intro seen s h
      simpa using takeCommentFrom_closing seen h
  | cons c body ih =>
      intro seen s h
      have notClosing : c = '*' →
          ∀ a ∈ (body.map Answer.char ++ .char '*' :: .char '/' :: answers).head?,
            ∃ e, a = .char e ∧ e ≠ '/' := by
        intro star a front
        cases body with
        | nil => exact ⟨'*', by simpa using front.symm, by decide⟩
        | cons x body =>
            exact ⟨x, by simpa using front.symm, not_closing_of_free free star x rfl⟩
      obtain ⟨after, step, left⟩ := takeCommentFrom_char seen notClosing h
      have shorter : ¬ ['*', '/'] <:+: body := by
        intro inside
        exact free (List.infix_cons inside)
      rw [step]
      simpa using ih shorter (c :: seen) after left

theorem takeComment_open {body : List Char} (free : ¬ ['*', '/'] <:+: body)
    (h : s.pending = body.map .char) : s.takeComment.Yields body .ended [] := by
  suffices loop : ∀ (seen : List Char) (s : Source), s.pending = body.map .char →
      (s.takeCommentFrom seen).Yields (seen.reverse ++ body) .ended [] by
    simpa [takeComment] using loop [] s h
  clear h
  induction body with
  | nil =>
      intro seen s h
      obtain ⟨after, taken, left⟩ := next_of_nil h
      rw [takeCommentFrom_eq, taken]
      exact ⟨by simp, rfl, left⟩
  | cons c body ih =>
      intro seen s h
      have notClosing : c = '*' → ∀ a ∈ (body.map Answer.char).head?,
          ∃ e, a = .char e ∧ e ≠ '/' := by
        intro star a front
        obtain ⟨x, mem, rfl⟩ : ∃ x ∈ body.head?, Answer.char x = a := by simpa using front
        exact ⟨x, rfl, not_closing_of_free free star x mem⟩
      obtain ⟨after, step, left⟩ := takeCommentFrom_char seen notClosing h
      have shorter : ¬ ['*', '/'] <:+: body := by
        intro inside
        exact free (List.infix_cons inside)
      rw [step]
      simpa using ih shorter (c :: seen) after left

/-! ## The rest of a string literal -/

/-- A body is passed over whole: its quotes come in pairs, and what an escape takes along is no
quote of its own. -/
theorem takeStringFrom_run {escapes : Bool} {body : List Char} (well : Literal.Body escapes body)
    (seen : List Char) (h : s.pending = body.map .char ++ answers) :
    ∃ after : Source,
      s.takeStringFrom escapes seen = after.takeStringFrom escapes (body.reverse ++ seen) ∧
        after.pending = answers := by
  induction well generalizing s seen with
  | nil => exact ⟨s, rfl, h⟩
  | @plain c body noQuote noEscape _ ih =>
      obtain ⟨after, taken, left⟩ := next_of_cons h
      obtain ⟨rest, loop, stays⟩ := ih (c :: seen) left
      refine ⟨rest, ?_, stays⟩
      rw [takeStringFrom_eq, taken]
      have ordinary : ¬ (escapes = true ∧ c = Literal.escapeChar) := by
        intro both
        exact noEscape both.1 both.2
      simpa [noQuote, ordinary] using loop
  | @doubled body _ ih =>
      obtain ⟨after, taken, left⟩ := next_of_cons h
      obtain ⟨later, looked, rest⟩ := nextIf_of_char (· == Literal.quote) left
      simp only [BEq.rfl, if_true] at looked rest
      obtain ⟨last, loop, stays⟩ := ih (Literal.quote :: Literal.quote :: seen) rest
      refine ⟨last, ?_, stays⟩
      rw [takeStringFrom_eq, taken]
      simpa [looked] using loop
  | @escaped c body on _ ih =>
      obtain ⟨after, taken, left⟩ := next_of_cons h
      obtain ⟨later, next, rest⟩ := next_of_cons left
      obtain ⟨last, loop, stays⟩ := ih (c :: Literal.escapeChar :: seen) rest
      refine ⟨last, ?_, stays⟩
      have noQuote : Literal.escapeChar ≠ Literal.quote := by decide
      rw [takeStringFrom_eq, taken]
      simpa [noQuote, on, next] using loop

/-- A quote with another character behind it closes the literal, whatever comes behind that. -/
theorem takeString_stop {escapes : Bool} {body : List Char} {c : Char}
    (well : Literal.Body escapes body) (differs : c ≠ Literal.quote)
    (h : s.pending = body.map .char ++ .char Literal.quote :: .char c :: answers) :
    (s.takeString escapes).Yields (body ++ [Literal.quote]) .complete (.char c :: answers) := by
  obtain ⟨after, loop, left⟩ := takeStringFrom_run well [] h
  obtain ⟨later, taken, rest⟩ := next_of_cons left
  obtain ⟨last, looked, stays⟩ := nextIf_of_char (· == Literal.quote) rest
  simp only [beq_iff_eq, differs, if_false] at looked stays
  rw [takeString, loop, takeStringFrom_eq, taken]
  simp only [if_true, looked]
  exact ⟨by simp, rfl, stays⟩

theorem takeString_closed {escapes : Bool} {body behind : List Char}
    (well : Literal.Body escapes body) (single : Literal.quote ∉ behind.head?)
    (h : s.pending = (body ++ Literal.quote :: behind).map .char) :
    (s.takeString escapes).Yields (body ++ [Literal.quote]) .complete (behind.map .char) := by
  rw [List.map_append] at h
  cases behind with
  | nil =>
      obtain ⟨after, loop, left⟩ := takeStringFrom_run well [] h
      obtain ⟨later, taken, rest⟩ := next_of_cons left
      obtain ⟨last, looked, none⟩ := nextIf_of_nil (· == Literal.quote) rest
      rw [takeString, loop, takeStringFrom_eq, taken]
      simp only [if_true, looked]
      exact ⟨by simp, rfl, none⟩
  | cons c behind =>
      have differs : c ≠ Literal.quote := by simpa using single
      exact takeString_stop well differs h

theorem takeString_open {escapes : Bool} {body : List Char} (well : Literal.Body escapes body)
    (h : s.pending = body.map .char) : (s.takeString escapes).Yields body .ended [] := by
  rw [← List.append_nil (body.map _)] at h
  obtain ⟨after, loop, left⟩ := takeStringFrom_run well [] h
  obtain ⟨later, taken, rest⟩ := next_of_nil left
  rw [takeString, loop, takeStringFrom_eq, taken]
  exact ⟨by simp, rfl, rest⟩

/-- An escape with nothing behind it leaves the literal open. -/
theorem takeString_open_escape {body : List Char} (well : Literal.Body true body)
    (h : s.pending = (body ++ [Literal.escapeChar]).map .char) :
    (s.takeString true).Yields (body ++ [Literal.escapeChar]) .ended [] := by
  rw [List.map_append] at h
  obtain ⟨after, loop, left⟩ := takeStringFrom_run well [] h
  obtain ⟨later, taken, rest⟩ := next_of_cons left
  obtain ⟨last, none, left⟩ := next_of_nil rest
  have noQuote : Literal.escapeChar ≠ Literal.quote := by decide
  rw [takeString, loop, takeStringFrom_eq, taken]
  simp only [noQuote, if_false, and_self, if_true, none]
  exact ⟨by simp, rfl, left⟩

/-! ## The fraction of a number -/

theorem takeFraction_none {behind : List Char}
    (bare : ∀ c rest, behind = '.' :: c :: rest → c.isDigit = false)
    (h : s.pending = behind.map .char) :
    s.takeFraction.Yields [] .complete (behind.map .char) := by
  unfold takeFraction
  cases behind with
  | nil =>
      obtain ⟨held, looked, left⟩ := peek_of_nil h
      rw [looked]
      exact ⟨rfl, rfl, left⟩
  | cons c behind =>
      obtain ⟨held, looked, left⟩ := peek_of_char h
      simp only [looked]
      by_cases period : c = '.'
      · subst period
        simp only [if_true]
        cases behind with
        | nil =>
            obtain ⟨later, second, stays⟩ := peekNth_one_of_single left
            rw [second]
            exact ⟨rfl, rfl, stays⟩
        | cons e behind =>
            have noDigit : e.isDigit = false := bare e behind rfl
            obtain ⟨later, second, stays⟩ := peekNth_one_of_char left
            simp only [second, noDigit, Bool.false_eq_true, if_false]
            exact ⟨rfl, rfl, stays⟩
      · simp only [period, if_false]
        exact ⟨rfl, rfl, left⟩

theorem takeFraction_some {fraction behind : List Char} (some : fraction ≠ [])
    (digits : ∀ c ∈ fraction, c.isDigit = true) (stops : ∀ c ∈ behind.head?, c.isDigit = false)
    (h : s.pending = ('.' :: (fraction ++ behind)).map .char) :
    s.takeFraction.Yields ('.' :: fraction) .complete (behind.map .char) := by
  obtain ⟨held, looked, left⟩ := peek_of_char h
  obtain ⟨first, fraction, rfl⟩ := List.exists_cons_of_ne_nil some
  have digit : first.isDigit = true := digits first List.mem_cons_self
  obtain ⟨later, second, stays⟩ := peekNth_one_of_char left
  unfold takeFraction
  simp only [looked, if_true, second, digit]
  have period := take_length ['.'] stays
  exact period.andThen fun s next => takeWhile_text Char.isDigit digits stops next

end Source

namespace Rule

variable {d : Dialect} {r : Rule} {u w : List Char} {s : Source}

/-! ## Rules -/

/-- The cut of a rule takes its first characters and goes on with the rest. -/
theorem cut_of_head (front : List Char) {back taken : List Char} {stop : Stop}
    {left : List Answer} (width : r.head = front.length) (h : s.pending = (front ++ back).map .char)
    (tail : ∀ t : Source, t.pending = back.map .char → (r.tail d t).Yields taken stop left) :
    (r.cut d s).Yields (front ++ taken) stop left := by
  rw [List.map_append] at h
  unfold cut
  rw [width]
  exact (Source.take_length front h).andThen tail

/-- **A spelling that ends in front of the text behind it is the slice of its rule.** -/
theorem cut_of_spells (spelled : Spells d r u) (ends : Ends d r u w)
    (h : s.pending = (u ++ w).map .char) : (r.cut d s).Yields u .complete (w.map .char) := by
  cases spelled with
  | @whitespace blank run some all =>
      obtain ⟨c, run, rfl⟩ := List.exists_cons_of_ne_nil some
      apply cut_of_head [c] rfl h
      intro t left
      have holds : ∀ x ∈ run, blank.holds x = true := by
        intro x mem
        simpa [Blank.holds_eq_decide] using all x (List.mem_cons_of_mem c mem)
      have stops : ∀ x ∈ w.head?, blank.holds x = false := by
        intro x front
        simpa [Blank.holds_eq_decide] using ends x front
      exact Source.takeWhile_text _ holds stops left
  | @string body well =>
      apply cut_of_head [Literal.quote] rfl h
      intro t left
      exact Source.takeString_closed well ends (by simpa using left)
  | @nationalString n body letter well =>
      apply cut_of_head [n, Literal.quote] rfl h
      intro t left
      exact Source.takeString_closed well ends (by simpa using left)
  | @quoted opening body opens free =>
      apply cut_of_head [opening] rfl h
      intro t left
      exact Source.takeThrough_closed free (by simpa using left)
  | @word c run begins continues =>
      apply cut_of_head [c] rfl h
      intro t left
      exact Source.takeWhile_text _ continues ends.1 left
  | whole some digits =>
      obtain ⟨c, run, rfl⟩ := List.exists_cons_of_ne_nil some
      have noPeriod : '.' ∉ c :: run := by
        intro mem
        simpa using digits '.' mem
      have others : ∀ x ∈ run, x.isDigit = true := (List.forall_mem_cons.1 digits).2
      apply cut_of_head [c] rfl h
      intro t left
      have whole := Source.takeWhile_text Char.isDigit others ends.1 left
      simpa [tail] using whole.andThen fun t left => Source.takeFraction_none (ends.2 noPeriod) left
  | @decimal _ fraction some digits someMore more =>
      obtain ⟨c, run, rfl⟩ := List.exists_cons_of_ne_nil some
      have others : ∀ x ∈ run, x.isDigit = true := (List.forall_mem_cons.1 digits).2
      have period : ∀ x ∈ ('.' :: (fraction ++ w)).head?, x.isDigit = false := by simp
      apply cut_of_head [c] rfl h
      intro t left
      have left : t.pending = (run ++ ('.' :: (fraction ++ w))).map .char := by simpa using left
      have whole := Source.takeWhile_text Char.isDigit others period left
      exact whole.andThen fun t left => Source.takeFraction_some someMore more ends.1 left
  | @lineComment body noBreak =>
      apply cut_of_head ['-', '-'] rfl h
      intro t left
      apply Source.takeWhile_text _ _ _ left
      · intro x mem
        simpa using noBreak x mem
      · intro x front
        rcases ends x front with rfl | rfl
        · rfl
        · rfl
  | @blockComment body free =>
      apply cut_of_head ['/', '*'] rfl h
      intro t left
      exact Source.takeComment_closed free (by simpa using left)
  | operator spelled =>
      rw [← List.append_nil u]
      exact cut_of_head u spelled.width h fun t left => ⟨rfl, rfl, left⟩

end Rule

end SqlLex
