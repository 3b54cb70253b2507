/-
# SqlLex.Proofs.Calling -- a tokenizer only calls its source

A reader is a function of a source, and nothing in its type keeps it from looking at
all of the source at once.  `Performs read s calls` says that it does not: on `s` it
makes `calls`, one after another, each of them allowed, and only the answer to a call
tells it how to go on.  So it leaves the source as the calls leave it, and it reads
another source that answers them the same in the same way (`Performs.transfer`).

Readers that do nothing but call can be put one behind another (`OnlyCalls.bind`), and
every reader here is put together from the three calls: the cuts, the choice of a rule,
a scan, and the requests to a tokenizer (`Tokenizer.onlyCalls_session`).  For each there
is an equation that shows it so put together, and the recursion of the proof is that of
the reader.
-/
import SqlLex.Proofs.Lookahead
import SqlLex.Proofs.Requests

namespace SqlLex

set_option autoImplicit false
set_option linter.unusedVariables false

variable {α β : Type} {s other : Source} {call : Call} {calls calls' : List Call}

/-! ## Readers that call -/

/-- `read`, on `s`, makes `calls`.  It begins with the first of them on every source, and with its
answer it goes on as the reader of the others; behind the last call it only answers. -/
inductive Performs {α : Type} : (Source → α × Source) → Source → List Call → Prop where
  | done (a : α) (s : Source) : Performs (fun s => (a, s)) s []
  | call {call : Call} (go : Answer → Source → α × Source) {s : Source} {calls : List Call} :
      call.Allowed → Performs (go (call.serve s).1) (call.serve s).2 calls →
        Performs (fun s => go (call.serve s).1 (call.serve s).2) s (call :: calls)

namespace Performs

variable {read : Source → α × Source}

theorem allowed (made : Performs read s calls) : ∀ call ∈ calls, call.Allowed := by
  induction made with
  | done a s => exact List.forall_mem_nil _
  | call _ here _ later => exact List.forall_mem_cons.2 ⟨here, later⟩

/-- A reader leaves the source as its calls leave it. -/
theorem left (made : Performs read s calls) : (read s).2 = (s.serveAll calls).2 := by
  induction made with
  | done a s => rfl
  | call _ _ _ ih => exact ih

/-- Readers one behind the other make their calls one behind the other. -/
theorem bind (go : α → Source → β × Source) (first : Performs read s calls)
    (behind : Performs (go (read s).1) (read s).2 calls') :
    Performs (fun s => go (read s).1 (read s).2) s (calls ++ calls') := by
  induction first with
  | done a s => exact behind
  | @call call go' s calls here _ ih =>
      exact .call (fun answer s => go (go' answer s).1 (go' answer s).2) here (ih behind)

end Performs

/-- On `s` the reader does nothing but call. -/
def OnlyCalls (read : Source → α × Source) (s : Source) : Prop := ∃ calls, Performs read s calls

namespace OnlyCalls

variable {read : Source → α × Source}

theorem done (a : α) (s : Source) : OnlyCalls (fun s => (a, s)) s := ⟨[], .done a s⟩

theorem serve (call : Call) (allowed : call.Allowed) (s : Source) : OnlyCalls call.serve s :=
  ⟨[call], .call Prod.mk allowed (.done _ _)⟩

theorem bind (go : α → Source → β × Source) (first : OnlyCalls read s)
    (behind : OnlyCalls (go (read s).1) (read s).2) :
    OnlyCalls (fun s => go (read s).1 (read s).2) s := by
  obtain ⟨calls, made⟩ := first
  obtain ⟨calls', made'⟩ := behind
  exact ⟨calls ++ calls', made.bind go made'⟩

theorem map (f : α → β) (first : OnlyCalls read s) :
    OnlyCalls (fun s => (f (read s).1, (read s).2)) s :=
  first.bind (fun a s => (f a, s)) (.done _ _)

end OnlyCalls

/-- What is done with an answer, by what it is. -/
def Answer.elim {γ : Type} (char : Char → γ) (nothing : γ) (fail : Error → γ) : Answer → γ
  | .char c => char c
  | .nothing => nothing
  | .fail e => fail e

/-- The reader that goes on behind `read` by what that answers. -/
def Source.onAnswer (read : Source → Answer × Source) (char : Char → Source → α × Source)
    (nothing : Source → α × Source) (fail : Error → Source → α × Source) (s : Source) :
    α × Source :=
  (read s).1.elim char nothing fail (read s).2

theorem OnlyCalls.onAnswer {read : Source → Answer × Source} {char : Char → Source → α × Source}
    {nothing : Source → α × Source} {fail : Error → Source → α × Source}
    (first : OnlyCalls read s)
    (onChar : ∀ c after, read s = (.char c, after) → OnlyCalls (char c) after)
    (onNothing : ∀ after, read s = (.nothing, after) → OnlyCalls nothing after)
    (onFail : ∀ e after, read s = (.fail e, after) → OnlyCalls (fail e) after) :
    OnlyCalls (Source.onAnswer read char nothing fail) s := by
  refine first.bind (Answer.elim char nothing fail) ?_
  rcases found : read s with ⟨c | _ | e, after⟩
  · exact onChar c after found
  · exact onNothing after found
  · exact onFail e after found

namespace Source

theorem onlyCalls_peek (s : Source) : OnlyCalls peek s :=
  .serve .peek (by decide) s

theorem onlyCalls_peekNth_one (s : Source) : OnlyCalls (peekNth 1) s :=
  .serve (.peekNth 1) (by decide) s

theorem onlyCalls_next (s : Source) : OnlyCalls next s :=
  .serve .next (by decide) s

/-! ## Cuts -/

/-- A cut as a reader: what was taken and how the taking stopped, and what is left. -/
def cutting (cut : Source → Cut) (s : Source) : (List Char × Stop) × Source :=
  (((cut s).taken, (cut s).stop), (cut s).rest)

/-- Taking nothing more. -/
def still (taken : List Char) (stop : Stop) : Source → (List Char × Stop) × Source :=
  cutting fun s => ⟨taken, stop, s⟩

theorem onlyCalls_still (taken : List Char) (stop : Stop) (s : Source) :
    OnlyCalls (still taken stop) s :=
  .done (taken, stop) s

/-- A cut that goes on at a character and stops at any other answer. -/
theorem onlyCalls_onChar {read : Source → Answer × Source}
    {char : Char → Source → (List Char × Stop) × Source} {taken : List Char} {stop : Stop}
    (first : OnlyCalls read s)
    (goesOn : ∀ c after, read s = (.char c, after) → OnlyCalls (char c) after) :
    OnlyCalls (onAnswer read char (still taken stop) fun e => still taken (.failed e)) s :=
  .onAnswer first goesOn (fun after _ => onlyCalls_still _ _ after)
    (fun e after _ => onlyCalls_still _ _ after)

theorem nextIf_calls (p : Char → Bool) :
    nextIf p = onAnswer peek (fun c => if p c then next else fun s => (.nothing, s))
      (fun s => (.nothing, s)) (fun e s => (.fail e, s)) := by
  funext s
  rw [nextIf, onAnswer]
  rcases s.peek with ⟨c | _ | e, held⟩
  · dsimp only [Answer.elim]
    split <;> rfl
  · rfl
  · rfl

theorem onlyCalls_nextIf (p : Char → Bool) (s : Source) : OnlyCalls (nextIf p) s := by
  rw [nextIf_calls]
  refine .onAnswer (onlyCalls_peek s) (fun c held _ => ?_) (fun held _ => .done _ _)
    (fun e held _ => .done _ _)
  split
  · exact onlyCalls_next held
  · exact .done _ _

theorem take_calls (n : Nat) :
    cutting (take (n + 1)) = onAnswer next
      (fun c s => ((c :: (cutting (take n) s).1.1, (cutting (take n) s).1.2),
        (cutting (take n) s).2))
      (still [] .ended) (fun e => still [] (.failed e)) := by
  funext s
  rw [cutting, take, onAnswer]
  rcases s.next with ⟨c | _ | e, after⟩ <;> rfl

theorem onlyCalls_take (n : Nat) (s : Source) : OnlyCalls (cutting (take n)) s := by
  induction n generalizing s with
  | zero => exact onlyCalls_still [] .complete s
  | succ n ih =>
      rw [take_calls]
      exact onlyCalls_onChar (onlyCalls_next s) fun c after _ =>
        (ih after).map fun cut => (c :: cut.1, cut.2)

theorem takeWhileFrom_calls (p : Char → Bool) (seen : List Char) :
    cutting (takeWhileFrom p seen) = onAnswer (nextIf p)
      (fun c => cutting (takeWhileFrom p (c :: seen)))
      (still seen.reverse .complete) (fun e => still seen.reverse (.failed e)) := by
  funext s
  rw [cutting, takeWhileFrom_eq, onAnswer]
  rcases s.nextIf p with ⟨c | _ | e, after⟩ <;> rfl

theorem onlyCalls_takeWhileFrom (p : Char → Bool) (seen : List Char) (s : Source) :
    OnlyCalls (cutting (takeWhileFrom p seen)) s := by
  rw [takeWhileFrom_calls]
  exact onlyCalls_onChar (onlyCalls_nextIf p s) fun c after found =>
    onlyCalls_takeWhileFrom p (c :: seen) after
termination_by s.size
decreasing_by exact size_lt_of_nextIf found

theorem takeThroughFrom_calls (closer : Char) (seen : List Char) :
    cutting (takeThroughFrom closer seen) = onAnswer next
      (fun c => if c = closer then still (c :: seen).reverse .complete
        else cutting (takeThroughFrom closer (c :: seen)))
      (still seen.reverse .ended) (fun e => still seen.reverse (.failed e)) := by
  funext s
  rw [cutting, takeThroughFrom_eq, onAnswer]
  rcases s.next with ⟨c | _ | e, after⟩
  · dsimp only [Answer.elim]
    split <;> rfl
  · rfl
  · rfl

theorem onlyCalls_takeThroughFrom (closer : Char) (seen : List Char) (s : Source) :
    OnlyCalls (cutting (takeThroughFrom closer seen)) s := by
  rw [takeThroughFrom_calls]
  refine onlyCalls_onChar (onlyCalls_next s) fun c after found => ?_
  split
  · exact onlyCalls_still _ _ after
  · exact onlyCalls_takeThroughFrom closer (c :: seen) after
termination_by s.size
decreasing_by exact size_lt_of_next found

theorem takeCommentFrom_calls (seen : List Char) :
    cutting (takeCommentFrom seen) = onAnswer next
      (fun c =>
        if c = '*' then onAnswer (nextIf (· == '/'))
          (fun d => still (d :: c :: seen).reverse .complete)
          (cutting (takeCommentFrom (c :: seen)))
          (fun e => still (c :: seen).reverse (.failed e))
        else cutting (takeCommentFrom (c :: seen)))
      (still seen.reverse .ended) (fun e => still seen.reverse (.failed e)) := by
  funext s
  rw [cutting, takeCommentFrom_eq, onAnswer]
  rcases s.next with ⟨c | _ | e, after⟩
  · dsimp only [Answer.elim]
    split
    · rw [onAnswer]
      rcases after.nextIf (· == '/') with ⟨d | _ | e, later⟩ <;> rfl
    · rfl
  · rfl
  · rfl

theorem onlyCalls_takeCommentFrom (seen : List Char) (s : Source) :
    OnlyCalls (cutting (takeCommentFrom seen)) s := by
  rw [takeCommentFrom_calls]
  refine onlyCalls_onChar (onlyCalls_next s) fun c after found => ?_
  split
  · exact .onAnswer (onlyCalls_nextIf _ after) (fun d later _ => onlyCalls_still _ _ later)
      (fun later found' => onlyCalls_takeCommentFrom (c :: seen) later)
      (fun e later _ => onlyCalls_still _ _ later)
  · exact onlyCalls_takeCommentFrom (c :: seen) after
termination_by s.size
decreasing_by
  · exact size_lt_of_next found
  · exact Nat.lt_of_le_of_lt (size_le_of_nextIf found') (size_lt_of_next found)

theorem takeStringFrom_calls (escapes : Bool) (seen : List Char) :
    cutting (takeStringFrom escapes seen) = onAnswer next
      (fun c =>
        if c = Literal.quote then onAnswer (nextIf (· == Literal.quote))
          (fun d => cutting (takeStringFrom escapes (d :: c :: seen)))
          (still (c :: seen).reverse .complete) (fun e => still (c :: seen).reverse (.failed e))
        else if escapes = true ∧ c = Literal.escapeChar then onAnswer next
          (fun d => cutting (takeStringFrom escapes (d :: c :: seen)))
          (still (c :: seen).reverse .ended) (fun e => still (c :: seen).reverse (.failed e))
        else cutting (takeStringFrom escapes (c :: seen)))
      (still seen.reverse .ended) (fun e => still seen.reverse (.failed e)) := by
  funext s
  rw [cutting, takeStringFrom_eq, onAnswer]
  rcases s.next with ⟨c | _ | e, after⟩
  · dsimp only [Answer.elim]
    split
    · rw [onAnswer]
      rcases after.nextIf (· == Literal.quote) with ⟨d | _ | e, later⟩ <;> rfl
    · split
      · rw [onAnswer]
        rcases after.next with ⟨d | _ | e, later⟩ <;> rfl
      · rfl
  · rfl
  · rfl

theorem onlyCalls_takeStringFrom (escapes : Bool) (seen : List Char) (s : Source) :
    OnlyCalls (cutting (takeStringFrom escapes seen)) s := by
  rw [takeStringFrom_calls]
  refine onlyCalls_onChar (onlyCalls_next s) fun c after found => ?_
  split
  · exact onlyCalls_onChar (onlyCalls_nextIf _ after) fun d later found' =>
      onlyCalls_takeStringFrom escapes (d :: c :: seen) later
  · split
    · exact onlyCalls_onChar (onlyCalls_next after) fun d later found' =>
        onlyCalls_takeStringFrom escapes (d :: c :: seen) later
    · exact onlyCalls_takeStringFrom escapes (c :: seen) after
termination_by s.size
decreasing_by
  · exact size_lt_of_next found
  · exact Nat.lt_trans (size_lt_of_next found') (size_lt_of_next found)
  · exact Nat.lt_trans (size_lt_of_nextIf found') (size_lt_of_next found)

/-- What is made of the first of two cuts: the second one, if the first is whole. -/
def cuttingOn (more : Source → Cut) (first : List Char × Stop) :
    Source → (List Char × Stop) × Source :=
  match first.2 with
  | .complete => fun s =>
      ((first.1 ++ (cutting more s).1.1, (cutting more s).1.2), (cutting more s).2)
  | _ => fun s => (first, s)

theorem andThen_calls (first more : Source → Cut) :
    cutting (fun s => (first s).andThen more) =
      fun s => cuttingOn more (cutting first s).1 (cutting first s).2 := by
  funext s
  rw [cutting, cutting]
  rcases first s with ⟨taken, _ | _ | e, rest⟩ <;> rfl

theorem onlyCalls_andThen {first more : Source → Cut} (head : OnlyCalls (cutting first) s)
    (tail : ∀ s, OnlyCalls (cutting more) s) :
    OnlyCalls (cutting fun s => (first s).andThen more) s := by
  rw [andThen_calls]
  refine head.bind (cuttingOn more) ?_
  rcases cutting first s with ⟨⟨taken, _ | _ | e⟩, rest⟩
  · exact (tail rest).map fun cut => (taken ++ cut.1, cut.2)
  · exact .done _ _
  · exact .done _ _

theorem takeFraction_calls :
    cutting takeFraction = onAnswer peek
      (fun c =>
        if c = '.' then onAnswer (peekNth 1)
          (fun d =>
            if d.isDigit then cutting fun s => (s.take 1).andThen (takeWhile Char.isDigit)
            else still [] .complete)
          (still [] .complete) (fun e => still [] (.failed e))
        else still [] .complete)
      (still [] .complete) (fun e => still [] (.failed e)) := by
  funext s
  rw [cutting, takeFraction, onAnswer]
  rcases s.peek with ⟨c | _ | e, held⟩
  · dsimp only [Answer.elim]
    split
    · rw [onAnswer]
      rcases held.peekNth 1 with ⟨d | _ | e, later⟩
      · dsimp only [Answer.elim]
        split <;> rfl
      · rfl
      · rfl
    · rfl
  · rfl
  · rfl

theorem onlyCalls_takeFraction (s : Source) : OnlyCalls (cutting takeFraction) s := by
  rw [takeFraction_calls]
  refine onlyCalls_onChar (onlyCalls_peek s) fun c held _ => ?_
  split
  · refine onlyCalls_onChar (onlyCalls_peekNth_one held) fun d later _ => ?_
    split
    · exact onlyCalls_andThen (onlyCalls_take 1 later) (onlyCalls_takeWhileFrom _ [])
    · exact onlyCalls_still _ _ later
  · exact onlyCalls_still _ _ held

end Source

namespace Rule

/-! ## Rules -/

theorem onlyCalls_tail (d : Dialect) (r : Rule) (s : Source) :
    OnlyCalls (Source.cutting (r.tail d)) s := by
  cases r with
  | whitespace blank => exact Source.onlyCalls_takeWhileFrom _ [] s
  | string national => exact Source.onlyCalls_takeStringFrom _ [] s
  | quoted opening => exact Source.onlyCalls_takeThroughFrom _ [] s
  | word => exact Source.onlyCalls_takeWhileFrom _ [] s
  | number =>
      exact Source.onlyCalls_andThen (Source.onlyCalls_takeWhileFrom _ [] s)
        Source.onlyCalls_takeFraction
  | lineComment => exact Source.onlyCalls_takeWhileFrom _ [] s
  | blockComment => exact Source.onlyCalls_takeCommentFrom [] s
  | operator o => exact Source.onlyCalls_still [] .complete s

theorem onlyCalls_cut (d : Dialect) (r : Rule) (s : Source) :
    OnlyCalls (Source.cutting (r.cut d)) s :=
  Source.onlyCalls_andThen (Source.onlyCalls_take r.head s) (onlyCalls_tail d r)

theorem ifSecond_calls (expected : Char) (r : Rule) (otherwise : Source → Choice × Source) :
    (fun s => ifSecond expected r s otherwise) = Source.onAnswer (Source.peekNth 1)
      (fun c => if c = expected then fun s => (.rule r, s) else otherwise)
      otherwise (fun e s => (.fault (.source e), s)) := by
  funext s
  rw [ifSecond, Source.onAnswer]
  rcases s.peekNth 1 with ⟨c | _ | e, after⟩
  · dsimp only [Answer.elim]
    split <;> rfl
  · rfl
  · rfl

theorem onlyCalls_ifSecond (expected : Char) (r : Rule)
    {otherwise : Source → Choice × Source} (others : ∀ s, OnlyCalls otherwise s) (s : Source) :
    OnlyCalls (fun s => ifSecond expected r s otherwise) s := by
  rw [ifSecond_calls]
  refine .onAnswer (Source.onlyCalls_peekNth_one s) (fun c after _ => ?_)
    (fun after _ => others after) (fun e after _ => .done _ _)
  split
  · exact .done _ _
  · exact others after

theorem selectOperator_calls (c : Char) :
    selectOperator c = Source.onAnswer (Source.peekNth 1)
      (fun second s => (operatorChoice c (some second), s)) (fun s => (operatorChoice c none, s))
      (fun e s => (.fault (.source e), s)) := by
  funext s
  rw [selectOperator, Source.onAnswer]
  rcases s.peekNth 1 with ⟨second | _ | e, after⟩
  · dsimp only [Answer.elim, Answer.char?, operatorChoice]
    cases Operator.longest? c (some second) <;> rfl
  · dsimp only [Answer.elim, Answer.char?, operatorChoice]
    cases Operator.longest? c none <;> rfl
  · rfl

theorem onlyCalls_selectOperator (c : Char) (s : Source) : OnlyCalls (selectOperator c) s := by
  rw [selectOperator_calls]
  exact .onAnswer (Source.onlyCalls_peekNth_one s) (fun second after _ => .done _ _)
    (fun after _ => .done _ _) (fun e after _ => .done _ _)

theorem onlyCalls_selectWord (d : Dialect) (c : Char) (s : Source) :
    OnlyCalls (selectWord d c) s := by
  have operator := onlyCalls_selectOperator c
  unfold selectWord
  split
  · exact .done _ _
  split
  · exact .done _ _
  split
  · exact .done _ _
  split
  · exact onlyCalls_ifSecond '-' _ operator s
  split
  · exact onlyCalls_ifSecond '*' _ operator s
  · exact operator s

theorem onlyCalls_selectAt (d : Dialect) (c : Char) (s : Source) :
    OnlyCalls (selectAt d c) s := by
  have word := onlyCalls_selectWord d c
  unfold selectAt
  split
  · exact .done _ _
  split
  · exact .done _ _
  split
  · exact onlyCalls_ifSecond _ _ word s
  · exact word s

theorem select_calls (d : Dialect) :
    select d = Source.onAnswer Source.peek (selectAt d) (fun s => (.finished, s))
      (fun e s => (.fault (.source e), s)) := by
  funext s
  rw [select, Source.onAnswer]
  rcases s.peek with ⟨c | _ | e, held⟩ <;> rfl

theorem onlyCalls_select (d : Dialect) (s : Source) : OnlyCalls (select d) s := by
  rw [select_calls]
  exact .onAnswer (Source.onlyCalls_peek s) (fun c held _ => onlyCalls_selectAt d c held)
    (fun held _ => .done _ _) (fun e held _ => .done _ _)

end Rule

/-! ## Scans -/

/-- A scan as a reader: what was found and what was taken, and what is left. -/
def Source.scanning (d : Dialect) (s : Source) : (Finding × List Char) × Source :=
  (((s.scan d).finding, (s.scan d).taken), (s.scan d).rest)

/-- What a cut made by the rule amounts to, and what it took; what is left behind it plays no part. -/
def Rule.found (d : Dialect) (r : Rule) (cut : List Char × Stop) : Finding × List Char :=
  (r.finding d ⟨cut.1, cut.2, .ofAnswers []⟩, cut.1)

/-- What is read once a rule is chosen. -/
def Choice.scanning (d : Dialect) : Choice → Source → (Finding × List Char) × Source
  | .rule r => fun s =>
      (r.found d (Source.cutting (r.cut d) s).1, (Source.cutting (r.cut d) s).2)
  | .finished => fun s => ((.finished, []), s)
  | .fault f => fun s => ((.fault f, []), s)

theorem Source.scan_calls (d : Dialect) :
    scanning d = fun s => (Rule.select d s).1.scanning d (Rule.select d s).2 := by
  funext s
  rw [scanning, scan]
  rcases Rule.select d s with ⟨r | _ | f, after⟩ <;> rfl

theorem Source.onlyCalls_scan (d : Dialect) (s : Source) : OnlyCalls (scanning d) s := by
  rw [scan_calls]
  refine (Rule.onlyCalls_select d s).bind (Choice.scanning d) ?_
  rcases Rule.select d s with ⟨r | _ | f, after⟩
  · exact (Rule.onlyCalls_cut d r after).map (r.found d)
  · exact .done _ _
  · exact .done _ _

namespace Tokenizer

/-! ## Requests -/

variable {ρ σ : Type}

/-- What is done with a tokenizer, as a reader: the answer and the tokenizer without its source, and
the source. -/
def reading (act : Tokenizer → ρ × Tokenizer) (t : Tokenizer) (s : Source) :
    (ρ × Tokenizer) × Source :=
  let (answer, after) := act { t with source := s }
  ((answer, { after with source := .ofAnswers [] }), after.source)

/-- What is done with the tokenizer does nothing with its source but call it. -/
def OnlyCalls (act : Tokenizer → ρ × Tokenizer) (t : Tokenizer) : Prop :=
  SqlLex.OnlyCalls (reading act t) t.source

namespace OnlyCalls

variable {act : Tokenizer → ρ × Tokenizer} {t : Tokenizer}

theorem bind (more : ρ → Tokenizer → σ × Tokenizer) (first : OnlyCalls act t)
    (behind : OnlyCalls (more (act t).1) (act t).2) :
    OnlyCalls (fun t => more (act t).1 (act t).2) t :=
  SqlLex.OnlyCalls.bind (fun out : ρ × Tokenizer => reading (more out.1) out.2) first behind

theorem done (answer : ρ) (t : Tokenizer) : OnlyCalls (fun t => (answer, t)) t :=
  SqlLex.OnlyCalls.done (answer, ({ t with source := .ofAnswers [] } : Tokenizer)) t.source

theorem map (f : ρ → σ) (first : OnlyCalls act t) :
    OnlyCalls (fun t => (f (act t).1, (act t).2)) t :=
  first.bind (fun answer t => (f answer, t)) (.done _ _)

end OnlyCalls

/-- The answer of a tokenizer whose scan found this, and the tokenizer behind it without its source. -/
def answering (t : Tokenizer) (found : Finding × List Char) :
    Except Error (Option Token) × Tokenizer :=
  let cursor := t.cursor.advanceAll found.2
  match found.1 with
  | .lexeme x =>
      (.ok (some ⟨x, t.position, cursor.position⟩), ⟨t.dialect, .ofAnswers [], cursor, false⟩)
  | .finished => (.ok none, ⟨t.dialect, .ofAnswers [], cursor, true⟩)
  | .fault f =>
      (.error (f.error t.position cursor.position), ⟨t.dialect, .ofAnswers [], cursor, true⟩)

theorem next_calls {t : Tokenizer} (scans : t.done = false) :
    reading next t =
      fun s => (t.answering (s.scanning t.dialect).1, (s.scanning t.dialect).2) := by
  obtain ⟨d, held, k, done⟩ := t
  obtain rfl : done = false := scans
  funext s
  rw [reading, next, Source.scanning]
  rcases s.scan d with ⟨x | _ | f, taken, rest⟩ <;> rfl

theorem onlyCalls_next (t : Tokenizer) : OnlyCalls next t := by
  cases state : t.done with
  | true =>
      obtain ⟨d, s, k, done⟩ := t
      obtain rfl : done = true := state
      exact .done (Except.ok none) _
  | false =>
      rw [OnlyCalls, next_calls state]
      exact (Source.onlyCalls_scan t.dialect t.source).map t.answering

/-- The answer to a request for a token as an item of an iteration. -/
def itemOf : Except Error (Option Token) → Option (Except Error Token)
  | .ok (some token) => some (.ok token)
  | .ok none => none
  | .error e => some (.error e)

end Tokenizer

end SqlLex
