/-
# SqlLex.Proofs.Stepping -- a run is one call after another

`Tokenizer.tokenize` reads in a loop that carries the tokens it has seen.  Seen from
outside, a run is its first token and the run of the tokenizer behind it
(`tokenize_of_token`), or it is over (`tokenize_of_none`, `tokenize_of_error`), and
where it is over the tokenizer is done (`done_tokenize`).

`Tokenizer.slices` are the characters that the calls of a run consumed, token by
token: there are as many slices as tokens (`length_slices`), and over a text they are
the slices of its reading (`slices_of_reading`).
-/
import SqlLex.Proofs.Boundary

namespace SqlLex

set_option autoImplicit false
set_option linter.unusedVariables false

/-- The error of an outcome, if there was one. -/
def Tokenizer.errorOf? : Except Failure (List Token) → Option Error
  | .ok _ => none
  | .error failure => some failure.error

/-- A scan that finds a lexeme has cut a whole slice by some rule, and the lexeme is what the rule says
of it. -/
theorem Source.rule_of_scan {d : Dialect} {s : Source} {x : Lexeme}
    (found : (s.scan d).finding = .lexeme x) :
    ∃ (r : Rule) (held : Source), (r.cut d held).stop = .complete ∧
      (s.scan d).taken = (r.cut d held).taken ∧ x = r.lexeme d (s.scan d).taken := by
  unfold scan at found ⊢
  split at found
  · next r held selected =>
    dsimp only [Rule.finding] at found
    split at found
    · next whole => exact ⟨r, held, whole, rfl, (Finding.lexeme.inj found).symm⟩
    · split at found <;> cases found
    · cases found
  · cases found
  · cases found

namespace Tokenizer

variable {d : Dialect} {t after : Tokenizer} {token : Token} {e : Error}

/-- **A call that answers a token has scanned one lexeme**, which lies between the cursors in front of
and behind the characters that the scan took. -/
theorem scan_of_next (h : t.next = (.ok (some token), after)) :
    let scan := t.source.scan t.dialect
    scan.finding = .lexeme token.toLexeme ∧
      after = ⟨t.dialect, scan.rest, t.cursor.advanceAll scan.taken, false⟩ ∧
      token.start = t.position ∧ token.stop = (t.cursor.advanceAll scan.taken).position := by
  intro scan
  unfold next at h
  split at h
  · simp at h
  dsimp only at h
  split at h
  · next x found =>
    simp only [Prod.mk.injEq, Except.ok.injEq, Option.some.injEq] at h
    obtain ⟨rfl, rfl⟩ := h
    exact ⟨found, rfl, rfl, rfl⟩
  · simp at h
  · simp at h

/-! ## Outcomes with tokens in front -/

@[simp] theorem prepend_nil (outcome : Except Failure (List Token)) :
    prepend [] outcome = outcome := by
  cases outcome <;> rfl

theorem prepend_append (tokens more : List Token) (outcome : Except Failure (List Token)) :
    prepend (tokens ++ more) outcome = prepend tokens (prepend more outcome) := by
  cases outcome <;> simp [prepend]

@[simp] theorem tokensOf_prepend (tokens : List Token) (outcome : Except Failure (List Token)) :
    tokensOf (prepend tokens outcome) = tokens ++ tokensOf outcome := by
  cases outcome <;> rfl

@[simp] theorem errorOf?_prepend (tokens : List Token) (outcome : Except Failure (List Token)) :
    errorOf? (prepend tokens outcome) = errorOf? outcome := by
  cases outcome <;> rfl

/-! ## The first call of a run -/

/-- Tokens seen before the loop began stand in front of those that it reads. -/
theorem tokenizeFrom_append (seen earlier : List Token) (t : Tokenizer) :
    tokenizeFrom (seen ++ earlier) t =
      (prepend earlier.reverse (tokenizeFrom seen t).1, (tokenizeFrom seen t).2) := by
  fun_induction tokenizeFrom seen t with
  | case1 seen t token after h ih =>
      rw [tokenizeFrom_eq, h]
      exact ih
  | case2 seen t after h =>
      rw [tokenizeFrom_eq, h]
      simp [prepend]
  | case3 seen t e after h =>
      rw [tokenizeFrom_eq, h]
      simp [prepend]

/-- A run that begins with a token goes on as the run behind it. -/
theorem tokenize_of_token (h : t.next = (.ok (some token), after)) :
    t.tokenize = (prepend [token] after.tokenize.1, after.tokenize.2) := by
  rw [tokenize, tokenizeFrom_eq, h]
  exact tokenizeFrom_append [] [token] after

theorem tokenize_of_none (h : t.next = (.ok none, after)) : t.tokenize = (.ok [], after) := by
  rw [tokenize, tokenizeFrom_eq, h]
  rfl

theorem tokenize_of_error (h : t.next = (.error e, after)) :
    t.tokenize = (.error ⟨e, []⟩, after) := by
  rw [tokenize, tokenizeFrom_eq, h]
  rfl

/-! ## Done -/

/-- Where a call answers no token, the tokenizer is done. -/
theorem done_of_next (none : ∀ token after, t.next ≠ (.ok (some token), after)) :
    t.next.2.done = true := by
  unfold next at none ⊢
  split
  · assumption
  · dsimp only at none ⊢
    split <;> simp_all

/-- A run whose first call answers no token has none. -/
theorem tokensOf_of_none (none : ∀ token after, t.next ≠ (.ok (some token), after)) :
    tokensOf t.tokenize.1 = [] := by
  rcases found : t.next with ⟨e | _ | token, after⟩
  · rw [tokenize_of_error found]
    rfl
  · rw [tokenize_of_none found]
    rfl
  · exact absurd found (none token after)

/-- A run leaves the tokenizer done. -/
theorem done_tokenize (t : Tokenizer) : t.tokenize.2.done = true := by
  suffices loop : ∀ seen, (tokenizeFrom seen t).2.done = true from loop []
  intro seen
  fun_induction tokenizeFrom seen t with
  | case1 seen t token after h ih => exact ih
  | case2 seen t after h => simpa [h] using done_of_next (t := t)
  | case3 seen t e after h => simpa [h] using done_of_next (t := t)

/-! ## What a run consumes -/

/-- The characters that the calls of a run consumed, token by token. -/
def slices (t : Tokenizer) : List (List Char) :=
  match h : t.next with
  | (.ok (some _), after) => (t.source.scan t.dialect).taken :: slices after
  | _ => []
termination_by t.source.size
decreasing_by exact size_lt_of_next h

theorem slices_of_token (h : t.next = (.ok (some token), after)) :
    t.slices = (t.source.scan t.dialect).taken :: after.slices := by
  rw [slices]
  split <;> simp_all

theorem slices_of_none (none : ∀ token after, t.next ≠ (.ok (some token), after)) :
    t.slices = [] := by
  rw [slices]
  split <;> simp_all

/-- A run consumes one slice for each token. -/
theorem length_slices (t : Tokenizer) : t.slices.length = (tokensOf t.tokenize.1).length := by
  fun_induction slices t with
  | case1 t token after h ih =>
      rw [tokenize_of_token h, tokensOf_prepend]
      simpa using ih
  | case2 t other => simp [tokensOf_of_none other]

/-- The tokens of a run lie where their slices lie. -/
theorem placed_of_slices (t : Tokenizer) (i : Nat)
    (here : (tokensOf t.tokenize.1)[i]? = some token) :
    token.start = (t.cursor.advanceAll (t.slices.take i).flatten).position ∧
      token.stop = (t.cursor.advanceAll (t.slices.take (i + 1)).flatten).position := by
  fun_induction slices t generalizing i with
  | case1 t first after h ih =>
      obtain ⟨-, rfl, start, stop⟩ := scan_of_next h
      rw [tokenize_of_token h, tokensOf_prepend] at here
      cases i with
      | zero =>
          obtain rfl : first = token := by simpa using here
          exact ⟨start, by simpa using stop⟩
      | succ i =>
          have placed := ih i (by simpa using here)
          simpa [Cursor.advanceAll_append] using placed
  | case2 t other =>
      rw [tokensOf_of_none other] at here
      cases here

/-- **Over a text the slices of a run are those of its reading.** -/
theorem slices_of_reading {fault : Option Fault} {cs taken left : List Char} {ps : List Piece}
    {s : Source} (reading : Reading d (taken ++ left) cs ps) (halts : Halts d fault taken left)
    (k : Cursor) (text : s.pending = cs.map .char) :
    (⟨d, s, k, false⟩ : Tokenizer).slices = ps.map Piece.slice := by
  generalize same : taken ++ left = last at reading
  induction reading generalizing s k with
  | done =>
      subst same
      have scan := Source.scan_of_halts halts text
      apply slices_of_none
      intro token after found
      cases fault <;> simp [next, scan.finding, Fault.finding] at found
  | @step p rest ps covers _ ih =>
      obtain ⟨after, rest, first⟩ := next_of_covers (k := k) covers text
      rw [slices_of_token first, ih _ rest, List.map_cons,
        (Source.scan_of_covers covers text).taken]

end Tokenizer

end SqlLex
