/-
# SqlLex.Proofs.Progress -- every loop ends, and every token costs a character

A loop makes one turn after another, and each turn either goes on or comes to the
result (`Turn`).  `Turns turn n x r` says that from `x` the loop comes to `r` in
exactly `n` turns.  A loop that goes on only to states of smaller measure comes to
its result within one turn more than the measure (`Turns.of_measure`).

For the loops that read a source the measure is its size: the characters held and
the answers to come.  Nothing is asked of the classes of characters, so the loops end
for every dialect, and from every state of a source (`Source.loopsEnd`).  The loop
that reads tokens makes one turn for each token and one more, and each token has
consumed a character of its own, so there are no more tokens than characters
(`tokenize_ends`).
-/
import Mathlib.Algebra.BigOperators.Group.List.Basic
import SqlLex.Proofs.Keeping
import SqlLex.Proofs.Slicing
import SqlLex.Proofs.Stepping

namespace SqlLex

set_option autoImplicit false

/-! ## Turns -/

section

variable {σ ρ : Type} {turn : σ → ρ ⊕ σ} {loop : σ → ρ} {x y : σ} {r : ρ} {n : Nat}

/-- The loop that makes these turns comes to a result: a turn gives the result on the left or the
state of the next turn on the right. -/
inductive Turns (turn : σ → ρ ⊕ σ) : Nat → σ → ρ → Prop where
  | last {x : σ} {r : ρ} : turn x = .inl r → Turns turn 1 x r
  | more {n : Nat} {x y : σ} {r : ρ} : turn x = .inr y → Turns turn n y r → Turns turn (n + 1) x r

/-- The function computes what the loop comes to, one turn at a time. -/
def Computes (turn : σ → ρ ⊕ σ) (loop : σ → ρ) : Prop :=
  ∀ x, loop x = (turn x).elim id loop

/-- **A loop that goes on only to states of smaller measure comes to its result**, within one turn
more than the measure. -/
theorem Turns.of_measure (measure : σ → Nat) (computes : Computes turn loop)
    (decreases : ∀ x y, turn x = .inr y → measure y < measure x) (x : σ) :
    ∃ n, n ≤ measure x + 1 ∧ Turns turn n x (loop x) := by
  induction bound : measure x using Nat.strongRecOn generalizing x with
  | ind m ih =>
      cases made : turn x with
      | inl r =>
          refine ⟨1, by omega, .last ?_⟩
          rw [computes x, made]
          rfl
      | inr y =>
          have less := decreases x y made
          obtain ⟨n, within, turns⟩ := ih (measure y) (by omega) y rfl
          refine ⟨n + 1, by omega, .more made ?_⟩
          rw [computes x, made]
          exact turns

end

/-! ## The loops that read a source -/

namespace Source

/-- A turn of `look`: holds one more answer. -/
def lookTurn (n : Nat) : List Char × List Answer → (Answer × Source) ⊕ (List Char × List Answer)
  | (ahead, []) => .inl (.nothing, ⟨ahead, []⟩)
  | (ahead, .nothing :: rest) => .inl (.nothing, ⟨ahead, rest⟩)
  | (ahead, .fail e :: rest) => .inl (.fail e, ⟨ahead, rest⟩)
  | (ahead, .char c :: rest) =>
      if ahead.length = n then .inl (.char c, ⟨ahead ++ [c], rest⟩) else .inr (ahead ++ [c], rest)

/-- A turn of `takeWhileFrom`. -/
def takeWhileTurn (p : Char → Bool) (x : List Char × Source) : Cut ⊕ (List Char × Source) :=
  match x.2.nextIf p with
  | (.char c, after) => .inr (c :: x.1, after)
  | (.nothing, after) => .inl ⟨x.1.reverse, .complete, after⟩
  | (.fail e, after) => .inl ⟨x.1.reverse, .failed e, after⟩

/-- A turn of `takeThroughFrom`. -/
def takeThroughTurn (closer : Char) (x : List Char × Source) : Cut ⊕ (List Char × Source) :=
  match x.2.next with
  | (.char c, after) =>
      if c = closer then .inl ⟨(c :: x.1).reverse, .complete, after⟩ else .inr (c :: x.1, after)
  | (.nothing, after) => .inl ⟨x.1.reverse, .ended, after⟩
  | (.fail e, after) => .inl ⟨x.1.reverse, .failed e, after⟩

/-- A turn of `takeCommentFrom`. -/
def takeCommentTurn (x : List Char × Source) : Cut ⊕ (List Char × Source) :=
  match x.2.next with
  | (.char c, after) =>
      if c = '*' then
        match after.nextIf (· == '/') with
        | (.char d, later) => .inl ⟨(d :: c :: x.1).reverse, .complete, later⟩
        | (.nothing, later) => .inr (c :: x.1, later)
        | (.fail e, later) => .inl ⟨(c :: x.1).reverse, .failed e, later⟩
      else .inr (c :: x.1, after)
  | (.nothing, after) => .inl ⟨x.1.reverse, .ended, after⟩
  | (.fail e, after) => .inl ⟨x.1.reverse, .failed e, after⟩

/-- A turn of `takeStringFrom`. -/
def takeStringTurn (escapes : Bool) (x : List Char × Source) : Cut ⊕ (List Char × Source) :=
  match x.2.next with
  | (.char c, after) =>
      if c = Literal.quote then
        match after.nextIf (· == Literal.quote) with
        | (.char d, later) => .inr (d :: c :: x.1, later)
        | (.nothing, later) => .inl ⟨(c :: x.1).reverse, .complete, later⟩
        | (.fail e, later) => .inl ⟨(c :: x.1).reverse, .failed e, later⟩
      else if escapes = true ∧ c = Literal.escapeChar then
        match after.next with
        | (.char d, later) => .inr (d :: c :: x.1, later)
        | (.nothing, later) => .inl ⟨(c :: x.1).reverse, .ended, later⟩
        | (.fail e, later) => .inl ⟨(c :: x.1).reverse, .failed e, later⟩
      else .inr (c :: x.1, after)
  | (.nothing, after) => .inl ⟨x.1.reverse, .ended, after⟩
  | (.fail e, after) => .inl ⟨x.1.reverse, .failed e, after⟩

/-! ### The loops make these turns -/

theorem look_computes (n : Nat) : Computes (lookTurn n) fun x => look n x.1 x.2 := by
  rintro ⟨ahead, _ | ⟨_ | _ | e, rest⟩⟩
  · rfl
  · dsimp only
    rw [look, lookTurn]
    split <;> rfl
  · rfl
  · rfl

theorem takeWhile_computes (p : Char → Bool) :
    Computes (takeWhileTurn p) fun x => x.2.takeWhileFrom p x.1 := by
  rintro ⟨seen, s⟩
  dsimp only
  rw [takeWhileFrom_eq, takeWhileTurn]
  rcases s.nextIf p with ⟨c | _ | e, after⟩ <;> rfl

theorem takeThrough_computes (closer : Char) :
    Computes (takeThroughTurn closer) fun x => x.2.takeThroughFrom closer x.1 := by
  rintro ⟨seen, s⟩
  dsimp only
  rw [takeThroughFrom_eq, takeThroughTurn]
  rcases s.next with ⟨c | _ | e, after⟩
  · dsimp only
    split <;> rfl
  · rfl
  · rfl

theorem takeComment_computes : Computes takeCommentTurn fun x => x.2.takeCommentFrom x.1 := by
  rintro ⟨seen, s⟩
  dsimp only
  rw [takeCommentFrom_eq, takeCommentTurn]
  rcases s.next with ⟨c | _ | e, after⟩
  · dsimp only
    rcases after.nextIf (· == '/') with ⟨d | _ | e, later⟩ <;> split <;> rfl
  · rfl
  · rfl

theorem takeString_computes (escapes : Bool) :
    Computes (takeStringTurn escapes) fun x => x.2.takeStringFrom escapes x.1 := by
  rintro ⟨seen, s⟩
  dsimp only
  rw [takeStringFrom_eq, takeStringTurn]
  rcases s.next with ⟨c | _ | e, after⟩
  · dsimp only
    split
    · rcases after.nextIf (· == Literal.quote) with ⟨d | _ | e, later⟩ <;> rfl
    split
    · rcases after.next with ⟨d | _ | e, later⟩ <;> rfl
    · rfl
  · rfl
  · rfl

/-! ### Each turn that goes on uses answers up -/

variable {x y : List Char × Source}

theorem lookTurn_decreases {n : Nat} {x y : List Char × List Answer}
    (goesOn : lookTurn n x = .inr y) : y.2.length < x.2.length := by
  obtain ⟨ahead, _ | ⟨_ | _ | e, rest⟩⟩ := x
  · cases goesOn
  · rw [lookTurn] at goesOn
    split at goesOn
    · cases goesOn
    · cases goesOn
      simp
  · cases goesOn
  · cases goesOn

theorem takeWhileTurn_decreases {p : Char → Bool} (goesOn : takeWhileTurn p x = .inr y) :
    y.2.size < x.2.size := by
  unfold takeWhileTurn at goesOn
  split at goesOn
  · next c after taken =>
    cases goesOn
    exact size_lt_of_nextIf taken
  · cases goesOn
  · cases goesOn

theorem takeThroughTurn_decreases {closer : Char} (goesOn : takeThroughTurn closer x = .inr y) :
    y.2.size < x.2.size := by
  unfold takeThroughTurn at goesOn
  split at goesOn
  · next c after taken =>
    split at goesOn
    · cases goesOn
    · cases goesOn
      exact size_lt_of_next taken
  · cases goesOn
  · cases goesOn

theorem takeCommentTurn_decreases (goesOn : takeCommentTurn x = .inr y) :
    y.2.size < x.2.size := by
  unfold takeCommentTurn at goesOn
  split at goesOn
  · next c after taken =>
    have less := size_lt_of_next taken
    split at goesOn
    · split at goesOn
      · cases goesOn
      · next later looked =>
        cases goesOn
        exact Nat.lt_of_le_of_lt (size_le_of_nextIf looked) less
      · cases goesOn
    · cases goesOn
      exact less
  · cases goesOn
  · cases goesOn

theorem takeStringTurn_decreases {escapes : Bool} (goesOn : takeStringTurn escapes x = .inr y) :
    y.2.size < x.2.size := by
  unfold takeStringTurn at goesOn
  split at goesOn
  · next c after taken =>
    have less := size_lt_of_next taken
    split at goesOn
    · split at goesOn
      · next d later looked =>
        cases goesOn
        exact Nat.lt_trans (size_lt_of_nextIf looked) less
      · cases goesOn
      · cases goesOn
    split at goesOn
    · split at goesOn
      · next d later next =>
        cases goesOn
        exact Nat.lt_trans (size_lt_of_next next) less
      · cases goesOn
      · cases goesOn
    · cases goesOn
      exact less
  · cases goesOn
  · cases goesOn

/-- Every loop comes to its result, within one turn more than the source has answers, whatever has
been seen before and whatever the classes of characters are. -/
structure LoopsEnd (s : Source) : Prop where
  look : ∀ n, ∃ turns, turns ≤ s.size + 1 ∧
    Turns (lookTurn n) turns (s.ahead, s.rest) (look n s.ahead s.rest)
  takeWhile : ∀ (p : Char → Bool) seen, ∃ turns, turns ≤ s.size + 1 ∧
    Turns (takeWhileTurn p) turns (seen, s) (s.takeWhileFrom p seen)
  takeThrough : ∀ closer seen, ∃ turns, turns ≤ s.size + 1 ∧
    Turns (takeThroughTurn closer) turns (seen, s) (s.takeThroughFrom closer seen)
  takeComment : ∀ seen, ∃ turns, turns ≤ s.size + 1 ∧
    Turns takeCommentTurn turns (seen, s) (s.takeCommentFrom seen)
  takeString : ∀ escapes seen, ∃ turns, turns ≤ s.size + 1 ∧
    Turns (takeStringTurn escapes) turns (seen, s) (s.takeStringFrom escapes seen)

/-- **From every state of a source every loop ends.** -/
theorem loopsEnd (s : Source) : s.LoopsEnd where
  look n := by
    obtain ⟨turns, within, ends⟩ := Turns.of_measure (fun x => x.2.length) (look_computes n)
      (fun _ _ => lookTurn_decreases) (s.ahead, s.rest)
    exact ⟨turns, Nat.le_trans within (by simp [size]), ends⟩
  takeWhile p seen := Turns.of_measure (fun x => x.2.size) (takeWhile_computes p)
    (fun _ _ => takeWhileTurn_decreases) (seen, s)
  takeThrough closer seen := Turns.of_measure (fun x => x.2.size) (takeThrough_computes closer)
    (fun _ _ => takeThroughTurn_decreases) (seen, s)
  takeComment seen := Turns.of_measure (fun x => x.2.size) takeComment_computes
    (fun _ _ => takeCommentTurn_decreases) (seen, s)
  takeString escapes seen := Turns.of_measure (fun x => x.2.size) (takeString_computes escapes)
    (fun _ _ => takeStringTurn_decreases) (seen, s)

end Source

/-! ## The loop that reads tokens -/

namespace Tokenizer

variable {t after : Tokenizer} {token : Token}

/-- A turn of `tokenizeFrom`. -/
def turn (x : List Token × Tokenizer) :
    (Except Failure (List Token) × Tokenizer) ⊕ (List Token × Tokenizer) :=
  match x.2.next with
  | (.ok (some token), after) => .inr (token :: x.1, after)
  | (.ok none, after) => .inl (.ok x.1.reverse, after)
  | (.error e, after) => .inl (.error ⟨e, x.1.reverse⟩, after)

/-- The loop makes one turn for each token that it reads, and one more. -/
theorem turns_tokenizeFrom (seen : List Token) (t : Tokenizer) :
    Turns turn (t.slices.length + 1) (seen, t) (tokenizeFrom seen t) := by
  fun_induction tokenizeFrom seen t with
  | case1 seen t token after h ih =>
      rw [slices_of_token h, List.length_cons]
      exact .more (by simp [turn, h]) ih
  | case2 seen t after h =>
      rw [slices_of_none (by simp [h])]
      exact .last (by simp [turn, h])
  | case3 seen t e after h =>
      rw [slices_of_none (by simp [h])]
      exact .last (by simp [turn, h])

/-- **A token has consumed characters of the source, at least one.** -/
theorem chars_of_token (h : t.next = (.ok (some token), after)) :
    (t.source.scan t.dialect).taken ≠ [] ∧
      (t.source.scan t.dialect).taken ++ after.source.chars = t.source.chars := by
  obtain ⟨found, rfl, -, -⟩ := scan_of_next h
  obtain ⟨r, held, whole, taken, -⟩ := Source.rule_of_scan found
  refine ⟨?_, t.source.taken_append_chars_scan t.dialect⟩
  rw [taken]
  exact Rule.taken_ne_nil whole

/-- The slices of a run are taken off the characters of its source, one behind another, and none is
empty. -/
theorem slices_chars (t : Tokenizer) :
    (∀ slice ∈ t.slices, slice ≠ []) ∧ t.slices.flatten <+: t.source.chars := by
  fun_induction slices t with
  | case1 t token after h ih =>
      obtain ⟨some, kept⟩ := chars_of_token h
      refine ⟨List.forall_mem_cons.2 ⟨some, ih.1⟩, ?_⟩
      rw [List.flatten_cons, ← kept]
      exact (List.prefix_append_right_inj _).2 ih.2
  | case2 t other => exact ⟨by simp, List.nil_prefix⟩

end Tokenizer

/-- **Reading a source ends, and every token costs a character.**  The loop that reads tokens makes one
turn for each token and one more.  Each token has consumed a slice of its own off the characters of
the source, which is not empty and places the token, so there are no more tokens than characters.
And every loop in between ends, wherever the source stands. -/
theorem tokenize_ends (d : Dialect) (answers : List Answer) :
    let t := Tokenizer.ofSource d (.ofAnswers answers)
    let tokens := Tokenizer.tokensOf t.tokenize.1
    let chars := answers.filterMap Answer.char?
    Turns Tokenizer.turn (tokens.length + 1) ([], t) t.tokenize ∧
      t.slices.length = tokens.length ∧ (∀ slice ∈ t.slices, slice ≠ []) ∧
      t.slices.flatten <+: chars ∧
      (∀ (i : Nat) (token : Token), tokens[i]? = some token →
        token.start = Cursor.behind (t.slices.take i).flatten ∧
          token.stop = Cursor.behind (t.slices.take (i + 1)).flatten) ∧
      tokens.length ≤ chars.length ∧ ∀ s : Source, s.LoopsEnd := by
  intro t tokens chars
  have count : t.slices.length = tokens.length := t.length_slices
  obtain ⟨some, consumed⟩ := t.slices_chars
  rw [show t.source.chars = chars from Source.chars_ofAnswers answers] at consumed
  have turns : Turns Tokenizer.turn (t.slices.length + 1) ([], t) t.tokenize :=
    Tokenizer.turns_tokenizeFrom [] t
  refine ⟨count ▸ turns, count, some, consumed, ?_, ?_, Source.loopsEnd⟩
  · exact fun i token here => Tokenizer.placed_of_slices t i here
  · have lengths : ∀ n ∈ t.slices.map List.length, 1 ≤ n :=
      List.forall_mem_map.2 fun slice mem => List.length_pos_iff.2 (some slice mem)
    calc tokens.length = (t.slices.map List.length).length := by rw [List.length_map, count]
      _ ≤ (t.slices.map List.length).sum := List.length_le_sum_of_one_le _ lengths
      _ = t.slices.flatten.length := List.length_flatten.symm
      _ ≤ chars.length := consumed.length_le

end SqlLex
