/-
# SqlLex.Proofs.Contiguity -- the tokens lie on the text without a gap

Whatever the dialect and whether or not reading fails, the tokens lie on
consecutive slices of the text: `Tiling` says so, with the position before and
behind every slice counted from the beginning of the text.  A run covers the whole
text exactly when it succeeds (`tokenize_contiguous`).
-/
import SqlLex.Proofs.Reading

namespace SqlLex

set_option autoImplicit false

/-- The position behind a text. -/
def Cursor.behind (cs : List Char) : Position := (Cursor.start.advanceAll cs).position

/-- The tokens lie on these slices, which begin the text and leave `rest`. -/
structure Tiling (d : Dialect) (text : List Char) (tokens : List Token)
    (slices : List (List Char)) (rest : List Char) : Prop where
  text : text = slices.flatten ++ rest
  count : slices.length = tokens.length
  ne_nil : ∀ slice ∈ slices, slice ≠ []
  /-- Every token says what some rule says of a slice that spells it. -/
  meaning : ∀ (i : Nat) (token : Token) (slice : List Char),
    tokens[i]? = some token → slices[i]? = some slice →
      ∃ r : Rule, r.Spells d slice ∧ token.toLexeme = r.lexeme d slice
  start : ∀ (i : Nat) (token : Token), tokens[i]? = some token →
    token.start = Cursor.behind (slices.take i).flatten
  stop : ∀ (i : Nat) (token : Token), tokens[i]? = some token →
    token.stop = Cursor.behind (slices.take (i + 1)).flatten

namespace Piece

variable {d : Dialect} {cs last : List Char}

@[simp] theorem length_place (k : Cursor) (ps : List Piece) :
    (place d k ps).length = ps.length := by
  induction ps generalizing k with
  | nil => rfl
  | cons p ps ih => simp [place, ih]

/-- The token of a piece lies between the texts before and behind the piece. -/
theorem getElem?_place (k : Cursor) (ps : List Piece) (i : Nat) :
    (place d k ps)[i]? = ps[i]?.map fun p =>
      ⟨p.lexeme d, (k.advanceAll (slices (ps.take i))).position,
        (k.advanceAll (slices (ps.take (i + 1)))).position⟩ := by
  induction ps generalizing k i with
  | nil => rfl
  | cons p ps ih =>
      cases i with
      | zero => simp [place]
      | succ i => simp [place, ih, Cursor.advanceAll_append]

theorem flatten_take (ps : List Piece) (i : Nat) :
    ((ps.map slice).take i).flatten = slices (ps.take i) := by
  rw [← List.map_take, slices, List.flatMap_def]

end Piece

/-- The placed pieces of a reading tile the text. -/
theorem Reading.tiling {d : Dialect} {cs last : List Char} {ps : List Piece}
    (h : Reading d last cs ps) :
    Tiling d cs (Piece.place d .start ps) (ps.map Piece.slice) last where
  text := by rw [h.text, Piece.slices, List.flatMap_def]
  count := by simp
  ne_nil := by simpa using h.ne_nil
  meaning := by
    intro i token slice placed sliced
    rw [Piece.getElem?_place] at placed
    obtain ⟨p, here, rfl⟩ := Option.map_eq_some_iff.1 placed
    obtain rfl : p.slice = slice := by simpa [here] using sliced
    exact ⟨p.rule, h.spells p (List.mem_of_getElem? here), rfl⟩
  start := by
    intro i token placed
    rw [Piece.getElem?_place] at placed
    obtain ⟨p, -, rfl⟩ := Option.map_eq_some_iff.1 placed
    rw [Piece.flatten_take]
    rfl
  stop := by
    intro i token placed
    rw [Piece.getElem?_place] at placed
    obtain ⟨p, -, rfl⟩ := Option.map_eq_some_iff.1 placed
    rw [Piece.flatten_take]
    rfl

theorem Tiling.start_of_head {d : Dialect} {text rest : List Char} {tokens : List Token}
    {slices : List (List Char)} (h : Tiling d text tokens slices rest) :
    ∀ first ∈ tokens.head?, first.start = .origin := by
  intro first front
  rw [List.head?_eq_getElem?] at front
  exact h.start 0 first front

theorem Tiling.stop_eq_start {d : Dialect} {text rest : List Char} {tokens : List Token}
    {slices : List (List Char)} (h : Tiling d text tokens slices rest) :
    ∀ (i : Nat) (token following : Token), tokens[i]? = some token →
      tokens[i + 1]? = some following →
      token.stop = following.start := by
  intro i token following here next
  rw [h.stop i token here, h.start (i + 1) following next]

/-- Where reading halts with a fault, some text is left. -/
theorem Halts.text_eq_nil_iff {d : Dialect} {fault : Option Fault} {taken left : List Char}
    (h : Halts d fault taken left) : taken ++ left = [] ↔ fault = none := by
  cases h with
  | finished => simp
  | invalid => simp
  | unterminated chosen =>
      have some : taken ≠ [] := by
        rintro rfl
        simp [Rule.choice] at chosen
      simpa using some

/-- **The tokens of a run lie on the text without a gap, from its beginning on; they cover all of it
exactly when the run succeeds, and then the tokenizer stands behind the text.** -/
theorem tokenize_contiguous (d : Dialect) (s : String) :
    let run := (Tokenizer.ofString d s).tokenize
    let tokens := Tokenizer.tokensOf run.1
    ∃ (slices : List (List Char)) (rest : List Char),
      Tiling d s.toList tokens slices rest ∧
        (∀ first ∈ tokens.head?, first.start = .origin) ∧
        (∀ (i : Nat) (token following : Token), tokens[i]? = some token →
          tokens[i + 1]? = some following → token.stop = following.start) ∧
        (rest = [] ↔ run.1.isOk = true) ∧
        (run.1.isOk = true → run.2.position = Cursor.behind s.toList) := by
  intro run tokens
  obtain ⟨ps, fault, taken, left, reading, halts, after, -, same⟩ :=
    Tokenizer.exists_reading_run d s
  have same : run = _ := same
  have placed : tokens = Piece.place d .start ps := by
    simp only [tokens, same, Tokenizer.tokensOf_outcome]
  have succeeds : run.1.isOk = true ↔ fault = none := by
    rw [same]
    cases fault <;> simp [Fault.outcome, Except.isOk, Except.toBool]
  have tiling := reading.tiling
  rw [placed]
  refine ⟨_, _, tiling, tiling.start_of_head, tiling.stop_eq_start, ?_, ?_⟩
  · rw [halts.text_eq_nil_iff, succeeds]
  · intro ok
    have none : taken ++ left = [] := halts.text_eq_nil_iff.2 (succeeds.1 ok)
    obtain ⟨rfl, rfl⟩ := List.append_eq_nil_iff.1 none
    rw [same, reading.text]
    simp [Tokenizer.position, Cursor.behind]

end SqlLex
