/-
# SqlLex.Scan -- one lexeme off the front of a source

`Source.scan` chooses a rule, takes its slice and says what it means.  A scan
knows nothing of positions: it reports the characters it took, whether or not
they made a lexeme, and the reader places them.  A scan that yields a lexeme
leaves the source shorter (`Source.size_scan_lt`), which is why reading a finite
source ends.
-/
import SqlLex.Rule

namespace SqlLex

set_option autoImplicit false

/-- What a scan found. -/
inductive Finding where
  | lexeme (x : Lexeme)
  | finished
  | fault (f : Fault)
deriving DecidableEq, Repr

/-- What a scan found, the characters it took, and what is left. -/
structure Scan where
  finding : Finding
  taken : List Char
  rest : Source
deriving DecidableEq, Repr

/-- What a cut made by a rule amounts to. -/
def Rule.finding (d : Dialect) (r : Rule) (cut : Cut) : Finding :=
  match cut.stop with
  | .complete => .lexeme (r.lexeme d cut.taken)
  | .ended =>
      match r.construct with
      | some construct => .fault (.unterminated construct)
      | none => .finished
  | .failed e => .fault (.source e)

namespace Source

/-- Reads one lexeme. -/
def scan (d : Dialect) (s : Source) : Scan :=
  match Rule.select d s with
  | (.rule r, after) =>
      let cut := r.cut d after
      ⟨r.finding d cut, cut.taken, cut.rest⟩
  | (.finished, after) => ⟨.finished, [], after⟩
  | (.fault f, after) => ⟨.fault f, [], after⟩

/-- Reading a lexeme leaves the source shorter. -/
theorem size_scan_lt {d : Dialect} {s : Source} {x : Lexeme} (h : (s.scan d).finding = .lexeme x) :
    (s.scan d).rest.size < s.size := by
  have chosen := Rule.size_select d s
  unfold scan at h ⊢
  split at h
  · next r after selected =>
    rw [selected] at chosen
    have whole : (r.cut d after).stop = .complete := by
      simp only [Rule.finding] at h
      split at h
      · assumption
      · split at h <;> simp at h
      · simp at h
    exact Nat.lt_of_lt_of_le (Rule.size_cut_lt whole) chosen
  · simp at h
  · simp at h

end Source

end SqlLex
