/-
# SqlLex.Source.Utf8 -- characters from bytes that arrive in pieces

A reader answers a call with some bytes, with a failure, or with an interruption,
which is tried again and leaves no trace.  Reading no bytes is the end of the
input for that one look.  How the bytes were cut into reads does not matter:
`Read.answers` makes each read a list of byte answers, and these are joined.

`decode` turns byte answers into answers of a `Source`.  The first byte of a
sequence announces its length; that many bytes are taken, unseen, and the
sequence is then a character or invalid as a whole.  A byte that announces no
length is invalid alone, and so is a sequence that the end of input cuts short.
A failure in mid-sequence is answered in its place and the bytes before it are
lost.
-/
import SqlLex.Source

namespace SqlLex

set_option autoImplicit false

/-- What a reader answers to one call. -/
inductive Read where
  | bytes (bs : List UInt8)
  | fail (reason : String)
  | interrupted
deriving DecidableEq, Repr

/-- What is known of one byte: itself, that there is none, or why it could not be read. -/
inductive ByteAnswer where
  | byte (b : UInt8)
  | nothing
  | fail (reason : String)
deriving DecidableEq, Repr

/-- The byte answers that one call amounts to. -/
def Read.answers : Read → List ByteAnswer
  | .bytes [] => [.nothing]
  | .bytes bs => bs.map .byte
  | .fail reason => [.fail reason]
  | .interrupted => []

namespace Utf8

/-- The number of bytes in a sequence that begins with `b`; none for a byte that begins none. -/
def width (b : UInt8) : Nat :=
  if b ≤ 0x7F then 1
  else if 0xC2 ≤ b ∧ b ≤ 0xDF then 2
  else if 0xE0 ≤ b ∧ b ≤ 0xEF then 3
  else if 0xF0 ≤ b ∧ b ≤ 0xF4 then 4
  else 0

/-- The six bits that a continuation byte carries. -/
def continuation (b : UInt8) : Option Nat :=
  if 0x80 ≤ b ∧ b ≤ 0xBF then some (b.toNat - 0x80) else none

/-- The character with this number, if it is a scalar value not below `least`. -/
def scalar (least n : Nat) : Option Char :=
  if least ≤ n ∧ n.isValidChar then some (Char.ofNat n) else none

/-- The character of a whole sequence, given its first byte and the bytes behind it.  A character
must be spelled with the fewest bytes that can hold it. -/
def sequence (first : UInt8) : List UInt8 → Option Char
  | [] => scalar 0 first.toNat
  | [b] => do
      let x ← continuation b
      scalar 0x80 ((first.toNat - 0xC0) * 64 + x)
  | [b, c] => do
      let x ← continuation b
      let y ← continuation c
      scalar 0x800 ((first.toNat - 0xE0) * 4096 + x * 64 + y)
  | [b, c, d] => do
      let x ← continuation b
      let y ← continuation c
      let z ← continuation d
      scalar 0x10000 ((first.toNat - 0xF0) * 262144 + x * 4096 + y * 64 + z)
  | _ => none

/-- The two hexadecimal digits of a byte. -/
def hexByte (b : UInt8) : String :=
  String.ofList [Nat.digitChar (b.toNat / 16), Nat.digitChar (b.toNat % 16)]

/-- The error of a sequence that is no character. -/
def invalid (first : UInt8) : Error :=
  .io ("invalid UTF-8 sequence starting with byte 0x" ++ hexByte first)

/-- Takes the `n` bytes that belong to a sequence begun by `first`. -/
def takeBytes (first : UInt8) : Nat → List ByteAnswer → Except Error (List UInt8) × List ByteAnswer
  | 0, rest => (.ok [], rest)
  | _ + 1, [] => (.error (invalid first), [])
  | _ + 1, .nothing :: rest => (.error (invalid first), rest)
  | _ + 1, .fail reason :: rest => (.error (.io reason), rest)
  | n + 1, .byte b :: rest =>
      let (taken, after) := takeBytes first n rest
      (taken.map (b :: ·), after)

theorem length_takeBytes (first : UInt8) (n : Nat) (rest : List ByteAnswer) :
    (takeBytes first n rest).2.length ≤ rest.length := by
  induction n generalizing rest with
  | zero => simp [takeBytes]
  | succ n ih =>
    match rest with
    | [] => simp [takeBytes]
    | .nothing :: rest => simp [takeBytes]
    | .fail reason :: rest => simp [takeBytes]
    | .byte b :: rest =>
      have := ih rest
      simp only [takeBytes, List.length_cons]
      omega

/-- What a sequence begun by `first` amounts to, and the byte answers behind it. -/
def decodeFrom (first : UInt8) (rest : List ByteAnswer) : Answer × List ByteAnswer :=
  if width first = 0 then (.fail (invalid first), rest)
  else
    match takeBytes first (width first - 1) rest with
    | (.ok bs, after) =>
        match sequence first bs with
        | some c => (.char c, after)
        | none => (.fail (invalid first), after)
    | (.error e, after) => (.fail e, after)

theorem length_decodeFrom (first : UInt8) (rest : List ByteAnswer) :
    (decodeFrom first rest).2.length ≤ rest.length := by
  have bound := length_takeBytes first (width first - 1) rest
  unfold decodeFrom
  split
  · exact Nat.le_refl _
  · split
    · next bs after taken =>
      rw [taken] at bound
      split <;> exact bound
    · next e after taken =>
      rw [taken] at bound
      exact bound

/-- The answers that byte answers amount to. -/
def decode : List ByteAnswer → List Answer
  | [] => []
  | .nothing :: rest => .nothing :: decode rest
  | .fail reason :: rest => .fail (.io reason) :: decode rest
  | .byte b :: rest => (decodeFrom b rest).1 :: decode (decodeFrom b rest).2
termination_by answers => answers.length
decreasing_by
  · exact Nat.lt_succ_self _
  · exact Nat.lt_succ_self _
  · exact Nat.lt_succ_of_le (length_decodeFrom b rest)

/-- The text of a list of bytes, if all of them are well-formed. -/
def text? (bs : List UInt8) : Option String :=
  ((decode (bs.map .byte)).mapM Answer.char?).map String.ofList

end Utf8

/-- The characters and failures up to the first answer of nothing. -/
def Answer.untilNothing (answers : List Answer) : List Answer :=
  answers.takeWhile (· != .nothing)

/-- A source over what a reader answers. -/
def Source.ofReads (reads : List Read) : Source :=
  .ofAnswers (Utf8.decode (reads.flatMap Read.answers))

end SqlLex
