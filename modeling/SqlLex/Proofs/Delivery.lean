/-
# SqlLex.Proofs.Delivery -- a text that arrives as bytes

The bytes of a text may reach a tokenizer in reads of any sizes, cut also inside a
character, with interruptions between them (`Delivers`).  The reads amount to the
bytes in order, and decoding the bytes of a text gives its characters back
(`Utf8.decode_ofString`).  So the source that is read is the source of the text,
and whatever the tokenizer does with it is the same
(`tokenize_ofReads`).
-/
import SqlLex.Dialect.Preset
import SqlLex.Proofs.Encoding
import SqlLex.Tokenizer

namespace SqlLex

set_option autoImplicit false

/-! ## Bytes of characters -/

namespace Utf8

theorem takeBytes_byte (first : UInt8) (bs : List UInt8) (rest : List ByteAnswer) :
    takeBytes first bs.length (bs.map .byte ++ rest) = (.ok bs, rest) := by
  induction bs with
  | nil => rfl
  | cons b bs ih =>
      rw [List.length_cons, List.map_cons, List.cons_append, takeBytes, ih]
      rfl

/-- The bytes of a character are decoded to it, whatever comes behind them. -/
theorem decode_utf8EncodeChar_append (c : Char) (rest : List ByteAnswer) :
    decode ((String.utf8EncodeChar c).map .byte ++ rest) = .char c :: decode rest := by
  have encodes : Encodes c (String.utf8EncodeChar c) := encodes_iff.2 rfl
  cases spelled : String.utf8EncodeChar c with
  | nil => exact absurd spelled String.utf8EncodeChar_ne_nil
  | cons first bs =>
      rw [spelled] at encodes
      obtain ⟨wide, whole⟩ := encodes
      have here : decodeFrom first (bs.map .byte ++ rest) = (.char c, rest) := by
        rw [decodeFrom, wide, if_neg (Nat.succ_ne_zero _), Nat.add_sub_cancel, takeBytes_byte]
        simp only [whole]
      rw [List.map_cons, List.cons_append, decode, here]

/-- The bytes of characters, one behind another. -/
def encode (cs : List Char) : List UInt8 := cs.flatMap String.utf8EncodeChar

@[simp] theorem encode_cons (c : Char) (cs : List Char) :
    encode (c :: cs) = String.utf8EncodeChar c ++ encode cs := rfl

/-- The bytes of characters are decoded to them, whatever comes behind them. -/
theorem decode_encode_append (cs : List Char) (rest : List ByteAnswer) :
    decode ((encode cs).map .byte ++ rest) = cs.map .char ++ decode rest := by
  induction cs with
  | nil => rfl
  | cons c cs ih =>
      rw [encode_cons, List.map_append, List.append_assoc, decode_utf8EncodeChar_append, ih]
      rfl

theorem decode_encode (cs : List Char) : decode ((encode cs).map .byte) = cs.map .char := by
  have whole := decode_encode_append cs []
  rwa [decode, List.append_nil, List.append_nil] at whole

/-- The bytes of a text. -/
def ofString (s : String) : List UInt8 := s.toUTF8.data.toList

/-- **The bytes of a text are decoded to its characters.** -/
theorem decode_ofString (s : String) :
    decode ((ofString s).map .byte) = s.toList.map .char := by
  have bytes : ofString s = encode s.toList := by
    rw [ofString, String.toUTF8_eq_toByteArray, ← String.utf8Encode_toList, List.utf8Encode,
      List.data_toByteArray]
    rfl
  rw [bytes, decode_encode]

end Utf8

/-! ## Reads -/

/-- The reads deliver the bytes in order: none of them is empty, they are cut anywhere, and any of
them may have been interrupted before. -/
inductive Delivers : List Read → List UInt8 → Prop where
  | nil : Delivers [] []
  | interrupted {reads : List Read} {bytes : List UInt8} : Delivers reads bytes →
      Delivers (.interrupted :: reads) bytes
  | bytes {chunk bytes : List UInt8} {reads : List Read} : chunk ≠ [] → Delivers reads bytes →
      Delivers (.bytes chunk :: reads) (chunk ++ bytes)

variable {reads : List Read} {bytes : List UInt8}

/-- However the bytes are cut, the reads amount to them. -/
theorem Delivers.answers (h : Delivers reads bytes) :
    reads.flatMap Read.answers = bytes.map .byte := by
  induction h with
  | nil => rfl
  | interrupted _ ih => simpa [Read.answers] using ih
  | @bytes chunk bytes reads some _ ih =>
      obtain ⟨b, chunk, rfl⟩ := List.exists_cons_of_ne_nil some
      rw [List.flatMap_cons, ih, List.map_append]
      rfl

/-- The source of a delivered text is the source of the text. -/
theorem Source.ofReads_of_delivers {s : String} (h : Delivers reads (Utf8.ofString s)) :
    Source.ofReads reads = Source.ofString s := by
  rw [ofReads, h.answers, Utf8.decode_ofString]
  rfl

/-- **A text that is delivered in any way is tokenized like the text: the same outcome, the same
position and the same end.** -/
theorem tokenize_ofReads (d : Dialect) (s : String)
    (delivers : Delivers reads (Utf8.ofString s)) :
    let delivered := (Tokenizer.ofSource d (.ofReads reads)).tokenize
    let whole := (Tokenizer.ofString d s).tokenize
    delivered.1 = whole.1 ∧ delivered.2.position = whole.2.position ∧
      delivered.2.done = whole.2.done := by
  intro delivered whole
  have same : delivered = whole := by
    simp only [delivered, whole, Tokenizer.ofString, Source.ofReads_of_delivers delivers]
  rw [same]
  exact ⟨rfl, rfl, rfl⟩

/-- Reads that end inside characters of two and of four bytes. -/
theorem tokenize_ofReads_cut :
    let reads : List Read := [.bytes [0xC3], .interrupted, .bytes [0xA9, 0x27, 0xF0, 0x9F],
      .bytes [0x98], .interrupted, .interrupted, .bytes [0x80, 0x27]]
    Delivers reads (Utf8.ofString "é'😀'") ∧
      (Tokenizer.ofSource Preset.postgresql.dialect (.ofReads reads)).tokenize.1 =
        (Tokenizer.ofString Preset.postgresql.dialect "é'😀'").tokenize.1 := by
  intro reads
  have bytes : Utf8.ofString "é'😀'" = [0xC3, 0xA9, 0x27, 0xF0, 0x9F, 0x98, 0x80, 0x27] := by
    decide +kernel
  have delivers : Delivers reads (Utf8.ofString "é'😀'") := by
    rw [bytes]
    exact .bytes (by simp) (.interrupted (.bytes (by simp) (.bytes (by simp)
      (.interrupted (.interrupted (.bytes (by simp) .nil))))))
  exact ⟨delivers, (tokenize_ofReads Preset.postgresql.dialect _ delivers).1⟩

end SqlLex
