/-
# SqlLex.Proofs.Decoding -- which bytes are text

The well-formed bytes are described without decoding anything: `Utf8.Sequence` lists
the sequences that spell one character, by ranges of bytes, and `Utf8.WellFormed`
puts them one behind another.  A sequence is well-formed exactly when it is the
encoding of a character (`Utf8.sequence_iff_exists`), so well-formed bytes are the
encodings of texts (`Utf8.wellFormed_iff_exists`).

Decoding takes at least one byte for each item (`Utf8.Decodes`).  It goes along the
longest well-formed prefix, character by character, and the first thing that is no
character names the byte behind that prefix (`Utf8.decode_delivered`).  That no longer
prefix is well-formed needs no look at the ranges: the encoding of a character is
decoded whatever follows, so it cannot stand where decoding failed.
-/
import Mathlib.Data.List.TakeWhile
import SqlLex.Proofs.Delivery

namespace SqlLex

set_option autoImplicit false

namespace Utf8

variable {a b x y first : UInt8} {c : Char} {bs u w bytes : List UInt8}

/-! ## Well-formed bytes -/

/-- The sequences that spell one character.  The second byte is bounded where the first one leaves
room for overlong spellings, for surrogates, or for numbers past the last scalar value. -/
inductive Sequence : List UInt8 → Prop where
  | one {a : UInt8} : a.toNat ≤ 0x7F → Sequence [a]
  | two {a b : UInt8} : 0xC2 ≤ a.toNat → a.toNat ≤ 0xDF → Continues b → Sequence [a, b]
  | three {a b x : UInt8} : 0xE0 ≤ a.toNat → a.toNat ≤ 0xEF → Continues b → Continues x →
      (a.toNat = 0xE0 → 0xA0 ≤ b.toNat) → (a.toNat = 0xED → b.toNat ≤ 0x9F) →
      Sequence [a, b, x]
  | four {a b x y : UInt8} : 0xF0 ≤ a.toNat → a.toNat ≤ 0xF4 → Continues b → Continues x →
      Continues y → (a.toNat = 0xF0 → 0x90 ≤ b.toNat) → (a.toNat = 0xF4 → b.toNat ≤ 0x8F) →
      Sequence [a, b, x, y]

/-- Sequences of characters, one behind another. -/
inductive WellFormed : List UInt8 → Prop where
  | nil : WellFormed []
  | cons {u rest : List UInt8} : Sequence u → WellFormed rest → WellFormed (u ++ rest)

/-! ## Well-formed bytes are encodings -/

/-- The numbers of characters leave out the surrogates. -/
theorem exists_char_iff {n : Nat} :
    (∃ c : Char, c.toNat = n) ↔ n < 0xD800 ∨ 0xDFFF < n ∧ n < 0x110000 := by
  constructor
  · rintro ⟨c, rfl⟩
    exact c.valid
  · intro valid
    refine ⟨Char.ofNat n, ?_⟩
    have named : scalar 0 n = some (Char.ofNat n) := if_pos ⟨Nat.zero_le n, valid⟩
    exact (scalar_eq_some_iff.1 named).2

/-- The ranges of a sequence leave out just the numbers that are no characters. -/
theorem sequence_iff_spelled : Sequence u ↔ ∃ c, Spelled c u := by
  constructor
  · intro sequence
    cases sequence with
    | @one a most =>
        obtain ⟨c, number⟩ := (exists_char_iff (n := a.toNat)).2 (by omega)
        exact ⟨c, .one most number⟩
    | @two a b least most second =>
        have ⟨_, _⟩ := second
        obtain ⟨c, number⟩ :=
          (exists_char_iff (n := (a.toNat - 0xC0) * 64 + (b.toNat - 0x80))).2 (by omega)
        exact ⟨c, .two least most second number⟩
    | @three a b x least most second third overlong surrogate =>
        have ⟨_, _⟩ := second
        have ⟨_, _⟩ := third
        obtain ⟨c, number⟩ := (exists_char_iff
          (n := (a.toNat - 0xE0) * 4096 + (b.toNat - 0x80) * 64 + (x.toNat - 0x80))).2 (by omega)
        exact ⟨c, .three least most second third (by omega) number⟩
    | @four a b x y least most second third fourth overlong large =>
        have ⟨_, _⟩ := second
        have ⟨_, _⟩ := third
        have ⟨_, _⟩ := fourth
        obtain ⟨c, number⟩ := (exists_char_iff (n := (a.toNat - 0xF0) * 262144 +
          (b.toNat - 0x80) * 4096 + (x.toNat - 0x80) * 64 + (y.toNat - 0x80))).2 (by omega)
        exact ⟨c, .four least most second third fourth (by omega) number⟩
  · rintro ⟨c, spelled⟩
    have valid := exists_char_iff.1 ⟨c, rfl⟩
    cases spelled with
    | one most => exact .one most
    | two least most second => exact .two least most second
    | three least most second third long number =>
        have ⟨_, _⟩ := second
        have ⟨_, _⟩ := third
        exact .three least most second third (by omega) (by omega)
    | four least most second third fourth long number =>
        have ⟨_, _⟩ := second
        have ⟨_, _⟩ := third
        have ⟨_, _⟩ := fourth
        exact .four least most second third fourth (by omega) (by omega)

theorem sequence_iff_exists : Sequence u ↔ ∃ c, String.utf8EncodeChar c = u := by
  simp only [sequence_iff_spelled, spelled_iff]

/-- **Well-formed bytes are the encodings of texts.** -/
theorem wellFormed_iff_exists : WellFormed bytes ↔ ∃ cs, encode cs = bytes := by
  constructor
  · intro well
    induction well with
    | nil => exact ⟨[], rfl⟩
    | cons sequence _ ih =>
        obtain ⟨c, rfl⟩ := sequence_iff_exists.1 sequence
        obtain ⟨cs, rfl⟩ := ih
        exact ⟨c :: cs, rfl⟩
  · rintro ⟨cs, rfl⟩
    induction cs with
    | nil => exact .nil
    | cons c cs ih => exact .cons (sequence_iff_exists.2 ⟨c, rfl⟩) ih

/-! ## One item -/

/-- Of bytes that can be read a sequence takes those it needs, or all that are left. -/
theorem takeBytes_bytes (first : UInt8) (n : Nat) (bs : List UInt8) :
    takeBytes first n (bs.map .byte) =
      (if n ≤ bs.length then .ok (bs.take n) else .error (invalid first),
        (bs.drop n).map .byte) := by
  induction n generalizing bs with
  | zero => simp [takeBytes]
  | succ n ih =>
      cases bs with
      | nil => simp [takeBytes]
      | cons b bs =>
          simp only [List.map_cons, takeBytes, ih, List.length_cons, Nat.add_le_add_iff_right,
            List.take_succ_cons, List.drop_succ_cons]
          split <;> rfl

/-- At the front of bytes stands the encoding of a character, which is decoded, or decoding fails
there. -/
theorem decodeFrom_bytes (first : UInt8) (bs : List UInt8) :
    ∃ u w, bs = u ++ w ∧
      ((∃ c, String.utf8EncodeChar c = first :: u ∧
          decodeFrom first (bs.map .byte) = (.char c, w.map .byte)) ∨
        decodeFrom first (bs.map .byte) = (.fail (invalid first), w.map .byte)) := by
  unfold decodeFrom
  by_cases none : width first = 0
  · exact ⟨[], bs, rfl, .inr (by rw [if_pos none])⟩
  refine ⟨_, _, (List.take_append_drop (width first - 1) bs).symm, ?_⟩
  rw [if_neg none, takeBytes_bytes]
  by_cases enough : width first - 1 ≤ bs.length
  · rw [if_pos enough]
    cases whole : sequence first (bs.take (width first - 1)) with
    | none => exact .inr (by simp only [whole])
    | some c =>
        have wide : width first = (bs.take (width first - 1)).length + 1 := by
          rw [List.length_take]
          omega
        refine .inl ⟨c, encodes_iff.1 ⟨wide, whole⟩, ?_⟩
        simp only [whole]
  · rw [if_neg enough]
    exact .inr rfl

/-! ## Items -/

/-- The items are decoded one after another, each from the bytes of the next part. -/
inductive Decodes : List (List UInt8) → List Answer → Prop where
  | nil : Decodes [] []
  | cons {first : UInt8} {bs : List UInt8} {parts : List (List UInt8)} {item : Answer}
      {items : List Answer} :
      decodeFrom first ((bs ++ parts.flatten).map .byte) = (item, parts.flatten.map .byte) →
      Decodes parts items → Decodes ((first :: bs) :: parts) (item :: items)

/-- Every item takes at least one byte. -/
theorem Decodes.length_le {parts : List (List UInt8)} {items : List Answer}
    (h : Decodes parts items) : items.length ≤ parts.flatten.length := by
  induction h with
  | nil => exact Nat.le_refl _
  | cons _ _ ih =>
      simp only [List.length_cons, List.flatten_cons, List.length_append]
      omega

/-- Bytes are decoded part by part, without a rest. -/
theorem exists_decodes (bytes : List UInt8) :
    ∃ parts, parts.flatten = bytes ∧ Decodes parts (decode (bytes.map .byte)) := by
  match bytes with
  | [] => exact ⟨[], rfl, by simpa [decode] using .nil⟩
  | first :: bs =>
      obtain ⟨u, w, rfl, found⟩ := decodeFrom_bytes first bs
      obtain ⟨parts, rfl, later⟩ := exists_decodes w
      refine ⟨(first :: u) :: parts, rfl, ?_⟩
      rw [List.map_cons, decode]
      rcases found with ⟨c, -, here⟩ | here
      · rw [here]
        exact .cons here later
      · rw [here]
        exact .cons here later
termination_by bytes.length

/-- **Bytes encode characters, or decoding fails behind some of them.** -/
theorem encoded_or_fails (bytes : List UInt8) :
    ∃ cs, encode cs = bytes ∨ ∃ first behind more, bytes = encode cs ++ first :: behind ∧
      decode (bytes.map .byte) = cs.map .char ++ .fail (invalid first) :: more := by
  match bytes with
  | [] => exact ⟨[], .inl rfl⟩
  | first :: bs =>
      obtain ⟨u, w, rfl, ⟨c, encoding, here⟩ | here⟩ := decodeFrom_bytes first bs
      · obtain ⟨cs, rfl | ⟨bad, behind, more, rfl, later⟩⟩ := encoded_or_fails w
        · exact ⟨c :: cs, .inl (by simp [encoding])⟩
        · refine ⟨c :: cs, .inr ⟨bad, behind, more, by simp [encoding], ?_⟩⟩
          rw [List.map_cons, decode, here, later]
          rfl
      · exact ⟨[], .inr ⟨first, u ++ w, _, rfl, by rw [List.map_cons, decode, here]; rfl⟩⟩
termination_by bytes.length

/-- Only the end of the bytes is answered by nothing. -/
theorem Decodes.nothing_notMem {parts : List (List UInt8)} {items : List Answer}
    (h : Decodes parts items) : .nothing ∉ items := by
  induction h with
  | nil => simp
  | @cons first bs parts item items here _ ih =>
      obtain ⟨u, w, -, found⟩ := decodeFrom_bytes first (bs ++ parts.flatten)
      rw [here] at found
      have answered : .nothing ≠ item := by
        rintro rfl
        rcases found with ⟨c, -, same⟩ | same
        · cases same
        · cases same
      simp [answered, ih]

/-- The error of an invalid sequence names its first byte. -/
theorem invalid_injective {b b' : UInt8} (same : invalid b = invalid b') : b = b' := by
  have digits : ∀ n < 16, ∀ m < 16, Nat.digitChar n = Nat.digitChar m → n = m := by decide
  have names : hexByte b = hexByte b' := by
    simpa [invalid] using same
  have pair : Nat.digitChar (b.toNat / 16) = Nat.digitChar (b'.toNat / 16) ∧
      Nat.digitChar (b.toNat % 16) = Nat.digitChar (b'.toNat % 16) := by
    simpa [hexByte] using names
  have small := b.toNat_lt
  have small' := b'.toNat_lt
  have high := digits _ (by omega) _ (by omega) pair.1
  have low := digits _ (by omega) _ (by omega) pair.2
  apply UInt8.toNat_inj.1
  omega

/-- Characters at the front of what fails stand in front of the failure. -/
theorem prefix_of_fail {cs ds : List Char} {e : Error} {items more : List Answer}
    (same : ds.map .char ++ items = cs.map .char ++ .fail e :: more) : ds <+: cs := by
  induction ds generalizing cs with
  | nil => exact List.nil_prefix
  | cons d ds ih =>
      cases cs with
      | nil => simp at same
      | cons c cs =>
          simp only [List.map_cons, List.cons_append, List.cons.injEq, Answer.char.injEq] at same
          exact List.cons_prefix_cons.2 ⟨same.1, ih same.2⟩

theorem encode_prefix_encode {cs ds : List Char} (h : ds <+: cs) : encode ds <+: encode cs := by
  obtain ⟨more, rfl⟩ := h
  exact ⟨encode more, by simp [encode]⟩

/-- Reading delivered bytes to their end reads all that they amount to. -/
theorem untilNothing_of_delivers {reads : List Read} (delivers : Delivers reads bytes) :
    Answer.untilNothing (decode (reads.flatMap Read.answers)) = decode (bytes.map .byte) := by
  obtain ⟨parts, -, decodes⟩ := exists_decodes bytes
  rw [delivers.answers, Answer.untilNothing, List.takeWhile_eq_self_iff]
  intro item mem
  have answered : item ≠ .nothing := by
    rintro rfl
    exact decodes.nothing_notMem mem
  simpa using answered

/-! ## Delivered bytes -/

/-- **Bytes that are delivered in any way are decoded to characters alone exactly when they are
well-formed, and these are the characters that they encode.**  Where bytes are not well-formed, the
first error stands behind the characters of the longest well-formed prefix and names the byte behind
it.  Each item is decoded from at least one byte, so there are no more items than bytes. -/
theorem decode_delivered {reads : List Read} {bytes : List UInt8}
    (delivers : Delivers reads bytes) :
    let items := Answer.untilNothing (decode (reads.flatMap Read.answers))
    ((∀ item ∈ items, ∃ c, item = .char c) ↔ WellFormed bytes) ∧
      (∀ cs, items = cs.map .char ↔ encode cs = bytes) ∧
      (¬ WellFormed bytes → ∃ cs first behind more,
        bytes = encode cs ++ first :: behind ∧
          (∀ p, p <+: bytes → WellFormed p → p <+: encode cs) ∧
          items = cs.map .char ++ .fail (invalid first) :: more ∧
          ∀ b, invalid b = invalid first → b = first) ∧
      (∃ parts, parts.flatten = bytes ∧ Decodes parts items) ∧
      items.length ≤ bytes.length := by
  intro items
  have all : items = decode (bytes.map .byte) := untilNothing_of_delivers delivers
  have encoded : ∀ ds, encode ds = bytes → items = ds.map .char := by
    rintro ds rfl
    rw [all, decode_encode]
  obtain ⟨parts, joined, decodes⟩ := exists_decodes bytes
  rw [← all] at decodes
  have taken : (∃ parts, parts.flatten = bytes ∧ Decodes parts items) ∧
      items.length ≤ bytes.length :=
    ⟨⟨parts, joined, decodes⟩, joined ▸ decodes.length_le⟩
  obtain ⟨cs, whole | ⟨first, behind, more, split, fails⟩⟩ := encoded_or_fails bytes
  · have well : WellFormed bytes := wellFormed_iff_exists.2 ⟨cs, whole⟩
    have characters : items = cs.map .char := encoded cs whole
    refine ⟨⟨fun _ => well, fun _ => ?_⟩, fun ds => ⟨fun same => ?_, encoded ds⟩,
      fun ill => absurd well ill, taken⟩
    · rw [characters]
      simp
    · rw [characters, List.map_inj_right fun _ _ => Answer.char.inj] at same
      exact same ▸ whole
  · rw [← all] at fails
    have failing : ∀ ds : List Char, items ≠ ds.map .char := by
      intro ds same
      have mem : Answer.fail (invalid first) ∈ ds.map .char := by
        rw [← same, fails]
        simp
      simp at mem
    have ill : ¬ WellFormed bytes := by
      intro well
      obtain ⟨ds, whole⟩ := wellFormed_iff_exists.1 well
      exact failing ds (encoded ds whole)
    refine ⟨⟨fun characters => ?_, fun well => absurd well ill⟩,
      fun ds => ⟨fun same => absurd same (failing ds), encoded ds⟩, fun _ => ?_, taken⟩
    · obtain ⟨c, same⟩ := characters (.fail (invalid first)) (by simp [fails])
      cases same
    · refine ⟨cs, first, behind, more, split, ?_, fails, fun b => invalid_injective⟩
      -- a longer prefix would have been decoded where decoding failed
      rintro p ⟨rest, joined⟩ well
      obtain ⟨ds, rfl⟩ := wellFormed_iff_exists.1 well
      have failed : ds.map .char ++ decode (rest.map .byte) =
          cs.map .char ++ .fail (invalid first) :: more := by
        rw [← fails, all, ← joined, List.map_append, decode_encode_append]
      exact encode_prefix_encode (prefix_of_fail failed)

/-- A read that ends in a character and one that ends in a surrogate, with a letter behind it. -/
theorem decode_delivered_surrogate :
    let reads : List Read := [.bytes [0x61, 0xE2], .interrupted, .bytes [0x82, 0xAC, 0xED],
      .bytes [0xA0, 0x80, 0x62]]
    let bytes : List UInt8 := [0x61, 0xE2, 0x82, 0xAC, 0xED, 0xA0, 0x80, 0x62]
    Delivers reads bytes ∧ ¬ WellFormed bytes ∧
      Answer.untilNothing (decode (reads.flatMap Read.answers)) =
        [.char 'a', .char '€', .fail (invalid 0xED), .char 'b'] ∧
      ∀ p, p <+: bytes → WellFormed p → p <+: [0x61, 0xE2, 0x82, 0xAC] := by
  intro reads bytes
  have delivers : Delivers reads bytes :=
    .bytes (by simp) (.interrupted (.bytes (by simp) (.bytes (by simp) .nil)))
  have items : Answer.untilNothing (decode (reads.flatMap Read.answers)) =
      [.char 'a', .char '€', .fail (invalid 0xED), .char 'b'] := by
    decide +kernel
  obtain ⟨characters, -, longest, -⟩ := decode_delivered delivers
  have ill : ¬ WellFormed bytes := by
    intro well
    obtain ⟨c, same⟩ := characters.2 well (.fail (invalid 0xED)) (by simp [items])
    cases same
  refine ⟨delivers, ill, items, ?_⟩
  obtain ⟨cs, first, behind, more, -, bound, same, -⟩ := longest ill
  rw [items] at same
  have failed : cs.map .char ++ .fail (invalid first) :: more =
      ['a', '€'].map .char ++ .fail (invalid 0xED) :: [.char 'b'] := same.symm
  have short : cs <+: ['a', '€'] := prefix_of_fail failed
  have spelled : encode ['a', '€'] = [0x61, 0xE2, 0x82, 0xAC] := by decide +kernel
  rw [← spelled]
  exact fun p part well => (bound p part well).trans (encode_prefix_encode short)

end Utf8

end SqlLex
