/-
# SqlLex.Proofs.Encoding -- a character and its bytes

What the decoder asks of the bytes of one character (`Utf8.Encodes`) is put in terms of
ranges and one equation between numbers (`Utf8.Spelled`, one constructor for each length),
where arithmetic settles the rest: the bytes that spell a character are those of its
encoding and no others (`Utf8.spelled_iff`).  So the decoder makes a character of a
sequence just when the sequence is the encoding of the character (`Utf8.encodes_iff`).
-/
import SqlLex.Source.Utf8

namespace SqlLex.Utf8

set_option autoImplicit false

variable {a b x y : UInt8} {c : Char} {u : List UInt8}

/-- The first byte announces the others, and all of them are the character. -/
def Encodes (c : Char) : List UInt8 → Prop
  | [] => False
  | first :: bs => width first = bs.length + 1 ∧ sequence first bs = some c

/-- A byte that continues a sequence. -/
def Continues (b : UInt8) : Prop := 0x80 ≤ b.toNat ∧ b.toNat ≤ 0xBF

/-! ## Numbers of bytes -/

theorem toNat_lt (c : Char) : c.toNat < 0x110000 := by
  have valid := c.valid
  simp only [UInt32.isValidChar, Nat.isValidChar] at valid
  show c.val.toNat < 0x110000
  omega

theorem scalar_toNat {least : Nat} {c : Char} (h : least ≤ c.toNat) :
    scalar least c.toNat = some c := by
  have valid : c.toNat.isValidChar := c.valid
  rw [scalar, if_pos ⟨h, valid⟩, Char.ofNat_toNat]

theorem scalar_eq_some_iff {least n : Nat} :
    scalar least n = some c ↔ least ≤ n ∧ c.toNat = n := by
  constructor
  · intro same
    unfold scalar at same
    split at same
    · next fits =>
      obtain rfl := Option.some.inj same
      refine ⟨fits.1, ?_⟩
      rw [Char.ofNat, dif_pos fits.2]
      rfl
    · cases same
  · rintro ⟨large, rfl⟩
    exact scalar_toNat large

theorem continuation_eq_some_iff {n : Nat} :
    continuation b = some n ↔ Continues b ∧ n = b.toNat - 0x80 := by
  have range : Continues b ↔ 0x80 ≤ b ∧ b ≤ 0xBF := by
    simp [Continues, UInt8.le_iff_toNat_le]
  rw [range]
  unfold continuation
  split <;> grind

/-- A first byte announces the bytes behind it by the range that it lies in. -/
theorem width_eq_iff {n : Nat} :
    width a = n + 1 ↔
      n = 0 ∧ a.toNat ≤ 0x7F ∨ n = 1 ∧ 0xC2 ≤ a.toNat ∧ a.toNat ≤ 0xDF ∨
        n = 2 ∧ 0xE0 ≤ a.toNat ∧ a.toNat ≤ 0xEF ∨ n = 3 ∧ 0xF0 ≤ a.toNat ∧ a.toNat ≤ 0xF4 := by
  simp only [width, UInt8.le_iff_toNat_le, UInt8.reduceToNat]
  repeat' split
  all_goals omega

/-! ## Sequences and their numbers -/

theorem sequence_two_iff : sequence a [b] = some c ↔
    Continues b ∧ 0x80 ≤ c.toNat ∧ c.toNat = (a.toNat - 0xC0) * 64 + (b.toNat - 0x80) := by
  have steps : sequence a [b] = some c ↔ ∃ n, continuation b = some n ∧
      scalar 0x80 ((a.toNat - 0xC0) * 64 + n) = some c := Option.bind_eq_some_iff
  simp only [steps, continuation_eq_some_iff, scalar_eq_some_iff]
  constructor
  · rintro ⟨n, ⟨second, low⟩, least, number⟩
    exact ⟨second, number ▸ least, by rw [number, low]⟩
  · rintro ⟨second, least, number⟩
    exact ⟨_, ⟨second, rfl⟩, by omega, by omega⟩

theorem sequence_three_iff : sequence a [b, x] = some c ↔
    Continues b ∧ Continues x ∧ 0x800 ≤ c.toNat ∧
      c.toNat = (a.toNat - 0xE0) * 4096 + (b.toNat - 0x80) * 64 + (x.toNat - 0x80) := by
  have steps : sequence a [b, x] = some c ↔ ∃ n, continuation b = some n ∧
      ((continuation x).bind fun m => scalar 0x800 ((a.toNat - 0xE0) * 4096 + n * 64 + m)) =
        some c :=
    Option.bind_eq_some_iff
  simp only [steps, Option.bind_eq_some_iff, continuation_eq_some_iff, scalar_eq_some_iff]
  constructor
  · rintro ⟨n, ⟨second, middle⟩, m, ⟨third, low⟩, least, number⟩
    exact ⟨second, third, number ▸ least, by rw [number, middle, low]⟩
  · rintro ⟨second, third, least, number⟩
    exact ⟨_, ⟨second, rfl⟩, _, ⟨third, rfl⟩, by omega, by omega⟩

theorem sequence_four_iff : sequence a [b, x, y] = some c ↔
    Continues b ∧ Continues x ∧ Continues y ∧ 0x10000 ≤ c.toNat ∧
      c.toNat = (a.toNat - 0xF0) * 262144 + (b.toNat - 0x80) * 4096 + (x.toNat - 0x80) * 64 +
        (y.toNat - 0x80) := by
  have steps : sequence a [b, x, y] = some c ↔ ∃ n, continuation b = some n ∧
      ((continuation x).bind fun m => (continuation y).bind fun k =>
        scalar 0x10000 ((a.toNat - 0xF0) * 262144 + n * 4096 + m * 64 + k)) = some c :=
    Option.bind_eq_some_iff
  simp only [steps, Option.bind_eq_some_iff, continuation_eq_some_iff, scalar_eq_some_iff]
  constructor
  · rintro ⟨n, ⟨second, high⟩, m, ⟨third, middle⟩, k, ⟨fourth, low⟩, least, number⟩
    exact ⟨second, third, fourth, number ▸ least, by rw [number, high, middle, low]⟩
  · rintro ⟨second, third, fourth, least, number⟩
    exact ⟨_, ⟨second, rfl⟩, _, ⟨third, rfl⟩, _, ⟨fourth, rfl⟩, by omega, by omega⟩

/-- What a sequence is that spells the number of a character. -/
inductive Spelled (c : Char) : List UInt8 → Prop where
  | one {a : UInt8} : a.toNat ≤ 0x7F → c.toNat = a.toNat → Spelled c [a]
  | two {a b : UInt8} : 0xC2 ≤ a.toNat → a.toNat ≤ 0xDF → Continues b →
      c.toNat = (a.toNat - 0xC0) * 64 + (b.toNat - 0x80) → Spelled c [a, b]
  | three {a b x : UInt8} : 0xE0 ≤ a.toNat → a.toNat ≤ 0xEF → Continues b → Continues x →
      0x800 ≤ c.toNat →
      c.toNat = (a.toNat - 0xE0) * 4096 + (b.toNat - 0x80) * 64 + (x.toNat - 0x80) →
      Spelled c [a, b, x]
  | four {a b x y : UInt8} : 0xF0 ≤ a.toNat → a.toNat ≤ 0xF4 → Continues b → Continues x →
      Continues y → 0x10000 ≤ c.toNat →
      c.toNat = (a.toNat - 0xF0) * 262144 + (b.toNat - 0x80) * 4096 + (x.toNat - 0x80) * 64 +
        (y.toNat - 0x80) →
      Spelled c [a, b, x, y]

theorem encodes_iff_spelled : Encodes c u ↔ Spelled c u := by
  constructor
  · intro encodes
    cases u with
    | nil => cases encodes
    | cons a bs =>
    obtain ⟨wide, whole⟩ := encodes
    have range := width_eq_iff.1 wide
    match bs, whole with
    | [], whole =>
        simp only [List.length_nil] at range
        exact .one (by omega) (scalar_eq_some_iff.1 whole).2
    | [b], whole =>
        obtain ⟨second, least, number⟩ := sequence_two_iff.1 whole
        simp only [List.length_cons, List.length_nil] at range
        exact .two (by omega) (by omega) second number
    | [b, x], whole =>
        obtain ⟨second, third, least, number⟩ := sequence_three_iff.1 whole
        simp only [List.length_cons, List.length_nil] at range
        exact .three (by omega) (by omega) second third least number
    | [b, x, y], whole =>
        obtain ⟨second, third, fourth, least, number⟩ := sequence_four_iff.1 whole
        simp only [List.length_cons, List.length_nil] at range
        exact .four (by omega) (by omega) second third fourth least number
    | _ :: _ :: _ :: _ :: _, whole => cases whole
  · intro spelled
    cases spelled with
    | one most number =>
        exact ⟨width_eq_iff.2 (by simp [most]), scalar_eq_some_iff.2 ⟨Nat.zero_le _, number⟩⟩
    | two least most second number =>
        exact ⟨width_eq_iff.2 (by simp [least, most]),
          sequence_two_iff.2 ⟨second, by omega, number⟩⟩
    | three least most second third long number =>
        exact ⟨width_eq_iff.2 (by simp [least, most]),
          sequence_three_iff.2 ⟨second, third, long, number⟩⟩
    | four least most second third fourth long number =>
        exact ⟨width_eq_iff.2 (by simp [least, most]),
          sequence_four_iff.2 ⟨second, third, fourth, long, number⟩⟩

/-! ## The encoding of a character -/

/-- The bytes that encode a character, by the size of its number. -/
theorem utf8EncodeChar_eq (c : Char) :
    String.utf8EncodeChar c =
      if c.toNat ≤ 0x7F then [.ofNat c.toNat]
      else if c.toNat ≤ 0x7FF then
        [.ofNat (c.toNat / 64 % 32 + 0xC0), .ofNat (c.toNat % 64 + 0x80)]
      else if c.toNat ≤ 0xFFFF then
        [.ofNat (c.toNat / 4096 % 16 + 0xE0), .ofNat (c.toNat / 64 % 64 + 0x80),
          .ofNat (c.toNat % 64 + 0x80)]
      else
        [.ofNat (c.toNat / 262144 % 8 + 0xF0), .ofNat (c.toNat / 4096 % 64 + 0x80),
          .ofNat (c.toNat / 64 % 64 + 0x80), .ofNat (c.toNat % 64 + 0x80)] := rfl

theorem ofNat_eq_of_toNat {n : Nat} (same : n = a.toNat) : UInt8.ofNat n = a := by
  rw [same, UInt8.ofNat_toNat]

theorem toNat_ofNat_byte {n : Nat} (small : n < 256) : (UInt8.ofNat n).toNat = n :=
  UInt8.toNat_ofNat_of_lt' small

/-- Six bits make a byte that continues a sequence. -/
theorem continues_ofNat (n : Nat) : Continues (.ofNat (n % 64 + 0x80)) := by
  have number := toNat_ofNat_byte (n := n % 64 + 0x80) (by omega)
  constructor <;> omega

/-- The encoding of a character spells its number. -/
theorem spelled_utf8EncodeChar (c : Char) : Spelled c (String.utf8EncodeChar c) := by
  have valid := toNat_lt c
  have last := toNat_ofNat_byte (n := c.toNat % 64 + 0x80) (by omega)
  have middle := toNat_ofNat_byte (n := c.toNat / 64 % 64 + 0x80) (by omega)
  have high := toNat_ofNat_byte (n := c.toNat / 4096 % 64 + 0x80) (by omega)
  rw [utf8EncodeChar_eq]
  split
  · next most =>
    have first := toNat_ofNat_byte (n := c.toNat) (by omega)
    exact .one (by omega) first.symm
  split
  · next most =>
    have first := toNat_ofNat_byte (n := c.toNat / 64 % 32 + 0xC0) (by omega)
    exact .two (by omega) (by omega) (continues_ofNat _) (by omega)
  split
  · next most =>
    have first := toNat_ofNat_byte (n := c.toNat / 4096 % 16 + 0xE0) (by omega)
    exact .three (by omega) (by omega) (continues_ofNat _) (continues_ofNat _) (by omega)
      (by omega)
  · next more =>
    -- three bits are enough because no scalar value is larger
    have first := toNat_ofNat_byte (n := c.toNat / 262144 % 8 + 0xF0) (by omega)
    exact .four (by omega) (by omega) (continues_ofNat _) (continues_ofNat _) (continues_ofNat _)
      (by omega) (by omega)

/-- **A sequence that spells a character is the encoding of the character.** -/
theorem spelled_iff : Spelled c u ↔ String.utf8EncodeChar c = u := by
  constructor
  · intro spelled
    rw [utf8EncodeChar_eq]
    cases spelled with
    | @one a most number =>
        rw [if_pos (by omega), ofNat_eq_of_toNat number]
    | @two a b least most second number =>
        simp only [Continues] at second
        have first : c.toNat / 64 % 32 + 0xC0 = a.toNat := by omega
        have second : c.toNat % 64 + 0x80 = b.toNat := by omega
        rw [if_neg (by omega), if_pos (by omega), ofNat_eq_of_toNat first,
          ofNat_eq_of_toNat second]
    | @three a b x least most second third long number =>
        simp only [Continues] at second third
        have first : c.toNat / 4096 % 16 + 0xE0 = a.toNat := by omega
        have second : c.toNat / 64 % 64 + 0x80 = b.toNat := by omega
        have third : c.toNat % 64 + 0x80 = x.toNat := by omega
        rw [if_neg (by omega), if_neg (by omega), if_pos (by omega), ofNat_eq_of_toNat first,
          ofNat_eq_of_toNat second, ofNat_eq_of_toNat third]
    | @four a b x y least most second third fourth long number =>
        simp only [Continues] at second third fourth
        have first : c.toNat / 262144 % 8 + 0xF0 = a.toNat := by omega
        have second : c.toNat / 4096 % 64 + 0x80 = b.toNat := by omega
        have third : c.toNat / 64 % 64 + 0x80 = x.toNat := by omega
        have fourth : c.toNat % 64 + 0x80 = y.toNat := by omega
        rw [if_neg (by omega), if_neg (by omega), if_neg (by omega), ofNat_eq_of_toNat first,
          ofNat_eq_of_toNat second, ofNat_eq_of_toNat third, ofNat_eq_of_toNat fourth]
  · rintro rfl
    exact spelled_utf8EncodeChar c

/-- **The decoder makes a character of its encoding and of no other sequence.** -/
theorem encodes_iff : Encodes c u ↔ String.utf8EncodeChar c = u :=
  encodes_iff_spelled.trans spelled_iff

end SqlLex.Utf8
