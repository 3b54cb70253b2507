/-
# SqlLex.Proofs.Symbols -- a written document splits into its symbols

`Symbol.ofChars?` finds in a document the symbols whose texts it was put together
from (`ofChars?_flatMap_text`).  What a symbol's text says is settled without what
follows it (`first?_text`) in every case but one: more digits behind a number would be
taken for its own.  So of two neighbours one has to be a punctuation mark, which the
symbols of a value bear out (`isChain_symbols`).

A string reads back character by character, since the spelling of a character is taken
off the front whole (`Text.read?_spellChar`); a number reads back because its digits are
the ones that spell it, with no zero in front (`isWhole_toDigits`).
-/
import Mathlib
import SqlLex.Json.Symbol

namespace SqlLex.Json

set_option autoImplicit false

/-! ## Strings -/

namespace Text

/-- The digits that spell a control character spell its code. -/
theorem hexNumber?_control {c : Char} (control : c.toNat < 0x20) :
    hexNumber? ['0', '0', Nat.digitChar (c.toNat / 16), Nat.digitChar (c.toNat % 16)]
      = some c.toNat := by
  have table : ∀ n < 0x20,
      hexNumber? ['0', '0', Nat.digitChar (n / 16), Nat.digitChar (n % 16)] = some n := by decide
  exact table c.toNat control

/-- A unit below the surrogates is the character of that code. -/
theorem ofUnit_toNat {c : Char} (below : c.toNat < 0xD800) : Piece.ofUnit c.toNat = .char c := by
  rw [Piece.ofUnit, if_neg (by omega), Char.ofNat_toNat]

/-- The spelling of a character is read as that character, whatever follows. -/
theorem read?_spellChar (c : Char) (rest : List Char) :
    read? (spellChar c ++ rest) =
      (read? rest).map fun (pieces, after) => (.char c :: pieces, after) := by
  fun_cases spellChar c with
  | case1 same | case2 _ same | case3 _ _ same | case4 _ _ _ same | case5 _ _ _ _ same
  | case6 _ _ _ _ _ same | case7 _ _ _ _ _ _ same =>
    subst same
    simp [read?, escapes, List.lookup, Option.map_eq_bind]
  | case8 _ _ _ _ _ _ _ control =>
    have unit := ofUnit_toNat (Nat.lt_trans control (by decide))
    simp [read?, hexNumber?_control control, unit, Option.map_eq_bind]
  | case9 unquoted unescaped _ _ _ _ _ printable =>
    rw [List.singleton_append, read?]
    · simp [printable, unescaped, Option.map_eq_bind]
    -- The last equation of `read?` is for fronts that are no quote and no escape.
    all_goals intros; contradiction

/-- A spelled text is read as its characters, up to its own quote. -/
theorem read?_flatMap_spellChar (text rest : List Char) :
    read? (text.flatMap spellChar ++ '"' :: rest) = some (text.map .char, rest) := by
  induction text with
  | nil => rfl
  | cons c text ih => simp [read?_spellChar, ih]

/-- Characters alone are a text. -/
theorem join?_map_char (text : List Char) : join? (text.map .char) = some text := by
  induction text with
  | nil => rfl
  | cons c text ih => simp [join?, ih]

end Text

/-! ## Numbers -/

theorem decimal_toDigits (n : Nat) : decimal (Nat.toDigits 10 n) = n :=
  Nat.ofDigitChars_ten_toDigits

/-- The digits of a number other than zero begin with one other than zero. -/
theorem toDigits_eq_cons {n : Nat} (positive : 0 < n) :
    ∃ c rest, Nat.toDigits 10 n = c :: rest ∧ c ≠ '0' := by
  induction n using Nat.strongRecOn with
  | ind n ih =>
    by_cases short : n < 10
    · refine ⟨n.digitChar, [], Nat.toDigits_of_lt_base short, ?_⟩
      rw [ne_eq, Nat.digitChar_eq_zero]
      omega
    · obtain ⟨c, rest, digits, nonzero⟩ := ih (n / 10) (by omega) (by omega)
      refine ⟨c, rest ++ [(n % 10).digitChar], ?_, nonzero⟩
      rw [Nat.toDigits_of_base_le (by decide) (by omega), digits]
      rfl

theorem isDigit_toDigits (n : Nat) : ∀ c ∈ Nat.toDigits 10 n, c.isDigit = true :=
  fun _ => Nat.isDigit_of_mem_toDigits (by decide) (by decide)

/-- The digits of a number have no zero in front of others. -/
theorem isWhole_toDigits (n : Nat) : isWhole (Nat.toDigits 10 n) = true := by
  obtain rfl | positive := Nat.eq_zero_or_pos n
  · rfl
  · obtain ⟨c, rest, digits, nonzero⟩ := toDigits_eq_cons positive
    have all := isDigit_toDigits n
    rw [digits] at all ⊢
    simp_all [isWhole]

theorem ofLiteral?_toDigits (n : Nat) : ofLiteral? (Nat.toDigits 10 n) = some (.natural n) := by
  simp only [ofLiteral?, isWhole_toDigits, if_true, decimal_toDigits]

namespace Symbol

/-- A digit begins a number. -/
theorem first?_of_isDigit {c : Char} (digit : c.isDigit = true) (rest : List Char) :
    first? (c :: rest) = (ofLiteral? (c :: rest.takeWhile inNumber)).map fun v =>
      (.scalar v, rest.dropWhile inNumber) := by
  have unmarked : ofMark? c = none := by
    fun_cases ofMark? c <;> first | rfl | simp at digit
  rw [first?, unmarked]
  · simp [digit]
  -- The last equation of `first?` is for fronts that are no quote and none of the three words.
  all_goals intros; subst_vars; simp at digit

/-- Digits are read as the number that they write, unless more of a number follows. -/
theorem first?_toDigits (n : Nat) {rest : List Char} (bounded : ∀ c ∈ rest.head?, ¬inNumber c) :
    first? (Nat.toDigits 10 n ++ rest) = some (.scalar (.natural n), rest) := by
  have digits := isDigit_toDigits n
  have own : ∀ c ∈ Nat.toDigits 10 n, inNumber c := fun c mem => by simp [inNumber, digits c mem]
  have literal := ofLiteral?_toDigits n
  have nonempty : Nat.toDigits 10 n ≠ [] := Nat.toDigits_ne_nil
  have stopped : rest.takeWhile inNumber = [] ∧ rest.dropWhile inNumber = rest := by
    cases rest <;> simp_all
  cases spelling : Nat.toDigits 10 n with
  | nil => contradiction
  | cons c ds =>
    rw [spelling] at digits own literal
    have behind : ∀ d ∈ ds, inNumber d := fun d mem => own d (List.mem_cons_of_mem _ mem)
    rw [List.cons_append, first?_of_isDigit (digits c List.mem_cons_self),
      List.takeWhile_append_of_pos behind, List.dropWhile_append_of_pos behind, stopped.1,
      stopped.2, List.append_nil, literal, Option.map_some]

/-! ## One symbol -/

/-- Is the symbol a punctuation mark? -/
def isMark : Symbol → Bool
  | .scalar _ => false
  | _ => true

/-- Is the symbol a mark, or a value that holds no others and is no number with a sign, a
fraction or an exponent? -/
def isPlain : Symbol → Bool
  | .scalar (.number _) | .scalar (.array _) | .scalar (.object _) => false
  | _ => true

/-- The text of a symbol is read as that symbol, unless it is a number and more of one
follows. -/
theorem first?_text {x : Symbol} (plain : x.isPlain) {rest : List Char}
    (bounded : x.isMark ∨ ∀ c ∈ rest.head?, ¬inNumber c) :
    first? (x.text ++ rest) = some (x, rest) := by
  cases x with
  | openBrace | closeBrace | openBracket | closeBracket | colon | comma => rfl
  | scalar v =>
    cases v with
    | null => rfl
    | boolean b => cases b <;> rfl
    | natural n => exact first?_toDigits n (bounded.resolve_left (by simp [isMark]))
    | string read =>
      cases read with
      | none => rfl
      | some s =>
        have spelling : text (.scalar (.string (some s))) =
            '"' :: (s.toList.flatMap Text.spellChar ++ ['"']) := rfl
        rw [spelling, List.cons_append, List.append_assoc, first?]
        simp [Text.read?_flatMap_spellChar, Text.join?_map_char]
    | number | array | object => simp [isPlain] at plain

/-- What follows a number in a document is not taken for a part of it if it is a mark. -/
theorem not_inNumber_of_isMark {x : Symbol} (mark : x.isMark) (rest : List Char) :
    ∀ c ∈ (x.text ++ rest).head?, ¬inNumber c := by
  cases x with
  | scalar v => simp [isMark] at mark
  | _ => rintro c ⟨⟩; decide

/-- A gap begins no symbol. -/
theorem first?_of_isGap {c : Char} (gap : isGap c) (rest : List Char) :
    first? (c :: rest) = none := by
  simp only [isGap, Bool.or_eq_true, beq_iff_eq] at gap
  rcases gap with ((rfl | rfl) | rfl) | rfl <;> rfl

/-! ## The symbols of a document -/

/-- A document that begins with a symbol goes on with those of what follows it. -/
theorem ofChars?_of_first? {cs after : List Char} {x : Symbol} (h : first? cs = some (x, after)) :
    ofChars? cs = (ofChars? after).map (x :: ·) := by
  cases cs with
  | nil => simp [first?] at h
  | cons c rest =>
    have filled : ¬isGap c := fun gap => by simp [first?_of_isGap gap] at h
    rw [ofChars?, if_neg filled]
    split <;> simp_all

/-- One of two neighbours is a punctuation mark. -/
def Apart (x y : Symbol) : Prop := x.isMark ∨ y.isMark

/-- **A document splits into the symbols whose texts it was put together from.** -/
theorem ofChars?_flatMap_text {xs : List Symbol} (plain : ∀ x ∈ xs, x.isPlain)
    (apart : xs.IsChain Apart) : ofChars? (xs.flatMap text) = some xs := by
  induction xs with
  | nil => rw [List.flatMap_nil, ofChars?]
  | cons x xs ih =>
    have bounded : x.isMark ∨ ∀ c ∈ (xs.flatMap text).head?, ¬inNumber c := by
      cases xs with
      | nil => simp
      | cons y ys =>
        exact (List.isChain_cons_cons.mp apart).1.imp_right
          (fun mark => not_inNumber_of_isMark mark (ys.flatMap text))
    rw [List.flatMap_cons, ofChars?_of_first? (first?_text (plain x List.mem_cons_self) bounded),
      ih (fun y mem => plain y (List.mem_cons_of_mem _ mem)) apart.tail]
    rfl

end Symbol

/-! ## The symbols of a value -/

/-- A mark keeps apart what stands before and behind it. -/
theorem isChain_append_mark {xs ys : List Symbol} {mark : Symbol} (isMark : mark.isMark)
    (left : xs.IsChain Symbol.Apart) (right : ys.IsChain Symbol.Apart) :
    (xs ++ mark :: ys).IsChain Symbol.Apart := by
  rw [List.isChain_append, List.isChain_cons]
  refine ⟨left, ⟨fun _ _ => .inl isMark, right⟩, ?_⟩
  rintro x - y ⟨⟩
  exact .inr isMark

mutual

/-- Between two values stands a punctuation mark. -/
theorem isChain_symbols : (v : Json) → v.symbols.IsChain Symbol.Apart
  | .null | .boolean _ | .natural _ | .number _ | .string _ => .singleton _
  | .array elems => by
    rw [symbols, List.isChain_cons]
    exact ⟨fun _ _ => .inl rfl, isChain_append_mark rfl (isChain_elementSymbols elems) .nil⟩
  | .object fields => by
    rw [symbols, List.isChain_cons]
    exact ⟨fun _ _ => .inl rfl, isChain_append_mark rfl (isChain_fieldSymbols fields) .nil⟩

theorem isChain_elementSymbols : (elems : List Json) → (elementSymbols elems).IsChain Symbol.Apart
  | [] => .nil
  | [v] => isChain_symbols v
  | v :: w :: rest =>
    isChain_append_mark rfl (isChain_symbols v) (isChain_elementSymbols (w :: rest))

theorem isChain_fieldSymbols : (fields : List Field) → (fieldSymbols fields).IsChain Symbol.Apart
  | [] => .nil
  | [(_, v)] => isChain_append_mark rfl (.singleton _) (isChain_symbols v)
  | (_, v) :: field :: rest =>
    isChain_append_mark rfl (.singleton _)
      (isChain_append_mark rfl (isChain_symbols v) (isChain_fieldSymbols (field :: rest)))

end

end SqlLex.Json
