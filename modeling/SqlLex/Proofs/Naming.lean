/-
# SqlLex.Proofs.Naming -- which texts name a preset

A name is trimmed and put into lower case by the rules of Unicode before it is looked
up.  Both steps know characters of every script, yet what they let through is ASCII
alone.

Trimming leaves the one middle part of a text that neither begins nor ends with white
space (`Text.trimmed_iff`).  The lower case of a character outside ASCII holds a
character outside ASCII, with one exception: that of the Kelvin sign is the letter k
(`Text.lowerChar_beyond`).  So a name of small letters without a k is the lower case of
the texts that are equal to it up to the case of ASCII letters, and of no others
(`Text.lowerCase_eq_iff`).  All aliases are such names (`Preset.small_of_alias`), hence
they are accepted in any letter case and with any white space around, and nothing else
is (`names_of_presets`).
-/
import SqlLex.Proofs.Delivery
import SqlLex.Proofs.LetterCase
import SqlLex.Settings

namespace SqlLex

set_option autoImplicit false

/-! ## Trimming -/

namespace Text

variable {c : Char} {cs core name : List Char}

/-- `core` is the text without the white space at both ends. -/
def Trimmed (cs core : List Char) : Prop :=
  ∃ front back, cs = front ++ core ++ back ∧ (∀ c ∈ front ++ back, isWhiteSpace c = true) ∧
    (∀ c ∈ core.head?, isWhiteSpace c = false) ∧ ∀ c ∈ core.getLast?, isWhiteSpace c = false

theorem dropWhile_of_head {p : Char → Bool} (stops : ∀ c ∈ cs.head?, p c = false) :
    cs.dropWhile p = cs := by
  cases cs with
  | nil => rfl
  | cons c cs => rw [List.dropWhile_cons, stops c rfl, if_neg Bool.false_ne_true]

theorem trimmed_trim (cs : List Char) : Trimmed cs (trim cs) := by
  let middle := cs.dropWhile isWhiteSpace
  have ends : trim cs ++ middle.rtakeWhile isWhiteSpace = middle :=
    List.rdropWhile_append_rtakeWhile
  refine ⟨cs.takeWhile isWhiteSpace, middle.rtakeWhile isWhiteSpace, ?_, ?_, ?_, ?_⟩
  · rw [List.append_assoc, ends, List.takeWhile_append_dropWhile]
  · intro c mem
    rcases List.mem_append.1 mem with front | back
    · exact List.mem_takeWhile_imp front
    · exact List.mem_rtakeWhile_imp back
  · intro c first
    obtain ⟨rest, begins⟩ := List.head?_eq_some_iff.1 first
    have stops := List.head?_dropWhile_not isWhiteSpace cs
    rw [show cs.dropWhile isWhiteSpace = middle from rfl, ← ends, begins] at stops
    exact stops
  · intro c last
    obtain ⟨some, rfl⟩ := List.mem_getLast?_eq_getLast last
    exact Bool.eq_false_iff.2 (List.rdropWhile_last_not isWhiteSpace middle some)

/-- **Trimming leaves the one part without white space at its ends.** -/
theorem trimmed_iff : Trimmed cs core ↔ core = trim cs := by
  refine ⟨?_, fun same => same ▸ trimmed_trim cs⟩
  rintro ⟨front, back, rfl, blank, first, last⟩
  rw [List.forall_mem_append] at blank
  rw [trim, List.append_assoc, List.dropWhile_append_of_pos blank.1]
  cases core with
  | nil =>
      rw [List.nil_append, List.dropWhile_eq_nil_iff.2 blank.2]
      rfl
  | cons c core =>
      have front : (c :: core ++ back).dropWhile isWhiteSpace = c :: core ++ back :=
        dropWhile_of_head first
      have behind : ∀ c ∈ back.reverse, isWhiteSpace c = true := by simpa using blank.2
      have stops : ∀ e ∈ (c :: core).reverse.head?, isWhiteSpace e = false := by
        rwa [List.head?_reverse]
      rw [front, List.reverse_append, List.dropWhile_append_of_pos behind,
        dropWhile_of_head stops, List.reverse_reverse]

/-! ## Lower case -/

/-- The Kelvin sign, whose lower case is the letter k. -/
def kelvin : CaseRun := ⟨0x212a, 0x212a, 1, 0x6b⟩

/-- Every other run outside ASCII keeps its lower case outside ASCII, and among the characters. -/
theorem caseRuns_beyond :
    ∀ run ∈ caseRuns, run.high < 128 ∨ run = kelvin ∨
      128 ≤ run.image ∧ (run.image + (run.high - run.low) < 0xd800 ∨
        0xdfff < run.image ∧ run.image + (run.high - run.low) < 0x110000) := by decide +kernel

/-- **Outside ASCII only the Kelvin sign has a lower case without a character outside ASCII.** -/
theorem lowerChar_beyond (beyond : 128 ≤ c.toNat) :
    lowerChar c = ['k'] ∨ ∃ d ∈ lowerChar c, 128 ≤ d.toNat := by
  unfold lowerChar
  split
  · exact .inr ⟨'\u0307', by simp, by decide⟩
  split
  · next run found =>
    have held := List.find?_some found
    simp only [CaseRun.holds, Bool.and_eq_true, decide_eq_true_eq] at held
    obtain ⟨⟨low, high⟩, -⟩ := held
    rcases caseRuns_beyond run (List.mem_of_find?_eq_some found) with ascii | rfl | ⟨image, among⟩
    · omega
    · left
      rw [Nat.le_antisymm high low]
      rfl
    · right
      refine ⟨_, List.mem_singleton_self _, ?_⟩
      have valid : (run.lower c.toNat).isValidChar := by
        simp only [Nat.isValidChar, CaseRun.lower]
        omega
      rw [Char.toNat_ofNat, if_pos valid, CaseRun.lower]
      omega
  · exact .inr ⟨c, List.mem_singleton_self c, beyond⟩

/-- ASCII without the letter k, which alone in ASCII is the lower case of a character outside it. -/
def Plain (cs : List Char) : Prop := ∀ c ∈ cs, c.toNat < 128 ∧ c ≠ 'k'

/-- A text with a plain lower case is ASCII, wherever it stands. -/
theorem ascii_of_lowerFrom {before : List Char} (plain : Plain (lowerFrom before cs)) :
    ∀ c ∈ cs, c.toNat < 128 := by
  induction cs generalizing before with
  | nil => simp
  | cons c cs ih =>
      rw [lowerFrom, Plain, List.forall_mem_append] at plain
      obtain ⟨here, rest⟩ := plain
      refine List.forall_mem_cons.2 ⟨?_, ih rest⟩
      by_contra beyond
      split at here
      · -- either small sigma is outside ASCII
        split at here <;> exact absurd (here _ (List.mem_singleton_self _)).1 (by decide)
      · rcases lowerChar_beyond (Nat.le_of_not_lt beyond) with letter | ⟨d, mem, outside⟩
        · exact (here 'k' (by simp [letter])).2 rfl
        · exact absurd (here d mem).1 (Nat.not_lt.2 outside)

/-- Inside ASCII the neighbours of a character do not matter. -/
theorem lowerFrom_ascii {before : List Char} (ascii : ∀ c ∈ cs, c.toNat < 128) :
    lowerFrom before cs = cs.map Char.toLower := by
  induction cs generalizing before with
  | nil => rfl
  | cons c cs ih =>
      obtain ⟨here, rest⟩ := List.forall_mem_cons.1 ascii
      have noSigma : c ≠ 'Σ' := by
        rintro rfl
        exact absurd here (by decide)
      rw [lowerFrom, if_neg noSigma, lowerChar_ascii here, ih rest]
      rfl

/-- A text with an upper case inside ASCII is ASCII. -/
theorem ascii_of_map_toUpper (small : ∀ c ∈ name, c.isLower = true)
    (same : cs.map Char.toUpper = name.map Char.toUpper) : ∀ c ∈ cs, c.toNat < 128 := by
  intro c mem
  have upper : c.toUpper ∈ name.map Char.toUpper := same ▸ List.mem_map_of_mem mem
  obtain ⟨e, inside, made⟩ := List.mem_map.1 upper
  have letter : c.toUpper.isAlpha = true := by
    rw [← made, Char.isAlpha_toUpper_eq_isAlpha, Char.isAlpha, small e inside, Bool.or_true]
  rw [Char.isAlpha_toUpper_eq_isAlpha] at letter
  exact toNat_of_isAlpha letter

theorem sameUpToCase_ofList_iff :
    sameUpToCase (.ofList cs) (.ofList name) = true ↔
      cs.map Char.toUpper = name.map Char.toUpper := by
  simp [sameUpToCase, upper, String.ofList_inj]

/-- **A small name without a k is the lower case of exactly the texts that are equal to it up to the
case of ASCII letters**, by the rules of Unicode. -/
theorem lowerCase_eq_iff (small : ∀ c ∈ name, c.isLower = true ∧ c ≠ 'k') :
    lowerCase cs = name ↔ sameUpToCase (.ofList cs) (.ofList name) = true := by
  have letters : ∀ c ∈ name, c.isLower = true := fun c mem => (small c mem).1
  have fixed : name.map Char.toLower = name := by
    rw [List.map_congr_left fun c mem => Char.toLower_eq_of_not_isUpper
      (Char.not_isUpper_of_isLower (letters c mem)), List.map_id']
  rw [sameUpToCase_ofList_iff]
  constructor
  · intro same
    have plain : Plain name := fun c mem =>
      ⟨toNat_of_isAlpha (by simp [Char.isAlpha, letters c mem]), (small c mem).2⟩
    rw [← same] at plain
    have ascii : ∀ c ∈ cs, c.toNat < 128 := ascii_of_lowerFrom plain
    rw [← same, lowerCase, lowerFrom_ascii ascii]
    simp
  · intro same
    rw [lowerCase, lowerFrom_ascii (ascii_of_map_toUpper letters same), ← fixed]
    have lower := congrArg (List.map Char.toLower) same
    simpa [Function.comp_def] using lower

end Text

/-! ## Presets -/

namespace Preset

variable {p : Preset} {name s : String}

/-- The aliases are small letters, and none of them is a k. -/
theorem small_of_alias (mem : (name, p) ∈ aliases) :
    ∀ c ∈ name.toList, c.isLower = true ∧ c ≠ 'k' := by
  have table : aliases.all (fun entry => entry.1.toList.all fun c => c.isLower && c != 'k') = true := by
    decide
  have here := List.all_eq_true.1 (List.all_eq_true.1 table _ mem)
  exact fun c inside => by simpa using here c inside

/-- No two presets share an alias. -/
theorem lookup_aliases : aliases.lookup name = some p ↔ (name, p) ∈ aliases := by
  constructor
  · intro found
    obtain ⟨front, back, listed, -⟩ := List.lookup_eq_some_iff.1 found
    rw [listed]
    simp
  · intro mem
    simp only [aliases, List.mem_cons, Prod.mk.injEq, List.not_mem_nil, or_false] at mem
    rcases mem with ⟨rfl, rfl⟩ | ⟨rfl, rfl⟩ | ⟨rfl, rfl⟩ | ⟨rfl, rfl⟩ | ⟨rfl, rfl⟩ | ⟨rfl, rfl⟩ <;>
      decide

/-- **A text names a preset exactly if it is one of its aliases up to ASCII case, trimmed.** -/
theorem parse_eq_ok_iff :
    parse s = .ok p ↔ ∃ name, (name, p) ∈ aliases ∧
      Text.sameUpToCase (.ofList (Text.trim s.toList)) name = true := by
  have found : parse s = .ok p ↔ ofName? s = some p := by
    unfold parse
    cases ofName? s <;> simp
  rw [found, ofName?, lookup_aliases]
  have same : ∀ {name}, (name, p) ∈ aliases →
      (Text.lowerCase (Text.trim s.toList) = name.toList ↔
        Text.sameUpToCase (.ofList (Text.trim s.toList)) name = true) := by
    intro name mem
    rw [Text.lowerCase_eq_iff (small_of_alias mem), String.ofList_toList]
  constructor
  · intro mem
    exact ⟨_, mem, (same mem).1 String.toList_ofList.symm⟩
  · rintro ⟨name, mem, upToCase⟩
    rwa [(same mem).2 upToCase, String.ofList_toList]

/-- A text that names a preset is ASCII, trimmed. -/
theorem ascii_of_parse (named : parse s = .ok p) : ∀ c ∈ Text.trim s.toList, c.toNat < 128 := by
  obtain ⟨name, mem, same⟩ := parse_eq_ok_iff.1 named
  rw [← String.ofList_toList (s := name), Text.sameUpToCase_ofList_iff] at same
  exact Text.ascii_of_map_toUpper (fun c inside => (small_of_alias mem c inside).1) same

theorem parse_ok_or_error (s : String) :
    (∃ p, parse s = .ok p) ∨
      parse s = .error (.configuration ("Unsupported dialect: " ++ s)) := by
  unfold parse
  cases ofName? s with
  | some p => exact .inl ⟨p, rfl⟩
  | none => exact .inr rfl

end Preset

/-! ## The environment -/

theorem Utf8.text?_ofString (s : String) : text? (ofString s) = some s := by
  have chars : ∀ cs : List Char, (cs.map Answer.char).mapM Answer.char? = some cs := by
    intro cs
    induction cs with
    | nil => rfl
    | cons c cs ih => simp [Answer.char?, ih]
  rw [text?, decode_ofString, chars, Option.map_some, String.ofList_toList]

/-- **Exactly the aliases name a preset, in any letter case of ASCII and with any white space around.**
A text names a preset if and only if, without the white space at its ends, it is one of the six names
up to the case of ASCII letters, and then it names the preset of that name.  Every other text is
refused with a configuration error, among them all that hold a character outside ASCII in between.
The environment variable chooses settings in the same way, and leaves none where its text is
refused. -/
theorem names_of_presets (s : String) :
    (∀ other, Text.Trimmed s.toList other ↔ other = Text.trim s.toList) ∧
      let core := Text.trim s.toList
      let names : List (String × Preset) :=
        [("generic", .generic), ("ansi", .generic), ("postgresql", .postgresql),
          ("postgres", .postgresql), ("pg", .postgresql), ("mysql", .mysql)]
      let refusal : Error := .configuration ("Unsupported dialect: " ++ s)
      (∀ p, Preset.parse s = .ok p ↔
        ∃ name, (name, p) ∈ names ∧ Text.sameUpToCase (.ofList core) name = true) ∧
      ((∀ entry ∈ names, Text.sameUpToCase (.ofList core) entry.1 = false) →
        Preset.parse s = .error refusal) ∧
      ((∃ c ∈ core, 128 ≤ c.toNat) → Preset.parse s = .error refusal) ∧
      Settings.ofEnvironment (some (Utf8.ofString s)) =
        match Preset.parse s with
        | .ok p => .ok ⟨p⟩
        | .error e => .error e := by
  refine ⟨fun other => Text.trimmed_iff, ?_⟩
  intro core names refusal
  have refused : (∀ p, Preset.parse s ≠ .ok p) → Preset.parse s = .error refusal := by
    intro none
    exact (Preset.parse_ok_or_error s).resolve_left fun ⟨p, named⟩ => none p named
  refine ⟨fun p => Preset.parse_eq_ok_iff, ?_, ?_, ?_⟩
  · intro other
    refine refused fun p named => ?_
    obtain ⟨name, mem, same⟩ := Preset.parse_eq_ok_iff.1 named
    rw [other (name, p) mem] at same
    cases same
  · rintro ⟨c, mem, beyond⟩
    refine refused fun p named => ?_
    exact absurd (Preset.ascii_of_parse named c mem) (Nat.not_lt.2 beyond)
  · rw [Settings.ofEnvironment, Option.bind_some, Utf8.text?_ofString]
    dsimp only
    cases Preset.parse s <;> rfl

/-- A name in mixed case between an em space and an ideographic space, a name with the Kelvin sign in
front, whose lower case is inside ASCII, and a name with a dotted capital I. -/
theorem names_of_presets_look_alikes :
    let named := "\u2003PostGreS\u3000"
    let kelvin := "\u212apg"
    let dotted := "ANS\u0130"
    Text.lowerCase kelvin.toList = "kpg".toList ∧
      Text.lowerCase dotted.toList = "ansi\u0307".toList ∧
      Preset.parse named = .ok .postgresql ∧
      (∀ entry ∈ Preset.aliases,
        Text.sameUpToCase (.ofList (Text.trim kelvin.toList)) entry.1 = false) ∧
      Preset.parse kelvin = .error (.configuration "Unsupported dialect: \u212apg") ∧
      (∃ c ∈ Text.trim dotted.toList, 128 ≤ c.toNat) ∧
      Preset.parse dotted = .error (.configuration "Unsupported dialect: ANS\u0130") := by
  intro named kelvin dotted
  obtain ⟨-, accepted, -, -, -⟩ := names_of_presets named
  obtain ⟨-, -, refused, -, -⟩ := names_of_presets kelvin
  obtain ⟨-, -, -, outside, -⟩ := names_of_presets dotted
  have other : ∀ entry ∈ Preset.aliases,
      Text.sameUpToCase (.ofList (Text.trim kelvin.toList)) entry.1 = false := by decide +kernel
  have beyond : ∃ c ∈ Text.trim dotted.toList, 128 ≤ c.toNat := ⟨'\u0130', by decide +kernel, by decide⟩
  exact ⟨by decide +kernel, by decide +kernel,
    (accepted .postgresql).2 ⟨"postgres", by decide, by decide +kernel⟩, other, refused other,
    beyond, outside beyond⟩

end SqlLex
