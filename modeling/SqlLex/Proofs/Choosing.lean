/-
# SqlLex.Proofs.Choosing -- which rule a text begins with

`Rule.choice` is the decision table behind `Rule.select`: in front of a text the
rule depends on the first character and the one behind it, and on nothing else
(`select_text`).  A chosen rule either covers a slice or finds its construct open
and takes everything (`slice_or_open`).
-/
import SqlLex.Proofs.Slicing

namespace SqlLex

set_option autoImplicit false

namespace Rule

variable {d : Dialect} {r : Rule} {c : Char} {cs u w : List Char} {s : Source}

/-! ## The decision table -/

/-- The choice between operators. -/
def operatorChoice (c : Char) (second : Option Char) : Choice :=
  match Operator.longest? c second with
  | some o => .rule (.operator o)
  | none => .fault (.invalidCharacter c)

/-- The choice between words, numbers, comments and operators. -/
def wordChoice (d : Dialect) (c : Char) (second : Option Char) : Choice :=
  if d.opensQuoted c then .rule (.quoted c)
  else if d.beginsWord c then .rule .word
  else if c.isDigit then .rule .number
  else if c = '-' ∧ second = some '-' then .rule .lineComment
  else if c = '/' ∧ second = some '*' then .rule .blockComment
  else operatorChoice c second

/-- The choice in front of a character and the one behind it, if there is one. -/
def charChoice (d : Dialect) (c : Char) (second : Option Char) : Choice :=
  match Blank.of? c with
  | some blank => .rule (.whitespace blank)
  | none =>
      if c = Literal.quote then .rule (.string false)
      else if (c = 'N' ∨ c = 'n') ∧ second = some Literal.quote then .rule (.string true)
      else wordChoice d c second

/-- The choice in front of a text. -/
def choice (d : Dialect) : List Char → Choice
  | [] => .finished
  | c :: cs => charChoice d c cs.head?

/-- A second character that belongs to no pair and is no quote chooses like the end of the text. -/
theorem charChoice_of_notSecond {e : Char} (noPair : e ∉ Operator.seconds)
    (noQuote : e ≠ Literal.quote) : charChoice d c (some e) = charChoice d c none := by
  have apart : e ≠ '-' ∧ e ≠ '*' := by
    constructor <;> rintro rfl <;> exact noPair (by decide)
  have longest : Operator.longest? c (some e) = Operator.longest? c none := by
    simp [Operator.longest?, Operator.ofPair?_eq_none (Operator.not_joins c noPair)]
  simp [charChoice, wordChoice, operatorChoice, longest, noQuote, apart]

/-! ## The table describes the choosing -/

/-- A look past the first of these answers meets `second` and leaves all of them pending. -/
def Shows (answers : List Answer) (second : Option Char) : Prop :=
  ∀ s : Source, s.pending = answers → ∃ held,
    s.peekNth 1 = ((second.map Answer.char).getD .nothing, held) ∧ held.pending = answers

theorem shows_pair (c e : Char) (answers : List Answer) :
    Shows (.char c :: .char e :: answers) (some e) :=
  fun _ h => Source.peekNth_one_of_char h

theorem shows_text (c : Char) (cs : List Char) : Shows ((c :: cs).map .char) cs.head? := by
  intro s h
  cases cs with
  | nil => exact Source.peekNth_one_of_single h
  | cons e cs => exact Source.peekNth_one_of_char h

section

variable {answers : List Answer} {second : Option Char}

theorem ifSecond_of_shows {expected : Char} {otherwise : Source → Choice × Source}
    {result : Choice} (shows : Shows answers second) (h : s.pending = answers)
    (other : second ≠ some expected → ∀ t : Source, t.pending = answers →
      ∃ held, otherwise t = (result, held) ∧ held.pending = answers) :
    ∃ held, ifSecond expected r s otherwise =
        (if second = some expected then .rule r else result, held) ∧ held.pending = answers := by
  obtain ⟨held, looked, left⟩ := shows s h
  unfold ifSecond
  rw [looked]
  cases second with
  | none =>
      obtain ⟨later, chosen, stays⟩ := other (by simp) held left
      exact ⟨later, by simpa using chosen, stays⟩
  | some e =>
      by_cases same : e = expected
      · exact ⟨held, by simp [same], left⟩
      · obtain ⟨later, chosen, stays⟩ := other (by simpa using same) held left
        exact ⟨later, by simpa [same] using chosen, stays⟩

theorem selectOperator_of_shows (shows : Shows answers second) (h : s.pending = answers) :
    ∃ held, selectOperator c s = (operatorChoice c second, held) ∧ held.pending = answers := by
  obtain ⟨held, looked, left⟩ := shows s h
  refine ⟨held, ?_, left⟩
  unfold selectOperator operatorChoice
  rw [looked]
  cases second with
  | none => cases found : Operator.longest? c none <;> simp [Answer.char?, found]
  | some e => cases found : Operator.longest? c (some e) <;> simp [Answer.char?, found]

theorem selectWord_of_shows (shows : Shows answers second) (h : s.pending = answers) :
    ∃ held, selectWord d c s = (wordChoice d c second, held) ∧ held.pending = answers := by
  unfold selectWord wordChoice
  split
  · exact ⟨s, rfl, h⟩
  split
  · exact ⟨s, rfl, h⟩
  split
  · exact ⟨s, rfl, h⟩
  have operators : ∀ t : Source, t.pending = answers →
      ∃ held, selectOperator c t = (operatorChoice c second, held) ∧ held.pending = answers :=
    fun t => selectOperator_of_shows shows
  split
  · rename_i dash
    subst dash
    simpa using ifSecond_of_shows shows h fun _ => operators
  split
  · rename_i slash
    subst slash
    simpa using ifSecond_of_shows shows h fun _ => operators
  · rename_i noDash noSlash
    simpa [noDash, noSlash] using operators s h

/-- **The table decides wherever the character behind the first one is shown.** -/
theorem select_of_shows (shows : Shows (.char c :: answers) second)
    (h : s.pending = .char c :: answers) :
    ∃ held, select d s = (charChoice d c second, held) ∧ held.pending = .char c :: answers := by
  obtain ⟨held, looked, left⟩ := Source.peek_of_char h
  unfold select
  rw [looked]
  simp only [selectAt, charChoice]
  cases Blank.of? c with
  | some blank => exact ⟨held, rfl, left⟩
  | none => ?_
  dsimp only
  split
  · exact ⟨held, rfl, left⟩
  split
  · rename_i letter
    simpa [letter] using ifSecond_of_shows shows left fun _ t rest => selectWord_of_shows shows rest
  · rename_i other
    simpa [other] using selectWord_of_shows shows left

end

theorem select_text (h : s.pending = cs.map .char) :
    ∃ held, select d s = (choice d cs, held) ∧ held.pending = cs.map .char := by
  cases cs with
  | nil =>
      obtain ⟨held, looked, left⟩ := Source.peek_of_nil h
      exact ⟨held, by simp [select, looked, choice], left⟩
  | cons c cs => exact select_of_shows (shows_text c cs) h

/-! ## Rules that every dialect chooses alike -/

/-- Whatever the dialect, whitespace is chosen where some stands. -/
theorem choice_of_whitespace {blank : Blank} (spells : Spells d (.whitespace blank) u) :
    choice d (u ++ w) = .rule (.whitespace blank) := by
  cases spells with
  | whitespace some all =>
      obtain ⟨c, run, rfl⟩ := List.exists_cons_of_ne_nil some
      have first := Blank.of?_eq_some_iff.2 (all c List.mem_cons_self)
      simp [choice, charChoice, first]

/-- Whatever the dialect, a string literal is chosen where one stands. -/
theorem choice_of_string {national : Bool} (spells : Spells d (.string national) u) :
    choice d (u ++ w) = .rule (.string national) := by
  cases spells with
  | string => rfl
  | nationalString letter => rcases letter with rfl | rfl <;> rfl

/-! ## What a choice says of the text -/

/-- What a chosen rule says of the first character and the one behind it. -/
def Begins (d : Dialect) (c : Char) (second : Option Char) : Rule → Prop
  | .whitespace blank => Blank.of? c = some blank
  | .string false => c = Literal.quote
  | .string true => (c = 'N' ∨ c = 'n') ∧ second = some Literal.quote
  | .quoted opening => c = opening ∧ d.opensQuoted c = true
  | .word => d.beginsWord c = true ∧ ¬ ((c = 'N' ∨ c = 'n') ∧ second = some Literal.quote)
  | .number => c.isDigit = true
  | .lineComment => c = '-' ∧ second = some '-'
  | .blockComment => c = '/' ∧ second = some '*'
  | .operator o =>
      Operator.longest? c second = some o ∧ ¬ (c = '-' ∧ second = some '-') ∧
        ¬ (c = '/' ∧ second = some '*')

theorem begins_of_choice (h : choice d (c :: cs) = .rule r) : Begins d c cs.head? r := by
  simp only [choice, charChoice] at h
  cases blank : Blank.of? c with
  | some b =>
      simp only [blank, Choice.rule.injEq] at h
      subst h
      exact blank
  | none =>
      simp only [blank, wordChoice, operatorChoice] at h
      split at h
      · rename_i quote
        cases h
        exact quote
      split at h
      · rename_i letter
        cases h
        exact letter
      rename_i letter
      split at h
      · rename_i opens
        cases h
        exact ⟨rfl, opens⟩
      split at h
      · rename_i begins
        cases h
        exact ⟨begins, letter⟩
      split at h
      · rename_i digit
        cases h
        exact digit
      split at h
      · rename_i dashes
        cases h
        exact dashes
      split at h
      · rename_i opens
        cases h
        exact opens
      rename_i noDashes noOpening
      split at h
      · rename_i o known
        cases h
        exact ⟨known, noDashes, noOpening⟩
      · cases h

/-! ## Covered or open -/

/-- A text begins with a longest run of characters that satisfy `p`. -/
theorem exists_run (p : Char → Bool) (cs : List Char) :
    ∃ run behind, cs = run ++ behind ∧ (∀ c ∈ run, p c = true) ∧
      ∀ c ∈ behind.head?, p c = false := by
  refine ⟨cs.takeWhile p, cs.dropWhile p, List.takeWhile_append_dropWhile.symm, ?_, ?_⟩
  · intro c mem
    simpa using List.all_eq_true.1 List.all_takeWhile c mem
  · intro c front
    have := List.head?_dropWhile_not p cs
    rw [Option.mem_def.1 front] at this
    simpa using this

/-- A run of digits, and the period and digits behind it if there are any, are a number. -/
theorem number_slice (first : c.isDigit = true) :
    ∃ u w, c :: cs = u ++ w ∧ Spells d .number u ∧ Ends d .number u w := by
  obtain ⟨run, behind, rfl, all, stops⟩ := exists_run Char.isDigit cs
  have digits : ∀ x ∈ c :: run, x.isDigit = true := by
    simpa [first] using all
  by_cases fraction : ∃ e rest, behind = '.' :: e :: rest ∧ e.isDigit = true
  · obtain ⟨e, rest, rfl, digit⟩ := fraction
    obtain ⟨more, behind, rfl, allMore, stopsMore⟩ := exists_run Char.isDigit rest
    have fraction : ∀ x ∈ e :: more, x.isDigit = true := by
      simpa [digit] using allMore
    refine ⟨(c :: run) ++ '.' :: (e :: more), behind, by simp, ?_, stopsMore, ?_⟩
    · exact .decimal (List.cons_ne_nil _ _) digits (List.cons_ne_nil _ _) fraction
    · intro noPeriod
      simp at noPeriod
  · refine ⟨c :: run, behind, rfl, .whole (List.cons_ne_nil _ _) digits, stops, ?_⟩
    intro _ e rest same
    apply Bool.eq_false_iff.2
    intro digit
    exact fraction ⟨e, rest, same, digit⟩

/-- A string literal is closed by a quote that is not doubled, or it is open. -/
theorem string_slice_or_open {national : Bool} (front : List Char)
    (width : (Rule.string national).head = front.length)
    (spells : ∀ {body}, Literal.Body d.backslashEscapes body →
      Spells d (.string national) (front ++ (body ++ [Literal.quote]))) (cs : List Char) :
    (∃ u w, front ++ cs = u ++ w ∧ Spells d (.string national) u ∧ Ends d (.string national) u w) ∨
      ∀ s : Source, s.pending = (front ++ cs).map .char →
        ((Rule.string national).cut d s).Yields (front ++ cs) .ended [] := by
  cases Literal.outcome d.backslashEscapes cs with
  | @closed body behind well single =>
      exact .inl ⟨front ++ (body ++ [Literal.quote]), behind, by simp, spells well, single⟩
  | opened well =>
      right
      intro s h
      exact cut_of_head front width h fun t => Source.takeString_open well
  | escaping on well =>
      right
      intro s h
      apply cut_of_head front width h
      intro t left
      rw [on] at well
      simpa only [tail, on] using Source.takeString_open_escape well left

/-- **A chosen rule covers a slice, or its construct is open and takes everything.** -/
theorem slice_or_open (h : choice d cs = .rule r) :
    (∃ u w, cs = u ++ w ∧ Spells d r u ∧ Ends d r u w) ∨
      ∃ construct, r.construct = some construct ∧
        ∀ s : Source, s.pending = cs.map .char → (r.cut d s).Yields cs .ended [] := by
  cases cs with
  | nil => simp [choice] at h
  | cons c cs =>
      have begins := begins_of_choice h
      cases r with
      | whitespace blank =>
          have first : Blank.of? c = some blank := begins
          obtain ⟨run, behind, rfl, all, stops⟩ := exists_run blank.holds cs
          refine .inl ⟨c :: run, behind, rfl, .whitespace (List.cons_ne_nil _ _) ?_, ?_⟩
          · simpa [Blank.of?_eq_some_iff.1 first, Blank.holds_eq_decide] using all
          · simpa [Ends, Blank.holds_eq_decide] using stops
      | string national =>
          cases national with
          | false =>
              obtain rfl : c = Literal.quote := begins
              exact (string_slice_or_open [_] rfl .string cs).imp_right (⟨_, rfl, ·⟩)
          | true =>
              obtain ⟨letter, second⟩ := begins
              obtain ⟨rest, rfl⟩ : ∃ rest, cs = Literal.quote :: rest := by
                simpa [List.head?_eq_some_iff] using second
              exact (string_slice_or_open [c, _] rfl (.nationalString letter)
                rest).imp_right (⟨_, rfl, ·⟩)
      | quoted opening =>
          obtain ⟨rfl, opens⟩ := begins
          by_cases closed : Text.closing c ∈ cs
          · obtain ⟨body, behind, rfl, free⟩ := List.eq_append_cons_of_mem closed
            exact .inl ⟨c :: (body ++ [Text.closing c]), behind, by simp, .quoted opens free,
              trivial⟩
          · refine .inr ⟨_, rfl, ?_⟩
            intro s h
            exact cut_of_head [c] rfl h fun t => Source.takeThrough_open closed
      | word =>
          obtain ⟨first, noString⟩ := begins
          obtain ⟨run, behind, rfl, all, stops⟩ := exists_run d.continuesWord cs
          refine .inl ⟨c :: run, behind, rfl, .word first all, stops, ?_⟩
          rintro letter quote
          cases run with
          | nil => exact noString ⟨by simpa using letter, quote⟩
          | cons x run => simp at letter
      | number => exact .inl (number_slice begins)
      | lineComment =>
          obtain ⟨rfl, second⟩ := begins
          obtain ⟨rest, rfl⟩ : ∃ rest, cs = '-' :: rest := by
            simpa [List.head?_eq_some_iff] using second
          obtain ⟨run, behind, rfl, all, stops⟩ :=
            exists_run (fun c => !(c == '\n' || c == '\r')) rest
          refine .inl ⟨'-' :: '-' :: run, behind, rfl, .lineComment ?_, ?_⟩
          · simpa using all
          · simpa [Ends, Decidable.or_iff_not_imp_left] using stops
      | blockComment =>
          obtain ⟨rfl, second⟩ := begins
          obtain ⟨rest, rfl⟩ : ∃ rest, cs = '*' :: rest := by
            simpa [List.head?_eq_some_iff] using second
          by_cases closed : ['*', '/'] <:+: rest
          · obtain ⟨body, behind, rfl, free⟩ := exists_first_closing closed
            exact .inl ⟨'/' :: '*' :: (body ++ ['*', '/']), behind, by simp, .blockComment free,
              trivial⟩
          · refine .inr ⟨_, rfl, ?_⟩
            intro s h
            exact cut_of_head ['/', '*'] rfl h fun t => Source.takeComment_open closed
      | operator o =>
          obtain ⟨known, noDashes, noOpening⟩ := begins
          rcases Option.or_eq_some_iff.1 known with pair | ⟨noPair, single⟩
          · obtain ⟨e, second, pair⟩ := Option.bind_eq_some_iff.1 pair
            obtain ⟨rest, rfl⟩ := List.head?_eq_some_iff.1 second
            exact .inl ⟨[c, e], rest, rfl, .operator (Operator.ofPair?_eq_some_iff.1 pair),
              fun x same => by simp at same⟩
          · refine .inl ⟨[c], cs, rfl, .operator (Operator.ofChar?_eq_some_iff.1 single), ?_⟩
            intro x same e front
            obtain rfl : c = x := by simpa using same
            rw [Option.mem_def] at front
            simp only [front, Option.bind_some] at noPair
            simpa [Operator.joins_iff, noPair, front] using And.intro noDashes noOpening

end Rule

end SqlLex
