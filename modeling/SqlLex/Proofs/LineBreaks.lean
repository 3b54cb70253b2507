/-
# SqlLex.Proofs.LineBreaks -- how a line break is spelled does not matter

A preset reads a text and the same text with its line breaks unified alike, inside
literals, quoted identifiers and comments too (`Preset.tokenize_unifyBreaks`).  The
tokens are the same up to the line breaks in their values, at the same positions,
and so is the error if there is one.

Unifying is not done character by character: a return and its line feed become one.
It is done piece by piece nevertheless, since no piece ends between the two
(`Rule.Ends.apart`), and the cursors of the two texts stay level
(`Cursor.Level`).  Inside the body of a string a backslash may stand in front of the
return; the body stays one, and what it says is unified with it
(`Literal.Body.unifyBreaks`).
-/
import SqlLex.Proofs.LongestMatch
import SqlLex.Proofs.Rescan
import SqlLex.Proofs.Rewriting

namespace SqlLex

set_option autoImplicit false

variable {d : Dialect} {r : Rule} {cs u w : List Char}

/-! ## Unifying in parts -/

namespace Blank

variable {c : Char}

theorem unifyBreaks_cons (other : c ≠ '\r') : unifyBreaks (c :: cs) = c :: unifyBreaks cs := by
  simp [unifyBreaks, other]

theorem unifyBreaks_return (noFeed : '\n' ∉ cs.head?) :
    unifyBreaks ('\r' :: cs) = '\n' :: unifyBreaks cs := by
  cases cs with
  | nil => rfl
  | cons c cs =>
      have apart : c ≠ '\n' := by simpa using noFeed
      simp [unifyBreaks, apart]

/-- A return in front of a line feed adds nothing to it. -/
theorem unifyBreaks_return_feed (feed : '\n' ∈ cs.head?) :
    unifyBreaks ('\r' :: cs) = unifyBreaks cs := by
  obtain ⟨rest, rfl⟩ := List.head?_eq_some_iff.1 feed
  rw [unifyBreaks_cons (c := '\n') (by decide)]
  rfl

theorem exists_unifyBreaks_return (cs : List Char) :
    ∃ rest, unifyBreaks ('\r' :: cs) = '\n' :: rest := by
  apply List.head?_eq_some_iff.1
  rw [head?_unifyBreaks]
  rfl

/-- Texts are unified for themselves unless a return and its line feed are torn apart. -/
theorem unifyBreaks_append (apart : '\r' ∈ u.getLast? → '\n' ∉ w.head?) :
    unifyBreaks (u ++ w) = unifyBreaks u ++ unifyBreaks w := by
  induction u with
  | nil => rfl
  | cons c u ih =>
      have later : '\r' ∈ u.getLast? → '\n' ∉ w.head? := by
        intro last
        exact apart (by simp [List.getLast?_cons, Option.mem_def.1 last])
      rw [List.cons_append]
      by_cases back : c = '\r'
      · subst back
        by_cases feed : '\n' ∈ (u ++ w).head?
        · have own : '\n' ∈ u.head? := by
            cases u with
            | nil => exact absurd feed (apart rfl)
            | cons x u => simpa using feed
          rw [unifyBreaks_return_feed feed, unifyBreaks_return_feed own, ih later]
        · have noFeed : '\n' ∉ u.head? := by
            intro front
            exact feed (by simp [Option.mem_def.1 front])
          rw [unifyBreaks_return feed, unifyBreaks_return noFeed, ih later]
          rfl
      · rw [unifyBreaks_cons back, unifyBreaks_cons back, ih later]
        rfl

/-- What stands in front of a closing delimiter is unified for itself. -/
theorem unifyBreaks_closed (front : '\n' ∉ w.head?) (plain : '\r' ∉ w) :
    unifyBreaks (u ++ w) = unifyBreaks u ++ w := by
  rw [unifyBreaks_append fun _ => front, unifyBreaks_of_notMem plain]

/-- A front that is no line feed was there before. -/
theorem front_of_unifyBreaks (front : c ∈ (unifyBreaks cs).head?) (other : c ≠ '\n') :
    c ∈ cs.head? := by
  rw [head?_unifyBreaks] at front
  obtain ⟨e, before, same⟩ := Option.map_eq_some_iff.1 front
  split at same
  · exact absurd same.symm other
  · rw [← same]
    exact before

theorem feed_mem_unifyBreaks (back : '\r' ∈ cs) : '\n' ∈ unifyBreaks cs := by
  fun_induction unifyBreaks cs with
  | case1 => cases back
  | case2 => exact List.mem_cons_self
  | case3 => exact List.mem_cons_self
  | case4 c rest _ other ih =>
      exact List.mem_cons_of_mem _ (ih ((List.mem_cons.1 back).resolve_left (Ne.symm other)))

/-- Unifying makes no pair of characters without a line break. -/
theorem infix_of_unifyBreaks (pair : ['*', '/'] <:+: unifyBreaks cs) : ['*', '/'] <:+: cs := by
  fun_induction unifyBreaks cs with
  | case1 => exact pair
  | case2 rest ih =>
      have later := (List.infix_cons_iff.1 pair).resolve_left (by simp)
      exact List.infix_cons (List.infix_cons (ih later))
  | case3 rest _ ih =>
      have later := (List.infix_cons_iff.1 pair).resolve_left (by simp)
      exact List.infix_cons (ih later)
  | case4 c rest _ _ ih =>
      rcases List.infix_cons_iff.1 pair with ⟨behind, same⟩ | later
      · obtain ⟨rfl, second⟩ : '*' = c ∧ '/' :: behind = unifyBreaks rest := by simpa using same
        have front : '/' ∈ rest.head? := front_of_unifyBreaks (by simp [← second]) (by decide)
        obtain ⟨behind, rfl⟩ := List.head?_eq_some_iff.1 front
        exact ⟨[], behind, rfl⟩
      · exact List.infix_cons (ih later)

end Blank

/-! ## Bodies of strings -/

namespace Literal

variable {escapes : Bool} {body : List Char}

/-- A body says a line feed first exactly when it begins with one. -/
theorem feed_of_decode (well : Body escapes body) :
    '\n' ∈ (decode escapes body).head? ↔ '\n' ∈ body.head? := by
  cases well with
  | nil => rfl
  | plain noQuote ordinary => rw [decode_plain _ noQuote ordinary]; rfl
  | doubled => rw [decode_doubled]; rfl
  | @escaped c body on =>
      subst on
      rw [decode_escaped]
      split
      · rename_i special
        have other : c ≠ '\n' := by
          rintro rfl
          exact absurd special (by decide)
        simp [other, escapeChar]
      · rfl

theorem Body.behind_feed (well : Body escapes ('\n' :: body)) : Body escapes body := by
  cases well with
  | plain _ _ well => exact well

open Blank (unifyBreaks_cons unifyBreaks_return unifyBreaks_return_feed)

/-- A return in front of a body is unified with it, as it is in front of what the body says. -/
theorem Body.unifyBreaks_return (well : Body escapes body)
    (unified : Body escapes (Blank.unifyBreaks body))
    (meaning : decode escapes (Blank.unifyBreaks body) = Blank.unifyBreaks (decode escapes body)) :
    Body escapes (Blank.unifyBreaks ('\r' :: body)) ∧
      decode escapes (Blank.unifyBreaks ('\r' :: body)) =
        Blank.unifyBreaks ('\r' :: decode escapes body) := by
  have ordinary : escapes = true → '\n' ≠ escapeChar := fun _ => by decide
  by_cases feed : '\n' ∈ body.head?
  · rw [unifyBreaks_return_feed feed, unifyBreaks_return_feed ((feed_of_decode well).2 feed)]
    exact ⟨unified, meaning⟩
  · have noFeed := mt (feed_of_decode well).1 feed
    rw [Blank.unifyBreaks_return feed, Blank.unifyBreaks_return noFeed,
      decode_plain _ (by decide) ordinary, meaning]
    exact ⟨.plain (by decide) ordinary unified, rfl⟩

/-- **The unified body is a body, and it says what the body says, unified.** -/
theorem Body.unifyBreaks (well : Body escapes body) :
    Body escapes (Blank.unifyBreaks body) ∧
      decode escapes (Blank.unifyBreaks body) = Blank.unifyBreaks (decode escapes body) := by
  induction well with
  | nil => exact ⟨.nil, rfl⟩
  | @plain c body noQuote ordinary well ih =>
      rw [decode_plain body noQuote ordinary]
      by_cases back : c = '\r'
      · subst back
        exact well.unifyBreaks_return ih.1 ih.2
      · rw [unifyBreaks_cons back, unifyBreaks_cons back, decode_plain _ noQuote ordinary, ih.2]
        exact ⟨.plain noQuote ordinary ih.1, rfl⟩
  | @doubled body well ih =>
      have quotes : quote ≠ '\r' := by decide
      rw [decode_doubled, unifyBreaks_cons quotes, unifyBreaks_cons quotes, unifyBreaks_cons quotes,
        decode_doubled, ih.2]
      exact ⟨.doubled ih.1, rfl⟩
  | @escaped c body on well ih =>
      subst on
      have slash : escapeChar ≠ '\r' := by decide
      rw [unifyBreaks_cons slash, decode_escaped]
      by_cases back : c = '\r'
      · subst back
        -- the escape covers the line feed of the unified return, which says itself
        obtain ⟨unified, meaning⟩ := well.unifyBreaks_return ih.1 ih.2
        obtain ⟨rest, begins⟩ := Blank.exists_unifyBreaks_return body
        rw [begins] at unified meaning ⊢
        rw [decode_plain _ (by decide) (by decide)] at meaning
        rw [decode_escaped, if_neg (by decide), if_neg (by decide)]
        refine ⟨.escaped rfl unified.behind_feed, ?_⟩
        show escapeChar :: '\n' :: decode true rest =
          Blank.unifyBreaks (escapeChar :: '\r' :: decode true body)
        rw [unifyBreaks_cons slash, meaning]
      · rw [unifyBreaks_cons back, decode_escaped, ih.2]
        refine ⟨.escaped rfl ih.1, ?_⟩
        split
        · exact (unifyBreaks_cons back).symm
        · show escapeChar :: c :: Blank.unifyBreaks (decode true body) =
            Blank.unifyBreaks (escapeChar :: c :: decode true body)
          rw [unifyBreaks_cons slash, unifyBreaks_cons back]

theorem Unclosed.unifyBreaks (unclosed : Unclosed escapes body) :
    Unclosed escapes (Blank.unifyBreaks body) := by
  cases unclosed with
  | body well => exact .body well.unifyBreaks.1
  | escape on well =>
      rw [Blank.unifyBreaks_closed (by decide) (by decide)]
      exact .escape on well.unifyBreaks.1

end Literal

/-! ## Pieces, one by one -/

namespace Rule

/-- Line breaks of either spelling choose alike. -/
theorem choice_unifyBreaks (d : Dialect) (cs : List Char) :
    choice d (Blank.unifyBreaks cs) = choice d cs := by
  cases cs with
  | nil => rfl
  | cons c cs =>
      by_cases back : c = '\r'
      · obtain ⟨rest, begins⟩ := Blank.exists_unifyBreaks_return cs
        subst back
        rw [begins]
        rfl
      rw [Blank.unifyBreaks_cons back]
      show charChoice d c (Blank.unifyBreaks cs).head? = charChoice d c cs.head?
      rw [Blank.head?_unifyBreaks]
      cases cs.head? with
      | none => rfl
      | some e =>
          rw [Option.map_some]
          split
          · rename_i second
            rw [second, charChoice_of_notSecond (by decide) (by decide),
              charChoice_of_notSecond (by decide) (by decide)]
          · rfl

theorem unifyBreaks_letter {n : Char} (letter : n = 'N' ∨ n = 'n') (cs : List Char) :
    Blank.unifyBreaks (n :: cs) = n :: Blank.unifyBreaks cs := by
  apply Blank.unifyBreaks_cons
  rcases letter with rfl | rfl <;> decide

theorem unifyBreaks_opening {opening : Char} (orderly : d.Orderly)
    (opens : d.opensQuoted opening = true) (cs : List Char) :
    Blank.unifyBreaks (opening :: cs) = opening :: Blank.unifyBreaks cs := by
  apply Blank.unifyBreaks_cons
  rintro rfl
  simp [orderly.opens_mark '\r' (by decide)] at opens

/-- In an orderly dialect the closing quote stays where it stands. -/
theorem unifyBreaks_quoted {opening : Char} {body : List Char} (orderly : d.Orderly)
    (opens : d.opensQuoted opening = true) :
    Blank.unifyBreaks (opening :: (body ++ [Text.closing opening])) =
      opening :: (Blank.unifyBreaks body ++ [Text.closing opening]) := by
  have back := closing_ne_of_blank orderly opens (c := '\r') (by simp)
  have feed := closing_ne_of_blank orderly opens (c := '\n') (by simp)
  rw [unifyBreaks_opening orderly opens,
    Blank.unifyBreaks_closed (by simpa using feed) (by simpa using back.symm)]

theorem closing_notMem_unifyBreaks {opening : Char} {body : List Char} (orderly : d.Orderly)
    (opens : d.opensQuoted opening = true) (free : Text.closing opening ∉ body) :
    Text.closing opening ∉ Blank.unifyBreaks body := by
  intro mem
  rcases Blank.mem_unifyBreaks mem with before | ⟨feed, -⟩
  · exact free before
  · exact closing_ne_of_blank orderly opens (by simp) feed

theorem unifyBreaks_string (body : List Char) :
    Blank.unifyBreaks (Literal.quote :: (body ++ [Literal.quote])) =
      Literal.quote :: (Blank.unifyBreaks body ++ [Literal.quote]) := by
  rw [Blank.unifyBreaks_cons (by decide), Blank.unifyBreaks_closed (by decide) (by decide)]

theorem unifyBreaks_comment (body : List Char) :
    Blank.unifyBreaks ('/' :: '*' :: (body ++ ['*', '/'])) =
      '/' :: '*' :: (Blank.unifyBreaks body ++ ['*', '/']) := by
  rw [Blank.unifyBreaks_cons (by decide), Blank.unifyBreaks_cons (by decide),
    Blank.unifyBreaks_closed (by decide) (by decide)]

/-- Outside of delimiters only whitespace has line breaks to unify. -/
theorem unifyBreaks_of_bare (orderly : d.Orderly) (spells : Spells d r u)
    (bare : r.construct = none) (other : ∀ blank, r ≠ .whitespace blank) :
    Blank.unifyBreaks u = u :=
  Blank.unifyBreaks_of_notMem (return_notMem_of_spells orderly spells bare (other _))

/-- **A spelling with unified line breaks spells the same rule.** -/
theorem Spells.unifyBreaks (orderly : d.Orderly) (spells : Spells d r u) :
    Spells d r (Blank.unifyBreaks u) := by
  cases bare : r.construct with
  | none =>
      cases r with
      | whitespace blank => exact spells.unifyBlanks
      | _ => rwa [unifyBreaks_of_bare orderly spells bare (by simp)]
  | some construct =>
      cases spells with
      | string well =>
          rw [unifyBreaks_string]
          exact .string well.unifyBreaks.1
      | @nationalString n body letter well =>
          rw [unifyBreaks_letter letter, unifyBreaks_string]
          exact .nationalString letter well.unifyBreaks.1
      | quoted opens free =>
          rw [unifyBreaks_quoted orderly opens]
          exact .quoted opens (closing_notMem_unifyBreaks orderly opens free)
      | blockComment free =>
          rw [unifyBreaks_comment]
          exact .blockComment fun pair => free (Blank.infix_of_unifyBreaks pair)
      | _ => cases bare

/-- A lexeme that ends in front of a text ends, unified, in front of the unified text. -/
theorem Ends.unifyBreaks (orderly : d.Orderly) (spells : Spells d r u) (ends : Ends d r u w) :
    Ends d r (Blank.unifyBreaks u) (Blank.unifyBreaks w) := by
  have moved : Ends d r u (Blank.unifyBreaks w) := by
    apply ends.alike
    · intro c' front
      rw [Blank.head?_unifyBreaks] at front
      obtain ⟨c, before, rfl⟩ := Option.map_eq_some_iff.1 front
      refine ⟨c, before, Respelled.alike orderly ?_⟩
      split
      · exact .inr (.inl ⟨‹_›, rfl⟩)
      · exact .inl rfl
    · intro c rest same digit
      have period : '.' ∈ w.head? := Blank.front_of_unifyBreaks (by simp [same]) (by decide)
      obtain ⟨w, rfl⟩ := List.head?_eq_some_iff.1 period
      rw [Blank.unifyBreaks_cons (by decide)] at same
      have front : c ∈ w.head? := by
        apply Blank.front_of_unifyBreaks
        · simp [(List.cons.inj same).2]
        · rintro rfl
          cases digit
      obtain ⟨rest', rfl⟩ := List.head?_eq_some_iff.1 front
      exact ⟨c, rest', rfl, digit⟩
  cases r with
  | word => rwa [unifyBreaks_of_bare orderly spells rfl (by simp)]
  | number => rwa [unifyBreaks_of_bare orderly spells rfl (by simp)]
  | operator o => rwa [unifyBreaks_of_bare orderly spells rfl (by simp)]
  | _ => exact moved

/-- An open construct stays open. -/
theorem Unclosed.unifyBreaks (orderly : d.Orderly) (unclosed : Unclosed d r cs) :
    Unclosed d r (Blank.unifyBreaks cs) := by
  cases unclosed with
  | string well =>
      rw [Blank.unifyBreaks_cons (by decide)]
      exact .string well.unifyBreaks
  | @nationalString n body letter well =>
      rw [unifyBreaks_letter letter, Blank.unifyBreaks_cons (by decide)]
      exact .nationalString letter well.unifyBreaks
  | @quoted opening body opens free =>
      rw [unifyBreaks_opening orderly opens]
      exact .quoted opens (closing_notMem_unifyBreaks orderly opens free)
  | blockComment free =>
      rw [Blank.unifyBreaks_cons (by decide), Blank.unifyBreaks_cons (by decide)]
      exact .blockComment fun pair => free (Blank.infix_of_unifyBreaks pair)

/-- **What a spelling says is unified with it.** -/
theorem lexeme_unifyBreaks (orderly : d.Orderly)
    (reserved : ∀ v, d.reserved (Text.upper (.ofList (Blank.unifyBreaks v))) =
      d.reserved (Text.upper (.ofList v)))
    (spells : Spells d r u) :
    r.lexeme d (Blank.unifyBreaks u) = (r.lexeme d u).mapChars Blank.unifyBreaks := by
  cases bare : r.construct with
  | none =>
      cases r with
      | whitespace blank => simp [lexeme, Lexeme.mapChars, TokenValue.mapChars]
      | lineComment =>
          have body : '\r' ∉ u.drop 2 := fun mem =>
            return_notMem_of_spells orderly spells rfl (by simp) (List.mem_of_mem_drop mem)
          rw [unifyBreaks_of_bare orderly spells bare (by simp)]
          simp [lexeme, Lexeme.mapChars, TokenValue.mapChars, Blank.unifyBreaks_of_notMem body]
      | string => cases bare
      | quoted => cases bare
      | blockComment => cases bare
      | _ =>
          have same := unifyBreaks_of_bare orderly spells bare (by simp)
          rw [same]
          simp [lexeme, Lexeme.mapChars, TokenValue.mapChars, Dialect.classify, same]
  | some construct =>
      cases spells with
      | string well =>
          rw [unifyBreaks_string]
          simp [lexeme, head, Lexeme.mapChars, TokenValue.mapChars, well.unifyBreaks.2]
      | @nationalString n body letter well =>
          rw [unifyBreaks_letter letter, unifyBreaks_string]
          simp [lexeme, head, Lexeme.mapChars, TokenValue.mapChars, well.unifyBreaks.2]
      | quoted opens free =>
          rw [unifyBreaks_quoted orderly opens]
          simp [lexeme, Lexeme.mapChars, TokenValue.mapChars, Dialect.classify, reserved]
      | blockComment free =>
          rw [unifyBreaks_comment]
          simp [lexeme, Lexeme.mapChars, TokenValue.mapChars]
      | _ => cases bare

/-- Cursors that are level in front of a lexeme are level behind it, unified. -/
theorem level_unifyBreaks {k k' : Cursor} (orderly : d.Orderly) (spells : Spells d r u)
    (ends : Ends d r u w) (level : Cursor.Level k k' (u ++ w)) :
    Cursor.Level (k.advanceAll u) (k'.advanceAll (Blank.unifyBreaks u)) w := by
  apply level_behind orderly spells ends (spells.unifyBreaks orderly).ne_nil
  · exact fun last => Blank.return_notMem_unifyBreaks u (List.mem_of_getLast? last)
  · exact (level.of_append spells.ne_nil).unifyBreaks

end Rule

/-! ## Texts with unified line breaks -/

theorem Keyword.lookup_of_break {c : Char} (isBreak : c = '\n' ∨ c = '\r') (mem : c ∈ cs) :
    lookup (Text.upper (.ofList cs)) = none := by
  apply Option.eq_none_iff_forall_ne_some.2
  intro found known
  have table : ∀ word ∈ words, word.toList.all (fun c => !Blank.lineBreak.holds c) = true := by
    decide +kernel
  have apart := List.all_eq_true.1 (table _ (lookup_eq_some_iff.1 known).2)
  have inside : c.toUpper ∈ (Text.upper (.ofList cs)).toList := by
    simpa [Text.upper] using ⟨c, mem, rfl⟩
  rcases isBreak with rfl | rfl
  · exact nomatch apart _ inside
  · exact nomatch apart _ inside

/-- No line break is part of a reserved word. -/
theorem Preset.reserved_unifyBreaks (p : Preset) (v : List Char) :
    p.dialect.reserved (Text.upper (.ofList (Blank.unifyBreaks v))) =
      p.dialect.reserved (Text.upper (.ofList v)) := by
  have table : p.dialect.reserved = Keyword.lookup := by cases p <;> rfl
  by_cases back : '\r' ∈ v
  · have feed := Blank.feed_mem_unifyBreaks back
    rw [table, Keyword.lookup_of_break (.inl rfl) feed, Keyword.lookup_of_break (.inr rfl) back]
  · rw [Blank.unifyBreaks_of_notMem back]

/-- A text is rewritten by unifying its line breaks. -/
def Rewriting.unifyBreaks (orderly : d.Orderly)
    (reserved : ∀ v, d.reserved (Text.upper (.ofList (Blank.unifyBreaks v))) =
      d.reserved (Text.upper (.ofList v)))
    (text : List Char) : Rewriting d d text where
  chars := Blank.unifyBreaks
  lexeme := Lexeme.mapChars Blank.unifyBreaks
  Beside := Cursor.Level
  choice _ := Rule.choice_unifyBreaks d _
  append _ covers := Blank.unifyBreaks_append (covers.ends.apart orderly covers.spells)
  spells _ covers := covers.spells.unifyBreaks orderly
  ends _ covers := covers.ends.unifyBreaks orderly covers.spells
  meaning _ covers := Rule.lexeme_unifyBreaks orderly reserved covers.spells
  unclosed _ unclosed := unclosed.unifyBreaks orderly
  start := ⟨rfl, rfl, fun on => by cases on⟩
  position level := level.position.symm
  step _ covers level := Rule.level_unifyBreaks orderly covers.spells covers.ends level
  finish level := level.unifyBreaks.symm

/-- Only the whitespace rules make whitespace. -/
theorem Rule.exists_blank_of_kind (spells : Spells d r u)
    (kind : (r.lexeme d u).kind = .whitespace) : ∃ blank, r = .whitespace blank := by
  cases r with
  | whitespace blank => exact ⟨blank, rfl⟩
  | string national => cases national <;> cases kind
  | operator o =>
      have own := Operator.symbol_of_spells spells
      rw [show o.kind = .whitespace from kind] at own
      exact absurd rfl own
  | _ => cases kind

/-- Whitespace has unified line breaks already. -/
theorem Piece.unifyBreaks_of_whitespace {k : Cursor} {ps : List Piece}
    (spells : ∀ p ∈ ps, p.rule.Spells d p.slice) :
    ∀ token ∈ place d k ps, token.kind = .whitespace →
      token.mapLexeme (Lexeme.mapChars Blank.unifyBreaks) = token := by
  intro token mem kind
  have shown : token.toLexeme ∈ ps.map (lexeme d) := by
    rw [← toLexeme_place k]
    exact List.mem_map_of_mem mem
  obtain ⟨p, here, same⟩ := List.mem_map.1 shown
  rw [← same] at kind
  obtain ⟨blank, rule⟩ := Rule.exists_blank_of_kind (spells p here) kind
  have unified : token.toLexeme.mapChars Blank.unifyBreaks = token.toLexeme := by
    rw [← same, lexeme, rule]
    simp [Rule.lexeme, Lexeme.mapChars, TokenValue.mapChars, Blank.unifyBreaks_unifyBreaks]
  rw [Token.mapLexeme, unified]

/-- **How its line breaks are spelled does not matter to a text.**  The unified text has the same
tokens with the line breaks in their values unified -- in whitespace they are already --, at the
same positions, and the same error if there is one. -/
theorem Preset.tokenize_unifyBreaks (p : Preset) (s : String) :
    let run := (Tokenizer.ofString p.dialect s).tokenize
    let run' := (Tokenizer.ofString p.dialect (.ofList (Blank.unifyBreaks s.toList))).tokenize
    run'.1 = Tokenizer.mapLexemes (Lexeme.mapChars Blank.unifyBreaks) run.1 ∧
      run'.2.position = run.2.position ∧
      ∀ token ∈ Tokenizer.tokensOf run.1, token.kind = .whitespace →
        token.mapLexeme (Lexeme.mapChars Blank.unifyBreaks) = token := by
  intro run run'
  have text : (String.ofList (Blank.unifyBreaks s.toList)).toList = Blank.unifyBreaks s.toList :=
    String.toList_ofList
  obtain ⟨same, stop⟩ :=
    (Rewriting.unifyBreaks p.orderly p.reserved_unifyBreaks s.toList).tokenize_rewritten text
  refine ⟨same, stop, ?_⟩
  obtain ⟨ps, fault, taken, left, reading, -, after, -, whole⟩ :=
    Tokenizer.exists_reading_run p.dialect s
  have placed : Tokenizer.tokensOf run.1 = Piece.place p.dialect .start ps := by
    simp only [run, whole, Tokenizer.tokensOf_outcome]
  rw [placed]
  exact Piece.unifyBreaks_of_whitespace reading.spells

end SqlLex
