/-
# SqlLex.Proofs.ReadFailure -- a source that fails in the middle of a text

A source gives some characters and then fails.  Nobody knows what would have come
in place of the failure, so nothing may be concluded from it.  Every cut is
`Cautious`: either the characters that were given settle it, and then it takes the
same slice whatever comes behind them, or it asks for more and stops with the
failure (`Rule.cautious_cut`).  Choosing a rule and scanning are cautious in the
same sense (`Rule.select_settled_or_outrun`, `Source.scan_settled_or_outrun`).

So the characters have a part that is read in the same way in front of everything,
`Firm`, and behind that part either the next scan runs into the failure, or a
character that begins nothing has been seen (`exists_firm`).  A run over such a
source therefore never succeeds: it reports the failure, with tokens that every
text with these characters in front begins with, or it fails on the character as
every such text does (`tokenize_of_failing_source`).
-/
import SqlLex.Proofs.Contiguity

namespace SqlLex

set_option autoImplicit false

/-! ## Cuts -/

namespace Cut

/-- These characters settle the cut: it takes `taken` and leaves `left`, whatever comes behind. -/
def Settled (cut : Source → Cut) (taken left : List Char) : Prop :=
  ∀ (s : Source) (behind : List Answer), s.pending = (taken ++ left).map .char ++ behind →
    (cut s).Yields taken .complete (left.map .char ++ behind)

/-- The cut asks for more than these characters, and stops with a failure behind them. -/
def Outruns (cut : Source → Cut) (cs : List Char) : Prop :=
  ∀ (s : Source) (e : Error) (behind : List Answer),
    s.pending = cs.map .char ++ .fail e :: behind → (cut s).stop = .failed e

/-- Whatever characters are given, they settle the cut or it asks for more. -/
def Cautious (cut : Source → Cut) : Prop :=
  ∀ cs, Outruns cut cs ∨ ∃ taken left, cs = taken ++ left ∧ Settled cut taken left

theorem cautious_empty : Cautious empty :=
  fun cs => .inr ⟨[], cs, rfl, fun _ _ h => ⟨rfl, rfl, h⟩⟩

theorem Cautious.andThen {first more : Source → Cut} (head : Cautious first)
    (tail : Cautious more) : Cautious fun s => (first s).andThen more := by
  intro cs
  rcases head cs with outruns | ⟨u, rest, rfl, settled⟩
  · left
    intro s e behind h
    have stop := outruns s e behind h
    simp only [Cut.andThen, stop]
  · rcases tail rest with outruns | ⟨v, left, rfl, settled'⟩
    · left
      intro s e behind h
      have first := settled s _ h
      have second := outruns _ e behind first.left
      simp only [Cut.andThen, first.stop, second]
    · right
      refine ⟨u ++ v, left, (List.append_assoc ..).symm, ?_⟩
      intro s behind h
      rw [List.append_assoc] at h
      exact (settled s behind h).andThen fun t next => settled' t behind next

end Cut

namespace Source

variable {s : Source} {e : Error} {behind : List Answer}

theorem take_outruns (n : Nat) (cs : List Char) (short : cs.length < n) :
    Cut.Outruns (take n) cs := by
  induction n generalizing cs with
  | zero => omega
  | succ n ih =>
      intro s e behind h
      cases cs with
      | nil =>
          obtain ⟨after, met, -⟩ := next_of_cons h
          simp only [take, met]
      | cons c cs =>
          obtain ⟨after, taken, rest⟩ := next_of_cons h
          simp only [take, taken]
          exact ih cs (Nat.lt_of_succ_lt_succ short) after e behind rest

theorem cautious_take (n : Nat) : Cut.Cautious (take n) := by
  intro cs
  by_cases short : cs.length < n
  · exact .inl (take_outruns n cs short)
  · have width : (cs.take n).length = n := List.length_take_of_le (Nat.le_of_not_lt short)
    refine .inr ⟨cs.take n, cs.drop n, (List.take_append_drop n cs).symm, ?_⟩
    intro s behind h
    rw [List.map_append, List.append_assoc] at h
    have taking := take_length (cs.take n) h
    rwa [width] at taking

theorem cautious_takeWhile (p : Char → Bool) : Cut.Cautious (takeWhile p) := by
  intro cs
  obtain ⟨run, rest, rfl, all, stops⟩ := Rule.exists_run p cs
  cases rest with
  | nil =>
      left
      intro s e behind h
      rw [List.append_nil] at h
      obtain ⟨after, loop, left⟩ := takeWhileFrom_run p run [] all h
      obtain ⟨later, met, -⟩ := nextIf_of_other p left rfl
      rw [takeWhile, loop, takeWhileFrom_eq, met]
  | cons c rest =>
      refine .inr ⟨run, c :: rest, rfl, ?_⟩
      intro s behind h
      exact takeWhile_stop p all (stops c rfl) (by simpa using h)

theorem cautious_takeThrough (closer : Char) : Cut.Cautious (takeThrough closer) := by
  intro cs
  by_cases closed : closer ∈ cs
  · obtain ⟨body, rest, rfl, free⟩ := List.eq_append_cons_of_mem closed
    refine .inr ⟨body ++ [closer], rest, by simp, ?_⟩
    intro s behind h
    exact takeThrough_closed free (by simpa using h)
  · left
    intro s e behind h
    obtain ⟨after, loop, left⟩ := takeThroughFrom_run closer cs [] closed h
    obtain ⟨later, met, -⟩ := next_of_cons left
    rw [takeThrough, loop, takeThroughFrom_eq, met]

/-- Where the closing pair does not occur, the loop runs into the failure, also between a star and
what might have been the slash. -/
theorem takeCommentFrom_outruns {body : List Char} (free : ¬ ['*', '/'] <:+: body)
    (seen : List Char) (h : s.pending = body.map .char ++ .fail e :: behind) :
    (s.takeCommentFrom seen).stop = .failed e := by
  induction body generalizing s seen with
  | nil =>
      obtain ⟨after, met, -⟩ := next_of_cons h
      rw [takeCommentFrom_eq, met]
  | cons c body ih =>
      have shorter : ¬ ['*', '/'] <:+: body := by
        intro inside
        exact free (List.infix_cons inside)
      by_cases last : c = '*' ∧ body = []
      · obtain ⟨rfl, rfl⟩ := last
        obtain ⟨after, taken, left⟩ := next_of_cons h
        obtain ⟨later, met, -⟩ := nextIf_of_other (· == '/') left rfl
        rw [takeCommentFrom_eq, taken]
        simp only [if_true, met]
      · have notClosing : c = '*' →
            ∀ a ∈ (body.map Answer.char ++ .fail e :: behind).head?, ∃ x, a = .char x ∧ x ≠ '/' := by
          intro star a front
          cases body with
          | nil => exact absurd ⟨star, rfl⟩ last
          | cons x body =>
              exact ⟨x, by simpa using front.symm, not_closing_of_free free star x rfl⟩
        obtain ⟨after, step, left⟩ := takeCommentFrom_char seen notClosing h
        rw [step]
        exact ih shorter (c :: seen) left

theorem cautious_takeComment : Cut.Cautious takeComment := by
  intro cs
  by_cases closed : ['*', '/'] <:+: cs
  · obtain ⟨body, rest, rfl, free⟩ := exists_first_closing closed
    refine .inr ⟨body ++ ['*', '/'], rest, by simp, ?_⟩
    intro s behind h
    exact takeComment_closed free (by simpa using h)
  · exact .inl fun s e behind h => takeCommentFrom_outruns closed [] h

theorem cautious_takeString (escapes : Bool) : Cut.Cautious (takeString escapes) := by
  intro cs
  cases Literal.outcome escapes cs with
  | @closed body rest well single =>
      cases rest with
      | nil =>
          -- the failure stands where a second quote might have been
          left
          intro s e behind h
          rw [List.map_append, List.append_assoc] at h
          obtain ⟨after, loop, left⟩ := takeStringFrom_run well [] h
          obtain ⟨later, taken, rest⟩ := next_of_cons left
          obtain ⟨last, met, -⟩ := nextIf_of_other (· == Literal.quote) rest rfl
          rw [takeString, loop, takeStringFrom_eq, taken]
          simp only [if_true, met]
      | cons c rest =>
          have differs : c ≠ Literal.quote := by simpa using single
          refine .inr ⟨body ++ [Literal.quote], c :: rest, by simp, ?_⟩
          intro s behind h
          exact takeString_stop well differs (by simpa using h)
  | opened well =>
      left
      intro s e behind h
      obtain ⟨after, loop, left⟩ := takeStringFrom_run well [] h
      obtain ⟨later, met, -⟩ := next_of_cons left
      rw [takeString, loop, takeStringFrom_eq, met]
  | escaping on well =>
      left
      intro s e behind h
      rw [List.map_append, List.append_assoc] at h
      obtain ⟨after, loop, left⟩ := takeStringFrom_run well [] h
      obtain ⟨later, taken, rest⟩ := next_of_cons left
      obtain ⟨last, met, -⟩ := next_of_cons rest
      have noQuote : Literal.escapeChar ≠ Literal.quote := by decide
      rw [takeString, loop, takeStringFrom_eq, taken]
      simp only [noQuote, if_false, on, and_self, if_true, met]

theorem cautious_takeFraction : Cut.Cautious takeFraction := by
  intro cs
  cases cs with
  | nil =>
      left
      intro s e behind h
      obtain ⟨held, met, -⟩ := peek_of_other h rfl
      simp only [takeFraction, met]
  | cons c cs =>
      by_cases period : c = '.'
      · subst period
        cases cs with
        | nil =>
            left
            intro s e behind h
            obtain ⟨held, looked, left⟩ := peek_of_char h
            obtain ⟨later, met, -⟩ := peekNth_one_of_fail left
            simp only [takeFraction, looked, if_true, met]
        | cons x cs =>
            -- in front of a period and one more character the looks change nothing
            have looks : ∀ (s : Source) (behind : List Answer),
                s.pending = ('.' :: x :: cs).map .char ++ behind →
                  ∃ held, held.pending = s.pending ∧ s.takeFraction =
                    if x.isDigit then (held.take 1).andThen (takeWhile Char.isDigit)
                    else .empty held := by
              intro s behind h
              obtain ⟨held, looked, left⟩ := peek_of_char h
              obtain ⟨later, second, stays⟩ := peekNth_one_of_char left
              exact ⟨later, stays.trans h.symm, by simp only [takeFraction, looked, if_true, second]⟩
            have cautious : Cut.Cautious fun s =>
                if x.isDigit then (s.take 1).andThen (takeWhile Char.isDigit) else .empty s := by
              cases x.isDigit with
              | true => exact (cautious_take 1).andThen (cautious_takeWhile Char.isDigit)
              | false => exact Cut.cautious_empty
            rcases cautious ('.' :: x :: cs) with outruns | ⟨taken, left, same, settled⟩
            · left
              intro s e behind h
              obtain ⟨held, stays, fraction⟩ := looks s _ h
              rw [fraction]
              exact outruns held e behind (stays.trans h)
            · refine .inr ⟨taken, left, same, ?_⟩
              intro s behind h
              obtain ⟨held, stays, fraction⟩ := looks s behind (by rw [h, same])
              rw [fraction]
              exact settled held behind (stays.trans h)
      · refine .inr ⟨[], c :: cs, rfl, ?_⟩
        intro s behind h
        obtain ⟨held, looked, left⟩ := peek_of_char h
        simp only [takeFraction, looked, period, if_false]
        exact ⟨rfl, rfl, left⟩

end Source

namespace Rule

variable {d : Dialect} {r : Rule} {c : Char} {s : Source} {e : Error} {behind : List Answer}

theorem cautious_tail (d : Dialect) (r : Rule) : Cut.Cautious (r.tail d) := by
  cases r with
  | whitespace blank => exact Source.cautious_takeWhile _
  | string national => exact Source.cautious_takeString _
  | quoted opening => exact Source.cautious_takeThrough _
  | word => exact Source.cautious_takeWhile _
  | number => exact (Source.cautious_takeWhile _).andThen Source.cautious_takeFraction
  | lineComment => exact Source.cautious_takeWhile _
  | blockComment => exact Source.cautious_takeComment
  | operator o => exact Cut.cautious_empty

/-- **The slice of a rule is settled by the characters that were given, or it asks for more.** -/
theorem cautious_cut (d : Dialect) (r : Rule) : Cut.Cautious (r.cut d) :=
  (Source.cautious_take r.head).andThen (cautious_tail d r)

/-! ## Choosing -/

theorem ifSecond_of_fail {expected : Char} {otherwise : Source → Choice × Source}
    (h : s.pending = .char c :: .fail e :: behind) :
    (ifSecond expected r s otherwise).1 = .fault (.source e) := by
  obtain ⟨held, met, -⟩ := Source.peekNth_one_of_fail h
  simp only [ifSecond, met]

theorem selectOperator_of_fail (h : s.pending = .char c :: .fail e :: behind) :
    (selectOperator c s).1 = .fault (.source e) := by
  obtain ⟨held, met, -⟩ := Source.peekNth_one_of_fail h
  simp only [selectOperator, met]

/-- One character settles a word rule, or the choice asks for the next one. -/
theorem selectWord_of_single (d : Dialect) (c : Char) :
    (∃ r, ∀ s, selectWord d c s = (.rule r, s)) ∨
      ∀ s e behind, s.pending = .char c :: .fail e :: behind →
        (selectWord d c s).1 = .fault (.source e) := by
  by_cases opens : d.opensQuoted c
  · exact .inl ⟨.quoted c, fun s => by simp [selectWord, opens]⟩
  by_cases begins : d.beginsWord c
  · exact .inl ⟨.word, fun s => by simp [selectWord, opens, begins]⟩
  by_cases digit : c.isDigit
  · exact .inl ⟨.number, fun s => by simp [selectWord, opens, begins, digit]⟩
  right
  intro s e behind h
  simp only [selectWord, opens, begins, digit, Bool.false_eq_true, if_false]
  split
  · exact ifSecond_of_fail h
  split
  · exact ifSecond_of_fail h
  · exact selectOperator_of_fail h

theorem selectAt_of_single (d : Dialect) (c : Char) :
    (∃ r, ∀ s, selectAt d c s = (.rule r, s)) ∨
      ∀ s e behind, s.pending = .char c :: .fail e :: behind →
        (selectAt d c s).1 = .fault (.source e) := by
  cases blank : Blank.of? c with
  | some b => exact .inl ⟨.whitespace b, fun s => by simp [selectAt, blank]⟩
  | none =>
      by_cases quote : c = Literal.quote
      · subst quote
        exact .inl ⟨.string false, fun s => rfl⟩
      by_cases letter : c = 'N' ∨ c = 'n'
      · right
        intro s e behind h
        simp only [selectAt, blank, quote, letter, if_false, if_true]
        exact ifSecond_of_fail h
      · simpa [selectAt, blank, quote, letter] using selectWord_of_single d c

/-- The characters that were given settle the choice, or it asks for more and meets the failure. -/
theorem select_settled_or_outrun (d : Dialect) (cs : List Char) :
    (∀ s e behind, s.pending = cs.map .char ++ .fail e :: behind →
        (select d s).1 = .fault (.source e)) ∨
      ∃ (c : Char) (rest : List Char) (choice : Choice), cs = c :: rest ∧
        ((∃ r, choice = .rule r) ∨ choice = .fault (.invalidCharacter c)) ∧
          ∀ s behind, s.pending = cs.map .char ++ behind →
            ∃ held, select d s = (choice, held) ∧ held.pending = s.pending := by
  cases cs with
  | nil =>
      left
      intro s e behind h
      obtain ⟨held, met, -⟩ := Source.peek_of_other h rfl
      simp only [select, met]
  | cons c cs =>
      cases cs with
      | nil =>
          rcases selectAt_of_single d c with ⟨r, settled⟩ | outruns
          · refine .inr ⟨c, [], .rule r, rfl, .inl ⟨r, rfl⟩, ?_⟩
            intro s behind h
            obtain ⟨held, looked, left⟩ := Source.peek_of_char h
            exact ⟨held, by simp only [select, looked, settled], left.trans h.symm⟩
          · left
            intro s e behind h
            obtain ⟨held, looked, left⟩ := Source.peek_of_char h
            simp only [select, looked]
            exact outruns held e behind left
      | cons x cs =>
          have kinds : (∃ r, choice d (c :: x :: cs) = .rule r) ∨
              choice d (c :: x :: cs) = .fault (.invalidCharacter c) := by
            cases chosen : choice d (c :: x :: cs) with
            | rule r => exact .inl ⟨r, rfl⟩
            | finished => exact absurd chosen choice_ne_finished
            | fault f =>
                obtain rfl := choice_fault chosen
                exact .inr rfl
          refine .inr ⟨c, x :: cs, _, rfl, kinds, ?_⟩
          intro s behind h
          rw [h]
          exact select_of_shows (shows_pair c x _) h

end Rule

/-! ## Scans -/

/-- These characters settle the scan, whatever comes behind them. -/
def Scan.Settled (d : Dialect) (finding : Finding) (taken left : List Char) : Prop :=
  ∀ (s : Source) (behind : List Answer), s.pending = (taken ++ left).map .char ++ behind →
    (s.scan d).Yields finding taken (left.map .char ++ behind)

/-- The scan asks for more than these characters, and finds a failure behind them. -/
def Scan.Outruns (d : Dialect) (cs : List Char) : Prop :=
  ∀ (s : Source) (e : Error) (behind : List Answer),
    s.pending = cs.map .char ++ .fail e :: behind → (s.scan d).finding = .fault (.source e)

/-- A settled lexeme is the text of a piece that is not empty. -/
theorem Source.scan_of_cut {d : Dialect} {r : Rule} {taken left : List Char}
    (chosen : ∀ s behind, s.pending = (taken ++ left).map .char ++ behind →
      ∃ held, Rule.select d s = (.rule r, held) ∧ held.pending = s.pending)
    (settled : Cut.Settled (r.cut d) taken left) :
    taken ≠ [] ∧ Scan.Settled d (.lexeme (r.lexeme d taken)) taken left := by
  constructor
  · have cut := settled (.ofChars (taken ++ left)) [] (List.append_nil _).symm
    have some := Rule.taken_ne_nil cut.stop
    rwa [cut.taken] at some
  · intro s behind h
    obtain ⟨held, selected, stays⟩ := chosen s behind h
    have cut := settled held behind (stays.trans h)
    unfold Source.scan
    rw [selected]
    exact ⟨by simp [Rule.finding, cut.stop, cut.taken], cut.taken, cut.left⟩

/-- **The characters that were given settle the scan, on a piece or on a character that begins
nothing, or the scan asks for more and finds the failure.** -/
theorem Source.scan_settled_or_outrun (d : Dialect) (cs : List Char) :
    Scan.Outruns d cs ∨
      (∃ (p : Piece) (left : List Char), cs = p.slice ++ left ∧ p.slice ≠ [] ∧
        Scan.Settled d (.lexeme (p.lexeme d)) p.slice left) ∨
      ∃ (c : Char) (rest : List Char), cs = c :: rest ∧
        Scan.Settled d (.fault (.invalidCharacter c)) [] cs := by
  rcases Rule.select_settled_or_outrun d cs with outruns | ⟨c, rest, choice, same, kinds, chosen⟩
  · left
    intro s e behind h
    have fault := outruns s e behind h
    unfold Source.scan
    split
    · rename_i selected
      simp [selected] at fault
    · rename_i selected
      simp [selected] at fault
    · rename_i f held selected
      obtain rfl : f = .source e := by simpa [selected] using fault
      rfl
  · rcases kinds with ⟨r, rfl⟩ | rfl
    · rcases Rule.cautious_cut d r cs with outruns | ⟨taken, left, rfl, settled⟩
      · left
        intro s e behind h
        obtain ⟨held, selected, stays⟩ := chosen s _ h
        have stop := outruns held e behind (stays.trans h)
        unfold Source.scan
        rw [selected]
        simp only [Rule.finding, stop]
      · obtain ⟨some, scan⟩ := Source.scan_of_cut chosen settled
        exact .inr (.inl ⟨⟨r, taken⟩, left, rfl, some, scan⟩)
    · refine .inr (.inr ⟨c, rest, same, ?_⟩)
      intro s behind h
      rw [List.nil_append] at h
      obtain ⟨held, selected, stays⟩ := chosen s behind h
      unfold Source.scan
      rw [selected]
      exact ⟨rfl, rfl, stays.trans h⟩

/-! ## Firm parts -/

/-- The text in front of `last` is read as these pieces whatever comes behind the text. -/
inductive Firm (d : Dialect) (last : List Char) : List Char → List Piece → Prop where
  | done : Firm d last last []
  | step {p : Piece} {rest : List Char} {ps : List Piece} :
      Scan.Settled d (.lexeme (p.lexeme d)) p.slice rest → Firm d last rest ps →
        Firm d last (p.slice ++ rest) (p :: ps)

theorem Firm.text {d : Dialect} {last cs : List Char} {ps : List Piece} (h : Firm d last cs ps) :
    cs = Piece.slices ps ++ last := by
  induction h with
  | done => rfl
  | step _ _ ih => rw [ih]; simp

/-- **The characters that were given have a firm part.**  Behind it the next scan asks for more, or a
character that begins nothing has been seen. -/
theorem exists_firm (d : Dialect) (cs : List Char) :
    ∃ (ps : List Piece) (last : List Char), Firm d last cs ps ∧
      (Scan.Outruns d last ∨ ∃ (c : Char) (rest : List Char), last = c :: rest ∧
        Scan.Settled d (.fault (.invalidCharacter c)) [] last) := by
  rcases Source.scan_settled_or_outrun d cs with outruns | ⟨p, left, same, some, settled⟩ | invalid
  · exact ⟨[], cs, .done, .inl outruns⟩
  · have shorter : left.length < cs.length := by
      have := List.length_pos_iff.2 some
      rw [same, List.length_append]
      omega
    obtain ⟨ps, last, firm, stop⟩ := exists_firm d left
    exact ⟨p :: ps, last, same ▸ .step settled firm, stop⟩
  · exact ⟨[], cs, .done, .inr invalid⟩
termination_by cs.length

namespace Tokenizer

variable {d : Dialect} {s : Source} {behind : List Answer} {cs last : List Char}
variable {ps : List Piece}

/-- A tokenizer reads the firm part as its pieces. -/
theorem tokenizeFrom_of_firm (firm : Firm d last cs ps) (seen : List Token) (k : Cursor)
    (h : s.pending = cs.map .char ++ behind) :
    ∃ rest : Source, rest.pending = last.map .char ++ behind ∧
      tokenizeFrom seen ⟨d, s, k, false⟩ =
        tokenizeFrom ((Piece.place d k ps).reverse ++ seen)
          ⟨d, rest, k.advanceAll (Piece.slices ps), false⟩ := by
  induction firm generalizing s seen k with
  | done => exact ⟨s, h, rfl⟩
  | @step p rest ps settled _ ih =>
      have scan := settled s behind h
      obtain ⟨later, stays, others⟩ := ih
        (⟨p.lexeme d, k.position, (k.advanceAll p.slice).position⟩ :: seen)
        (k.advanceAll p.slice) scan.left
      refine ⟨later, stays, ?_⟩
      rw [tokenizeFrom_eq]
      simp only [next, scan.finding, scan.taken, position, Bool.false_eq_true, if_false]
      simpa [Piece.place, Cursor.advanceAll_append] using others

/-- The loop keeps the tokens that it has seen. -/
theorem reverse_prefix_tokenizeFrom (seen : List Token) (t : Tokenizer) :
    seen.reverse <+: tokensOf (tokenizeFrom seen t).1 := by
  fun_induction tokenizeFrom seen t with
  | case1 seen t token after _ ih =>
      rw [List.reverse_cons] at ih
      exact (List.prefix_append _ _).trans ih
  | case2 => exact List.prefix_rfl
  | case3 => exact List.prefix_rfl

theorem tokenize_of_outrun {e : Error} (firm : Firm d last cs ps) (outruns : Scan.Outruns d last)
    (h : s.pending = cs.map .char ++ .fail e :: behind) :
    (ofSource d s).tokenize.1 = .error ⟨e, Piece.place d .start ps⟩ ∧
      (ofSource d s).tokenize.2.done = true := by
  obtain ⟨rest, left, run⟩ := tokenizeFrom_of_firm firm [] .start h
  have fault := outruns rest e behind left
  rw [tokenize, ofSource, run, tokenizeFrom_eq]
  simp [next, fault, Fault.error]

theorem tokenize_of_invalid {c : Char} (firm : Firm d last cs ps)
    (invalid : Scan.Settled d (.fault (.invalidCharacter c)) [] last)
    (h : s.pending = cs.map .char ++ behind) :
    ∃ rest : Source, rest.pending = last.map .char ++ behind ∧
      (ofSource d s).tokenize =
        (.error ⟨.invalidCharacter c (Cursor.behind (Piece.slices ps)), Piece.place d .start ps⟩,
          ⟨d, rest, Cursor.start.advanceAll (Piece.slices ps), true⟩) := by
  obtain ⟨rest, left, run⟩ := tokenizeFrom_of_firm firm [] .start h
  have scan := invalid rest behind left
  refine ⟨(rest.scan d).rest, scan.left, ?_⟩
  rw [tokenize, ofSource, run, tokenizeFrom_eq]
  simp [next, scan.finding, scan.taken, Fault.error, position, Cursor.behind]

end Tokenizer

/-- **A run over a source that fails never succeeds and ends the tokenizer.**  It reports the failure,
and every text with these characters in front begins with the tokens read; or it reports a character
that begins nothing, with the failure still to come, and then every such text gives the same
outcome. -/
theorem tokenize_of_failing_source (d : Dialect) (cs : List Char) (e : Error)
    (behind : List Answer) :
    let run := (Tokenizer.ofSource d (.ofAnswers (cs.map .char ++ .fail e :: behind))).tokenize
    let text (w : String) := (Tokenizer.ofString d (String.ofList cs ++ w)).tokenize.1
    run.2.done = true ∧ ∃ tokens : List Token,
      (run.1 = .error ⟨e, tokens⟩ ∧ ∀ w, tokens <+: Tokenizer.tokensOf (text w)) ∨
        ∃ (c : Char) (position : Position) (rest : List Char),
          run.1 = .error ⟨.invalidCharacter c position, tokens⟩ ∧
            run.2.source.pending = (c :: rest).map .char ++ .fail e :: behind ∧
            (c :: rest) <:+ cs ∧ ∀ w, text w = run.1 := by
  intro run text
  obtain ⟨ps, last, firm, stop⟩ := exists_firm d cs
  have pending : ∀ w : String,
      (Source.ofString (String.ofList cs ++ w)).pending = cs.map .char ++ w.toList.map .char := by
    intro w
    simp [Source.ofString, Source.ofChars, Source.ofAnswers, Source.pending]
  rcases stop with outruns | ⟨c, rest, rfl, invalid⟩
  · obtain ⟨failed, done⟩ := Tokenizer.tokenize_of_outrun firm outruns
      (s := .ofAnswers (cs.map .char ++ .fail e :: behind)) rfl
    refine ⟨done, _, .inl ⟨failed, ?_⟩⟩
    intro w
    obtain ⟨later, -, follows⟩ := Tokenizer.tokenizeFrom_of_firm firm [] .start (pending w)
    have seen := Tokenizer.reverse_prefix_tokenizeFrom ((Piece.place d .start ps).reverse ++ [])
      ⟨d, later, Cursor.start.advanceAll (Piece.slices ps), false⟩
    rw [← follows, List.append_nil, List.reverse_reverse] at seen
    exact seen
  · obtain ⟨left, stays, failed⟩ := Tokenizer.tokenize_of_invalid firm invalid
      (s := .ofAnswers (cs.map .char ++ .fail e :: behind)) rfl
    have same : run = _ := failed
    rw [same]
    refine ⟨rfl, _, .inr ⟨c, _, rest, rfl, stays, ⟨_, firm.text.symm⟩, ?_⟩⟩
    intro w
    obtain ⟨later, -, follows⟩ := Tokenizer.tokenize_of_invalid firm invalid (pending w)
    have first : text w = _ := congrArg Prod.fst follows
    exact first

end SqlLex
