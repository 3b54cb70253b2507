/-
# SqlLex.Proofs.Requests -- a tokenizer asked in several ways

A tokenizer can be asked for one token, for one item of an iteration, or for all
tokens that are left, in any order and as often as one likes.  `Tokenizer.session`
are the replies to a list of requests and the tokenizer behind them.

However it is asked, a tokenizer hands out the tokens of one and the same run.  A
reply either hands out the next token of that run, or it is the last one: then it
hands out all that the run had left, with the error of the run if there was one, and
leaves the tokenizer where the run leaves it (`serve_served`).  So a session is under
way or over (`session_open_or_over`), and a session that is over has handed out the
run; every further request is answered with nothing, and nothing is read for it
(`session_of_source`).
-/
import SqlLex.Dialect.Preset
import SqlLex.Proofs.Stepping

namespace SqlLex

set_option autoImplicit false

/-! ## Requests and replies -/

/-- The ways of asking a tokenizer for tokens. -/
inductive Request where
  /-- One token. -/
  | token
  /-- One item of an iteration over the tokens. -/
  | item
  /-- All tokens that are left. -/
  | all
deriving DecidableEq, Repr

/-- The answer to a request. -/
inductive Reply where
  | token (answer : Except Error (Option Token))
  | item (answer : Option (Except Error Token))
  | all (outcome : Except Failure (List Token))

namespace Reply

/-- The tokens handed out, those that come with an error included. -/
def tokens : Reply → List Token
  | .token (.ok (some x)) | .item (some (.ok x)) => [x]
  | .all outcome => Tokenizer.tokensOf outcome
  | _ => []

/-- The error reported. -/
def error? : Reply → Option Error
  | .token (.error e) | .item (some (.error e)) => some e
  | .all outcome => Tokenizer.errorOf? outcome
  | _ => none

/-- Does the reply tell that no token is left? -/
def isLast : Reply → Bool
  | .token (.ok (some _)) | .item (some (.ok _)) => false
  | _ => true

/-- The reply to a request when no token is left. -/
def nothing : Request → Reply
  | .token => .token (.ok none)
  | .item => .item none
  | .all => .all (.ok [])

end Reply

namespace Tokenizer

/-- One item of an iteration: nothing where no token is left, else a token or the error. -/
def item (t : Tokenizer) : Option (Except Error Token) × Tokenizer :=
  match t.next with
  | (.ok (some token), after) => (some (.ok token), after)
  | (.ok none, after) => (none, after)
  | (.error e, after) => (some (.error e), after)

/-- Answers a request. -/
def serve (t : Tokenizer) : Request → Reply × Tokenizer
  | .token => (.token t.next.1, t.next.2)
  | .item => (.item t.item.1, t.item.2)
  | .all => (.all t.tokenize.1, t.tokenize.2)

/-- Answers one request after another. -/
def session (t : Tokenizer) : List Request → List Reply × Tokenizer
  | [] => ([], t)
  | request :: requests =>
      let (reply, after) := t.serve request
      let (replies, last) := after.session requests
      (reply :: replies, last)

/-! ## One request -/

variable {t : Tokenizer}

/-- What a reply hands out and where it leaves the tokenizer, in terms of the run that was left. -/
inductive Served (t : Tokenizer) (reply : Reply) (after : Tokenizer) : Prop where
  | token {token : Token} : t.next = (.ok (some token), after) → reply.isLast = false →
      reply.tokens = [token] → reply.error? = none → Served t reply after
  | last : reply.isLast = true → reply.tokens = tokensOf t.tokenize.1 →
      reply.error? = errorOf? t.tokenize.1 → after = t.tokenize.2 → Served t reply after

theorem Served.of_none {reply : Reply} {after : Tokenizer} (found : t.next = (.ok none, after))
    (last : reply.isLast = true) (noTokens : reply.tokens = []) (noError : reply.error? = none) :
    Served t reply after := by
  have run := tokenize_of_none found
  refine .last last ?_ ?_ ?_
  · rw [run, noTokens]
    rfl
  · rw [run, noError]
    rfl
  · rw [run]

theorem Served.of_error {reply : Reply} {after : Tokenizer} {e : Error}
    (found : t.next = (.error e, after)) (last : reply.isLast = true)
    (noTokens : reply.tokens = []) (error : reply.error? = some e) : Served t reply after := by
  have run := tokenize_of_error found
  refine .last last ?_ ?_ ?_
  · rw [run, noTokens]
    rfl
  · rw [run, error]
    rfl
  · rw [run]

/-- **A reply hands out the next token of the run, or all that the run has left.** -/
theorem serve_served (t : Tokenizer) (request : Request) :
    Served t (t.serve request).1 (t.serve request).2 := by
  cases request with
  | all => exact .last rfl rfl rfl rfl
  | token =>
      rcases found : t.next with ⟨e | _ | token, after⟩ <;> simp only [serve, found]
      · exact .of_error found rfl rfl rfl
      · exact .of_none found rfl rfl rfl
      · exact .token found rfl rfl rfl
  | item =>
      rcases found : t.next with ⟨e | _ | token, after⟩ <;> simp only [serve, item, found]
      · exact .of_error found rfl rfl rfl
      · exact .of_none found rfl rfl rfl
      · exact .token found rfl rfl rfl

/-! ## Many requests -/

theorem serve_of_done (done : t.done = true) (request : Request) :
    t.serve request = (.nothing request, t) := by
  cases request with
  | token => simp [serve, next_of_done done, Reply.nothing]
  | item => simp [serve, item, next_of_done done, Reply.nothing]
  | all => simp [serve, tokenize_of_done done, Reply.nothing]

/-- A tokenizer that is done answers every request with nothing and stays as it is. -/
theorem session_of_done (done : t.done = true) (requests : List Request) :
    t.session requests = (requests.map .nothing, t) := by
  induction requests with
  | nil => rfl
  | cons request requests ih => simp [session, serve_of_done done, ih]

/-- Replies of nothing hand out nothing. -/
theorem replies_of_nothing (requests : List Request) :
    (requests.map Reply.nothing).flatMap Reply.tokens = [] ∧
      (requests.map Reply.nothing).filterMap Reply.error? = [] := by
  constructor
  · refine List.flatMap_eq_nil_iff.2 (List.forall_mem_map.2 fun request _ => ?_)
    cases request <;> rfl
  · refine List.filterMap_eq_nil_iff.2 (List.forall_mem_map.2 fun request _ => ?_)
    cases request <;> rfl

theorem session_cons (t : Tokenizer) (request : Request) (requests : List Request) :
    t.session (request :: requests) =
      ((t.serve request).1 :: ((t.serve request).2.session requests).1,
        ((t.serve request).2.session requests).2) := rfl

/-- **A session is under way or over.**  Under way it has handed out the beginning of the run and no
error; when it is over it has handed out the run. -/
theorem session_open_or_over (t : Tokenizer) (requests : List Request) :
    let session := t.session requests
    let handed := session.1.flatMap Reply.tokens
    let errors := session.1.filterMap Reply.error?
    ((∀ reply ∈ session.1, reply.isLast = false) ∧ errors = [] ∧
        t.tokenize = (prepend handed session.2.tokenize.1, session.2.tokenize.2)) ∨
      (handed = tokensOf t.tokenize.1 ∧ errors = (errorOf? t.tokenize.1).toList ∧
        session.2 = t.tokenize.2) := by
  induction requests generalizing t with
  | nil => exact .inl ⟨by simp [session], rfl, by simp [session]⟩
  | cons request requests ih =>
      rw [session_cons]
      cases t.serve_served request with
      | token found notLast tokens noError =>
          have run := tokenize_of_token found
          rcases ih (t.serve request).2 with ⟨open_, none, behind⟩ | ⟨handed, errors, left⟩
          · left
            refine ⟨List.forall_mem_cons.2 ⟨notLast, open_⟩, ?_, ?_⟩
            · simpa [noError] using none
            · rw [run, behind, List.flatMap_cons, tokens, prepend_append]
          · right
            rw [run, List.flatMap_cons, tokens, handed, tokensOf_prepend, errorOf?_prepend]
            exact ⟨rfl, by simpa [noError] using errors, left⟩
      | last _ tokens error left =>
          -- the run is over, so the other requests are answered with nothing
          have done : (t.serve request).2.done = true := left ▸ done_tokenize t
          obtain ⟨noTokens, noErrors⟩ := replies_of_nothing requests
          right
          rw [session_of_done done]
          refine ⟨?_, ?_, left⟩
          · rw [List.flatMap_cons, noTokens, List.append_nil, tokens]
          · rw [List.filterMap_cons, noErrors, error]
            cases errorOf? t.tokenize.1 <;> rfl

end Tokenizer

/-- **However a tokenizer is asked, it hands out the tokens of one run over its source.**  The tokens
of all replies are a beginning of those of the run, and an error is reported at most once and is the
error of the run.  Once a reply has told that no token is left, all tokens and the error have been
handed out, the tokenizer is done, and every further request is answered with nothing and leaves it
as it is, the answers of the source that are still to come included. -/
theorem session_of_source (d : Dialect) (answers : List Answer) (requests : List Request) :
    let fresh := Tokenizer.ofSource d (.ofAnswers answers)
    let run := fresh.tokenize
    let session := fresh.session requests
    let handed := session.1.flatMap Reply.tokens
    let errors := session.1.filterMap Reply.error?
    handed <+: Tokenizer.tokensOf run.1 ∧ errors <+: (Tokenizer.errorOf? run.1).toList ∧
      ((∃ reply ∈ session.1, reply.isLast = true) →
        handed = Tokenizer.tokensOf run.1 ∧ errors = (Tokenizer.errorOf? run.1).toList ∧
          session.2 = run.2 ∧ session.2.done = true ∧
          ∀ more, session.2.session more = (more.map .nothing, session.2)) := by
  intro fresh run session handed errors
  rcases fresh.session_open_or_over requests with ⟨open_, none, behind⟩ | ⟨all, error, left⟩
  · have beginning : handed <+: Tokenizer.tokensOf run.1 := by
      show handed <+: Tokenizer.tokensOf fresh.tokenize.1
      rw [behind, Tokenizer.tokensOf_prepend]
      exact List.prefix_append _ _
    refine ⟨beginning, ?_, ?_⟩
    · rw [show errors = [] from none]
      exact List.nil_prefix
    · rintro ⟨reply, mem, last⟩
      simp [open_ reply mem] at last
  · have done : session.2.done = true := by
      rw [show session.2 = run.2 from left]
      exact fresh.done_tokenize
    exact ⟨all ▸ List.prefix_rfl, error ▸ List.prefix_rfl, fun _ =>
      ⟨all, error, left, done, Tokenizer.session_of_done done⟩⟩

/-- A word that a pause ends, and then a failure met while a character is held: that character and
the one behind the failure are never read. -/
theorem session_of_source_held :
    let lost := Error.io "lost"
    let answers : List Answer := [.char 'a', .nothing, .char '-', .fail lost, .char 'b']
    let session := (Tokenizer.ofSource Preset.generic.dialect (.ofAnswers answers)).session
      [.item, .token, .all]
    (∃ reply ∈ session.1, reply.isLast = true) ∧ (session.1.flatMap Reply.tokens).length = 1 ∧
      session.1.filterMap Reply.error? = [lost] ∧
      session.2.source.pending = [.char '-', .char 'b'] ∧
      session.2.session [.token, .all] = ([.token (.ok none), .all (.ok [])], session.2) := by
  intro lost answers session
  have ended : ∃ reply ∈ session.1, reply.isLast = true := by decide +kernel
  obtain ⟨-, -, rest⟩ := session_of_source Preset.generic.dialect answers [.item, .token, .all]
  obtain ⟨-, -, -, -, silent⟩ := rest ended
  exact ⟨ended, by decide +kernel, by decide +kernel, by decide +kernel, silent [.token, .all]⟩

end SqlLex
