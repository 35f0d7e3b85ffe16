import Redial.Proofs.Account.Course
import Redial.Proofs.Likeness.Execution
import Redial.Proofs.Playback
import Redial.Proofs.Recorded

/-! # What a raised fault does to a run

    An execution on recorded surroundings goes as the one on the plain ones, and its
    record says which calls were made.  One lemma for each function of the engine, in
    the order in which they are built on each other; the loop is by induction on the
    limit.  The exchange is the only place where a fault is taken: a call that raises
    anywhere else, or that raises what is no failed exchange, is the last one. -/

namespace Redial.Engine

variable {R σ : Type} {S : Site → Prop}

/-! ## Section 1: Handlers, callbacks and staging -/

mutual

theorem records_ask (h : Hooks R σ) (response : Response) (supportsRetry : Bool) : ∀ handler,
    Records (R := R) (fun _ => True) (Run.ofHook (ask h.recorded response supportsRetry handler))
      (Run.ofHook (ask h response supportsRetry handler))
  | .leaf _ id => by
    unfold ask
    exact records_call .handler trivial nofun (h.handle id response supportsRetry)
  | .composite parts => by
    unfold ask
    exact records_askInOrder h response supportsRetry parts

theorem records_askInOrder (h : Hooks R σ) (response : Response) (supportsRetry : Bool) :
    ∀ parts, Records (R := R) (fun _ => True)
      (Run.ofHook (askInOrder h.recorded response supportsRetry parts))
      (Run.ofHook (askInOrder h response supportsRetry parts))
  | [] => by
    unfold askInOrder
    exact records_pure false
  | part :: parts => by
    unfold askInOrder
    rw [Run.ofHook_bind, Run.ofHook_bind]
    refine records_bind (records_ask h response supportsRetry part) fun claimed => ?_
    cases claimed with
    | false => exact records_askInOrder h response supportsRetry parts
    | true =>
      simp only [if_true, Run.ofHook_bind]
      exact records_seq (records_log h.debug .handler _) (records_pure true)

end

theorem records_askHandler (h : Hooks R σ) (response : Response) :
    Records (fun _ => True) (askHandler h.recorded response) (askHandler h response) := by
  unfold askHandler
  refine records_bind records_request fun r => ?_
  cases r.handler with
  | empty => exact records_pure false
  | hook handler => exact records_ask h response true handler
  | other v => exact records_throw _

theorem records_logRequest (h : Hooks R σ) (text : String) :
    Records S (logRequest h.recorded text) (logRequest h text) := by
  unfold logRequest
  exact records_bind records_request fun r => records_log h.debug .execution _

/-- A callback is told by a call that is recorded. -/
theorem records_tell (site : Site) (hquiet : site ≠ .onFailure) {callbacks : Slot Callbacks}
    {choose : Callbacks → Option Nat} {wanted : String} {event : Event R}
    {call : Nat → Hook σ Unit} :
    Records (fun _ => True)
      (tell callbacks choose wanted event fun id => Run.recorded site (call id))
      (tell callbacks choose wanted event call) := by
  unfold tell
  cases callbacks with
  | empty => exact records_pure ()
  | other v => exact records_ite (records_throw _) (records_pure ())
  | hook callbacks =>
    dsimp only
    cases choose callbacks with
    | none => exact records_pure ()
    | some id => exact records_seq (records_emit event) (records_call site trivial hquiet (call id))

theorem records_checkTransport (wanted : String) :
    Records (R := R) (σ := σ) S (checkTransport wanted) (checkTransport wanted) := by
  unfold checkTransport
  refine records_bind records_request fun r => ?_
  cases r.replacement with
  | none => exact records_pure ()
  | some v => exact records_throw _

theorem records_stage (h : Hooks R σ) : Records S (stage h.recorded) (stage h) := by
  rw [stage_eq, stage_eq]
  exact records_seq (records_checkTransport _) (records_silent fun _ _ _ => rfl)

/-! ## Section 2: The exchange -/

theorem records_writeContent (h : Hooks R σ) : ∀ c : Content,
    Records (R := R) (· = .transport) (Run.ofHook (writeContent h.recorded c))
      (Run.ofHook (writeContent h c))
  | .bytes _ data => records_pure data
  | .source s => records_call (S := (· = .transport)) .transport rfl nofun (h.writeSource s.id)
  | .gzip inner => by
    unfold writeContent
    simp only [Run.ofHook_bind]
    exact records_bind (records_writeContent h inner) fun data => records_pure _
  | .logging inner limit => by
    unfold writeContent
    simp only [Run.ofHook_bind, Run.ofHook_lift]
    refine records_bind (records_writeContent h inner) fun data => ?_
    refine records_bind (records_lift _) fun line => ?_
    cases line with
    | none => exact records_pure data
    | some text =>
      simp only [Run.ofHook_bind]
      exact records_seq (records_log h.debug .content text) (records_pure data)

theorem records_transmit (h : Hooks R σ) (staged : Staged) :
    Records (· = .transport) (transmit h.recorded staged) (transmit h staged) := by
  have hread : Records (R := R) (· = .transport) (Run.ofHook (readBody h.recorded staged))
      (Run.ofHook (readBody h staged)) := by
    have hreads : h.recorded.readsBody = h.readsBody := rfl
    unfold readBody
    rw [hreads]
    cases h.readsBody with
    | false => exact records_pure []
    | true =>
      cases staged.content with
      | none => exact records_pure []
      | some c => exact records_writeContent h c
  unfold transmit
  refine records_seq (records_emit _) (records_seq ?_ (records_bind hread fun body => ?_))
  · exact records_call (S := (· = .transport)) .transport rfl (by decide) (h.announce staged)
  · exact records_call (S := (· = .transport)) .transport rfl (by decide) (h.exchange staged body)

/-! ## Section 3: Triggers -/

theorem records_checkCancelled (h : Hooks R σ) (cancellable : Bool) :
    Records S (checkCancelled h.recorded cancellable) (checkCancelled h cancellable) := by
  unfold checkCancelled
  refine records_state fun s calls => records_ite ?_ (records_pure ())
  exact records_bind records_request fun r => records_throw _

variable [Arith R]

theorem records_pause (h : Hooks R σ) (cancellable : Bool) (millis : Number R) :
    Records S (pause h.recorded cancellable millis) (pause h cancellable millis) := by
  unfold pause
  refine records_bind (records_lift _) fun span => ?_
  refine records_seq (records_log h.debug .pause _) (records_silent fun r s calls => ?_)
  -- the state that a pause leaves has the record beside it as it was
  have hcheck : h.recorded.checkPause cancellable span (s, calls)
      = h.checkPause cancellable span s := rfl
  rw [Run.state_bind, Run.state_bind, hcheck]
  cases h.checkPause cancellable span s with
  | error why => rfl
  | ok _ =>
    cases cancellable with
    | false => rfl
    | true => cases hset : (h.wait span s).1 <;> simp [Hooks.recorded, hset, Outcome.beside]

theorem records_backOff (h : Hooks R σ) (cancellable : Bool) (status : Int) :
    Records (fun _ => True) (backOff h.recorded cancellable status)
      (backOff h cancellable status) := by
  unfold backOff
  refine records_bind records_request fun r => ?_
  cases r.policy with
  | empty => exact records_pure none
  | other v => exact records_throw _
  | hook policy =>
    refine records_bind (records_call .policy trivial nofun (h.isBackoffRequired policy status)) ?_
    refine fun required => records_seq (records_emit _) (records_ite (records_pure none) ?_)
    refine records_bind (records_call .policy trivial nofun (h.nextBackoff policy)) fun millis => ?_
    refine records_seq (records_emit _) (records_ite (records_pure none) ?_)
    refine records_seq (records_pause h cancellable millis) ?_
    exact records_bind (records_lift _) fun waited => records_pure _

omit [Arith R] in
theorem records_followRedirect (h : Hooks R σ) (status : Int) (headers : Headers) :
    Records (R := R) (σ := σ) S (Run.ofHook (followRedirect h.recorded.debug status headers))
      (Run.ofHook (followRedirect h.debug status headers)) := by
  unfold followRedirect
  simp only [Run.ofHook_bind, Run.ofHook_lift]
  refine records_bind records_request fun r => records_bind (records_lift _) fun target => ?_
  cases target with
  | none => exact records_pure false
  | some target =>
    simp only [Run.ofHook_bind]
    refine records_seq (records_log h.debug .redirect _) ?_
    exact records_seq (records_setRequest _) (records_pure true)

theorem records_offer (h : Hooks R σ) (cancellable : Bool) (response : Response) :
    Records (fun _ => True) (offer h.recorded cancellable response)
      (offer h cancellable response) := by
  unfold offer
  refine records_bind (records_askHandler h response) fun claimed => ?_
  refine records_ite (records_pure _) ?_
  refine records_bind (records_backOff h cancellable response.status) fun waited => ?_
  cases waited with
  | some waited => exact records_pure _
  | none =>
    refine records_bind (records_followRedirect h response.status response.headers) fun moved => ?_
    exact records_ite (records_pure _) (records_pure none)

omit [Arith R] in
theorem records_spendRetry : Records (R := R) (σ := σ) S spendRetry spendRetry := by
  refine records_silent fun r s calls => ?_
  rw [spendRetry_eq, spendRetry_eq]
  cases spent? r <;> rfl

omit [Arith R] in
theorem records_retry (h : Hooks R σ) (callbacks : Slot Callbacks) (n : Nat) (reason : Reason)
    (waited : R) (error : Option Fault) (status : Option Int) :
    Records (fun _ => True) (retry h.recorded callbacks n reason waited error status)
      (retry h callbacks n reason waited error status) := by
  unfold retry
  refine records_seq records_spendRetry (records_bind records_request fun r => ?_)
  exact records_seq (records_logRequest h _) (records_tell .onRetry nofun)

/-! ## Section 4: Endings -/

/-- Nothing is called after the report of an error. -/
theorem records_fail (h : Hooks R σ) (callbacks : Slot Callbacks) (start : R) (n : Nat)
    (error : Fault) (status : Option Int) :
    Records (fun _ => True) (fail h.recorded callbacks start n error status)
      (fail h callbacks start n error status) := by
  unfold fail
  refine records_seq (records_logRequest h _) (records_bind records_request fun r => ?_)
  refine records_state fun s calls => ?_
  unfold tell
  cases callbacks with
  | empty => exact records_throw error
  | other v =>
    exact records_seq (records_ite (records_throw _) (records_pure ())) (records_throw error)
  | hook callbacks =>
    cases hchosen : callbacks.onFailure with
    | none =>
      simp only [hchosen]
      exact records_throw error
    | some id =>
      simp only [hchosen, bind_assoc]
      exact records_seq (records_emit _) (records_report _ error)

theorem records_succeed (h : Hooks R σ) (callbacks : Slot Callbacks) (start : R) (n : Nat)
    (response : Response) :
    Records (fun _ => True) (succeed h.recorded callbacks start n response)
      (succeed h callbacks start n response) := by
  unfold succeed
  refine records_seq (records_logRequest h _) (records_bind records_request fun r => ?_)
  exact records_state fun s calls => records_tell .onSuccess nofun

theorem records_conclude (h : Hooks R σ) (callbacks : Slot Callbacks) (start : R) (n : Nat)
    (response : Response) :
    Records (fun _ => True) (conclude h.recorded callbacks start n response)
      (conclude h callbacks start n response) := by
  unfold conclude
  refine records_bind records_request fun r => records_ite ?_ (records_pure ())
  exact records_bind (records_lift _) fun error => records_fail h callbacks start n _ _

/-! ## Section 5: Attempts and executions -/

theorem records_takeFailure (h : Hooks R σ) (callbacks : Slot Callbacks) (start : R) (n : Nat)
    (error : Fault) :
    Records (fun _ => True) (takeFailure h.recorded callbacks start n error)
      (takeFailure h callbacks start n error) := by
  have hretry : Records (fun _ => True)
      (retry h.recorded callbacks n .failure Arith.zero (some error) none >>= fun _ =>
        pure (none : Option Response))
      (retry h callbacks n .failure Arith.zero (some error) none >>= fun _ => pure none) :=
    records_seq (records_retry h callbacks n .failure Arith.zero (some error) none)
      (records_pure none)
  unfold takeFailure
  refine records_bind records_request fun r => ?_
  exact records_ite (records_seq (records_fail h callbacks start n error none) hretry) hretry

theorem records_takeResponse (h : Hooks R σ) (cancellable : Bool) (callbacks : Slot Callbacks)
    (start : R) (n : Nat) (response : Response) :
    Records (fun _ => True) (takeResponse h.recorded cancellable callbacks start n response)
      (takeResponse h cancellable callbacks start n response) := by
  have hclose (trigger : Option (Reason × R)) : Records (fun _ => True)
      (closeResponse h.recorded callbacks start n response trigger)
      (closeResponse h callbacks start n response trigger) := by
    cases trigger with
    | none => exact records_seq (records_conclude h callbacks start n response) (records_pure _)
    | some trigger =>
      exact records_seq (records_retry h callbacks n trigger.1 trigger.2 none _) (records_pure none)
  unfold takeResponse
  cases response.isSuccess with
  | true => exact records_seq (records_succeed h callbacks start n response) (records_pure _)
  | false =>
    rw [if_neg Bool.false_ne_true, if_neg Bool.false_ne_true]
    refine records_bind records_request fun r => ?_
    cases r.retries.isPositive with
    | false => exact hclose none
    | true => exact records_bind (records_offer h cancellable response) hclose

theorem records_attempt (h : Hooks R σ) (cancellable : Bool) (callbacks : Slot Callbacks)
    (start : R) (n : Nat) :
    Records (fun _ => True) (attempt h.recorded cancellable callbacks start n)
      (attempt h cancellable callbacks start n) := by
  unfold attempt
  refine records_seq (records_checkCancelled h cancellable) ?_
  refine records_bind (records_stage h) fun staged => records_bind records_request fun r => ?_
  refine records_seq (records_tell .onRequest nofun) ?_
  refine records_bind (records_capture (records_transmit h staged)) fun answer => ?_
  cases answer with
  | error fault => exact records_takeFailure h callbacks start n fault
  | ok raw =>
    refine records_bind records_request fun r => ?_
    exact records_takeResponse h cancellable callbacks start n _

theorem records_attempts (h : Hooks R σ) (cancellable : Bool) (callbacks : Slot Callbacks)
    (start : R) (limit n : Nat) :
    Records (fun _ => True) (attempts h.recorded cancellable callbacks start limit n)
      (attempts h cancellable callbacks start limit n) := by
  induction limit generalizing n with
  | zero => exact records_pure none
  | succ limit ih =>
    unfold attempts
    refine records_bind (records_attempt h cancellable callbacks start n) fun answer => ?_
    cases answer with
    | some response => exact records_pure _
    | none => exact ih (n + 1)

omit [Arith R] in
theorem records_checkMethod (h : Hooks R σ) :
    Records S (checkMethod h.recorded) (checkMethod h) := by
  unfold checkMethod
  refine records_bind records_request fun r => ?_
  cases knownMethods.contains r.method with
  | false => exact records_throw _
  | true =>
    cases optionalMethods.contains r.method with
    | false => exact records_pure ()
    | true =>
      exact records_seq (records_checkTransport _) (records_ite (records_throw _) (records_pure ()))

omit [Arith R] in
theorem records_resetPolicy (h : Hooks R σ) :
    Records (fun _ => True) (resetPolicy h.recorded) (resetPolicy h) := by
  unfold resetPolicy
  refine records_bind records_request fun r => ?_
  cases r.policy with
  | empty => exact records_pure ()
  | other v => exact records_throw _
  | hook policy =>
    exact records_seq (records_emit _) (records_call .policy trivial nofun (h.resetPolicy policy))

/-- An execution keeps a record of its calls. -/
theorem records_execute (h : Hooks R σ) (cancellable : Bool) (limit : Nat) :
    Records (fun _ => True) (execute h.recorded cancellable limit)
      (execute h cancellable limit) := by
  unfold execute
  refine records_seq (records_checkMethod h) (records_seq (records_resetPolicy h) ?_)
  refine records_bind records_request fun r => records_state fun s calls => ?_
  exact records_attempts h cancellable r.callbacks (h.now s) limit 0

/-! ## Section 6: A fault ends a run at once -/

/-- A fault that is no failed exchange is the answer of the last attempt alone, and ends
    the run when it is there: no trigger is asked and no callback told. -/
theorem Executed.broken_of_answer {h : Hooks R σ} {cancellable : Bool} {r : Request} {s : σ}
    {turns : List (Turn R σ)} {ending : Option Ending} {o : Outcome (Event R) σ (Option Response)}
    (he : Executed h cancellable r s turns ending o) {t : Turn R σ} (ht : t ∈ turns) {f : Fault}
    (hanswer : t.answer = .error f) (hfinal : f.isExchange = false) :
    turns.getLast? = some t ∧ t.consults = [] ∧ t.closing = [] ∧
      o.result = .error f ∧ o.request = t.answered ∧ o.state = t.answeredAt := by
  obtain ⟨callbacks, start, k, r', s', e, o', hattempted, hturn⟩ := he.attempted_of_mem ht
  cases hattempted with
  | broken clear opened run₁ run₂ answer unasked closing =>
    rw [hanswer] at answer
    obtain rfl : f = _ := by simpa using answer
    rcases hturn with hagain | ⟨-, hlast, earlier, rfl⟩
    · exact absurd hagain nofun
    · exact ⟨hlast, unasked.1, closing, rfl, rfl, rfl⟩
  | taken clear opened run₁ run₂ settled closed =>
    -- what is taken as an answer is a response or a failed exchange
    rw [hanswer] at run₂
    have hexchange : f.isExchange = true := exchange_failed run₂
    rw [hfinal] at hexchange
    exact absurd hexchange Bool.false_ne_true

/-- A run is the one on recorded surroundings without its record.  A call in the record
    that raised a fault, which is no failed exchange if it is the transport's, is the last
    one; the run ended with the fault, and with what the call left.  Before it no call
    raised and no error was reported.  So it is with every fault of the exchange that is
    no failed exchange. -/
theorem execute_raises_at_once (h : Hooks R σ) (cancellable : Bool) (limit : Nat) (r : Request)
    (s : σ) :
    let o := execute h cancellable limit r s
    ∃ calls, execute h.recorded cancellable limit r (s, []) = o.beside calls ∧
      (∀ before c after f, calls = before ++ c :: after → c.raised = some f →
        after = [] ∧ c.Ends f o ∧ ∀ d ∈ before, d.raised = none ∧ d.site ≠ .onFailure) ∧
      ∃ turns ending, Executed h cancellable r s turns ending o ∧
        ∀ t ∈ turns, ∀ f, t.answer = .error f → f.isExchange = false →
          turns.getLast? = some t ∧ t.consults = [] ∧ t.closing = [] ∧
            o.result = .error f ∧ o.request = t.answered ∧ o.state = t.answeredAt := by
  intro o
  obtain ⟨calls, hrun, -, hcloses⟩ := records_execute h cancellable limit r s []
  obtain ⟨turns, ending, hexecuted, -⟩ := executed h cancellable limit r s
  refine ⟨calls, hrun, ?_, turns, ending, hexecuted, ?_⟩
  · intro before c after f hcalls hraised
    rw [hcalls] at hcloses
    obtain ⟨hafter, hends, hbefore⟩ := hcloses.of_raised hraised
    refine ⟨hafter, hends, fun d hd => ⟨?_, fun hsite => hbefore d hd (.inr hsite)⟩⟩
    cases hquiet : d.raised with
    | none => rfl
    | some g => exact absurd (.inl (by rw [hquiet]; rfl)) (hbefore d hd)
  · intro t ht f hanswer hfinal
    exact hexecuted.broken_of_answer ht hanswer hfinal

/-- A failed exchange is retried; the same fault, raised by a handler in the attempt that
    follows, ends the run. -/
theorem execute_raises_at_once_handler :
    let down : Fault := .raised "OSError" ⟨.exchange, "down"⟩
    let p : Playback Rat :=
      ⟨fun k => if k = 0 then .error down else .ok ⟨503, "", [], []⟩, fun _ _ => false,
        fun _ _ => false, fun _ => .whole 0⟩
    let h : Hooks Rat Nat := { p.hooks with handle := fun _ _ _ => Run.throw down }
    let r : Request := { Request.make "GET" (.text "http://a/") none Headers.empty with
      retries := .whole 3, retryOnFailure := .bool true, handler := .hook (.leaf "Down" 0) }
    down.isExchange = true ∧
      ∃ before c, (execute h.recorded false 5 r (0, [])).state.2 = before ++ [c] ∧
        c.site = .handler ∧ c.raised = some down ∧
        (sent (execute h false 5 r 0).events).length = 2 ∧
        c.Ends down (execute h false 5 r 0) ∧ ∀ d ∈ before, d.site ≠ .onFailure := by
  intro down p h r
  refine ⟨by decide, ?_⟩
  obtain ⟨calls, hrun, hraises, -⟩ := execute_raises_at_once h false 5 r 0
  -- the handler is called after two transmissions, each given to the transport and performed
  have hcalls : calls = calls.take 4 ++
      [⟨.handler, some down, { r with retries := .whole 2 }, 2, []⟩] := by
    have hrecord : (execute h.recorded false 5 r (0, [])).state.2 = calls := by rw [hrun]; rfl
    have hdrop : calls.drop 4 = [⟨.handler, some down, { r with retries := .whole 2 }, 2, []⟩] := by
      rw [← hrecord]
      rfl
    rw [← hdrop, List.take_append_drop]
  obtain ⟨-, hends, hbefore⟩ := hraises _ _ _ down hcalls rfl
  refine ⟨_, _, by rw [hrun]; exact hcalls, rfl, rfl, by decide +kernel, hends, ?_⟩
  exact fun d hd => (hbefore d hd).2

end Redial.Engine
