import Redial.Engine.Attempt
import Redial.Proofs.Outcome

/-! # What an unsuccessful response is offered to

    The rules by which a response passes the three triggers of a retry: the
    handler, the backoff policy and the redirect rule.  A `Consult` is one question
    with what came of it, and the relation `Offered` lists the questions of one
    response together with the request, the state and the events that they leave.
    `offered` says that `Engine.offer` follows these rules. -/

namespace Redial.Engine

variable {R σ : Type}

/-! ## Section 1: Questions -/

/-- One question that an unsuccessful response raises, with what came of it. -/
inductive Consult (R : Type) where
  /-- The request's handler was asked about the response. -/
  | handler (answer : Except Fault Bool)
  /-- The policy was asked whether the status requires a pause. -/
  | required (status : Int) (answer : Except Fault Bool)
  /-- The policy was asked for a pause in milliseconds. -/
  | next (answer : Except Fault (Number R))
  /-- A pause was wanted but could not begin. -/
  | unpaused (millis : Number R) (why : ArithFault)
  /-- A pause was made; the cancel event may have ended it. -/
  | pause (millis : Number R) (ended : Except Fault Unit)
  /-- The redirect rule was applied; it moves the request to a target, or not. -/
  | redirect (target : Except Fault (Option String))

/-- What the request's handler is asked, and what it leaves. -/
inductive HandlerAsked (h : Hooks R σ) (response : Response) (r : Request) (s : σ) :
    List (Consult R) → Outcome (Event R) σ Bool → Prop where
  | absent (empty : r.handler = .empty) :
      HandlerAsked h response r s [] ⟨.ok false, r, s, []⟩
  | misplaced {v : Value} (other : r.handler = .other v) :
      HandlerAsked h response r s [.handler (.error (.notAHook v.kindName "handle_response"))]
        ⟨.error (.notAHook v.kindName "handle_response"), r, s, []⟩
  | asked {handler : Handler} {answer : Except Fault Bool} {r' : Request} {s' : σ}
      {notes : List Note} (hook : r.handler = .hook handler)
      (call : ask h response true handler r s = ⟨answer, r', s', notes⟩) :
      HandlerAsked h response r s [.handler answer] ⟨answer, r', s', notes.map .ofNote⟩

theorem handlerAsked (h : Hooks R σ) (response : Response) (r : Request) (s : σ) :
    ∃ consults, HandlerAsked h response r s consults (askHandler h response r s) := by
  unfold askHandler
  simp only [Run.request_bind]
  match hslot : r.handler with
  | .empty => exact ⟨_, .absent hslot⟩
  | .other v => exact ⟨_, .misplaced hslot⟩
  | .hook handler => exact ⟨_, .asked hslot rfl⟩

variable [Arith R]

/-- A pause of milliseconds that can begin: it has a length in seconds, and the clock
    accepts it. -/
structure Fit (h : Hooks R σ) (cancellable : Bool) (millis : Number R) (s : σ) (span : R) :
    Prop where
  length : seconds millis = .ok span
  check : h.checkPause cancellable span s = .ok ()

/-- A pause that cannot begin, and the fault that says why. -/
inductive Unfit (h : Hooks R σ) (cancellable : Bool) (millis : Number R) (s : σ) :
    ArithFault → Prop where
  /-- The milliseconds are too many for a length in seconds. -/
  | unmeasured {why : ArithFault} (length : (seconds millis : Except ArithFault R) = .error why) :
      Unfit h cancellable millis s why
  /-- The clock refuses the length. -/
  | refused {span : R} {why : ArithFault} (length : seconds millis = .ok span)
      (check : h.checkPause cancellable span s = .error why) : Unfit h cancellable millis s why

/-- What the request's policy is asked, the pause that is made, and what both
    leave.  Both questions go to the policy that the request had at first. -/
inductive PolicyAsked (h : Hooks R σ) (cancellable : Bool) (status : Int) (r : Request) (s : σ) :
    List (Consult R) → Outcome (Event R) σ (Option R) → Prop where
  | absent (empty : r.policy = .empty) :
      PolicyAsked h cancellable status r s [] ⟨.ok none, r, s, []⟩
  | misplaced {v : Value} (other : r.policy = .other v) :
      PolicyAsked h cancellable status r s
        [.required status (.error (.notAHook v.kindName "is_backoff_required"))]
        ⟨.error (.notAHook v.kindName "is_backoff_required"), r, s, []⟩
  | requiredFailed {policy : Nat} {f : Fault} {r₁ : Request} {s₁ : σ} {n₁ : List Note}
      (hook : r.policy = .hook policy)
      (call : h.isBackoffRequired policy status r s = ⟨.error f, r₁, s₁, n₁⟩) :
      PolicyAsked h cancellable status r s [.required status (.error f)]
        ⟨.error f, r₁, s₁, n₁.map .ofNote⟩
  | unneeded {policy : Nat} {r₁ : Request} {s₁ : σ} {n₁ : List Note}
      (hook : r.policy = .hook policy)
      (call : h.isBackoffRequired policy status r s = ⟨.ok false, r₁, s₁, n₁⟩) :
      PolicyAsked h cancellable status r s [.required status (.ok false)]
        ⟨.ok none, r₁, s₁, n₁.map .ofNote ++ [.policyRequired status false]⟩
  | nextFailed {policy : Nat} {f : Fault} {r₁ r₂ : Request} {s₁ s₂ : σ} {n₁ n₂ : List Note}
      (hook : r.policy = .hook policy)
      (call : h.isBackoffRequired policy status r s = ⟨.ok true, r₁, s₁, n₁⟩)
      (next : h.nextBackoff policy r₁ s₁ = ⟨.error f, r₂, s₂, n₂⟩) :
      PolicyAsked h cancellable status r s [.required status (.ok true), .next (.error f)]
        ⟨.error f, r₂, s₂, n₁.map .ofNote ++ [.policyRequired status true] ++ n₂.map .ofNote⟩
  | stopped {policy : Nat} {millis : Number R} {r₁ r₂ : Request} {s₁ s₂ : σ}
      {n₁ n₂ : List Note} (hook : r.policy = .hook policy)
      (call : h.isBackoffRequired policy status r s = ⟨.ok true, r₁, s₁, n₁⟩)
      (next : h.nextBackoff policy r₁ s₁ = ⟨.ok millis, r₂, s₂, n₂⟩)
      (stop : millis.eq Backoff.stop = true) :
      PolicyAsked h cancellable status r s [.required status (.ok true), .next (.ok millis)]
        ⟨.ok none, r₂, s₂, n₁.map .ofNote ++ [.policyRequired status true] ++ n₂.map .ofNote
          ++ [.policyNext millis]⟩
  | unpaused {policy : Nat} {millis : Number R} {why : ArithFault} {r₁ r₂ : Request} {s₁ s₂ : σ}
      {n₁ n₂ n₃ : List Note} (hook : r.policy = .hook policy)
      (call : h.isBackoffRequired policy status r s = ⟨.ok true, r₁, s₁, n₁⟩)
      (next : h.nextBackoff policy r₁ s₁ = ⟨.ok millis, r₂, s₂, n₂⟩)
      (go : millis.eq Backoff.stop = false) (unfit : Unfit h cancellable millis s₂ why)
      (paused : pause h cancellable millis r₂ s₂
        = ⟨.error (.arithmetic why), r₂, s₂, n₃.map .ofNote⟩) :
      PolicyAsked h cancellable status r s
        [.required status (.ok true), .next (.ok millis), .unpaused millis why]
        ⟨.error (.arithmetic why), r₂, s₂, n₁.map .ofNote ++ [.policyRequired status true]
          ++ n₂.map .ofNote ++ [.policyNext millis] ++ n₃.map .ofNote⟩
  | cut {policy : Nat} {millis : Number R} {span : R} {r₁ r₂ r₃ : Request} {s₁ s₂ s₃ : σ}
      {n₁ n₂ : List Note} {e₃ : List (Event R)} (hook : r.policy = .hook policy)
      (call : h.isBackoffRequired policy status r s = ⟨.ok true, r₁, s₁, n₁⟩)
      (next : h.nextBackoff policy r₁ s₁ = ⟨.ok millis, r₂, s₂, n₂⟩)
      (go : millis.eq Backoff.stop = false) (fit : Fit h cancellable millis s₂ span)
      (woken : cancellable = true ∧ (h.wait span s₂).1 = true)
      (paused : pause h cancellable millis r₂ s₂ = ⟨.error .cancelledWaiting, r₃, s₃, e₃⟩) :
      PolicyAsked h cancellable status r s
        [.required status (.ok true), .next (.ok millis),
          .pause millis (.error .cancelledWaiting)]
        ⟨.error .cancelledWaiting, r₃, s₃, n₁.map .ofNote ++ [.policyRequired status true]
          ++ n₂.map .ofNote ++ [.policyNext millis] ++ e₃⟩
  | paused {policy : Nat} {millis : Number R} {waited : R} {r₁ r₂ r₃ : Request}
      {s₁ s₂ s₃ : σ} {n₁ n₂ : List Note} {e₃ : List (Event R)} (hook : r.policy = .hook policy)
      (call : h.isBackoffRequired policy status r s = ⟨.ok true, r₁, s₁, n₁⟩)
      (next : h.nextBackoff policy r₁ s₁ = ⟨.ok millis, r₂, s₂, n₂⟩)
      (go : millis.eq Backoff.stop = false) (fit : Fit h cancellable millis s₂ waited)
      (paused : pause h cancellable millis r₂ s₂ = ⟨.ok (), r₃, s₃, e₃⟩) :
      PolicyAsked h cancellable status r s
        [.required status (.ok true), .next (.ok millis), .pause millis (.ok ())]
        ⟨.ok (some waited), r₃, s₃, n₁.map .ofNote ++ [.policyRequired status true]
          ++ n₂.map .ofNote ++ [.policyNext millis] ++ e₃⟩

/-! ## Section 2: Pauses -/

/-- A pause can begin, or there is a fault that says why not. -/
theorem fit_or_unfit (h : Hooks R σ) (cancellable : Bool) (millis : Number R) (s : σ) :
    (∃ span, Fit h cancellable millis s span) ∨ ∃ why, Unfit h cancellable millis s why := by
  rcases hspan : (seconds millis : Except ArithFault R) with a | span
  · exact .inr ⟨_, .unmeasured hspan⟩
  · rcases hcheck : h.checkPause cancellable span s with why | _
    · exact .inr ⟨why, .refused hspan hcheck⟩
    · exact .inl ⟨span, hspan, hcheck⟩

theorem Unfit.not_fit {h : Hooks R σ} {cancellable : Bool} {millis : Number R} {s : σ}
    {why : ArithFault} (hu : Unfit h cancellable millis s why) {span : R} :
    ¬ Fit h cancellable millis s span := by
  rintro ⟨hlength, hcheck⟩
  cases hu with
  | unmeasured length =>
    rw [length] at hlength
    cases hlength
  | refused length check =>
    rw [length] at hlength
    cases hlength
    rw [check] at hcheck
    cases hcheck

/-- One fault says why a pause cannot begin. -/
theorem Unfit.unique {h : Hooks R σ} {cancellable : Bool} {millis : Number R} {s : σ}
    {why why' : ArithFault} (hu : Unfit h cancellable millis s why)
    (hu' : Unfit h cancellable millis s why') : why = why' := by
  cases hu with
  | unmeasured length =>
    cases hu' with
    | unmeasured length' =>
      cases length.symm.trans length'
      rfl
    | refused length' => cases length.symm.trans length'
  | refused length check =>
    cases hu' with
    | unmeasured length' => cases length.symm.trans length'
    | refused length' check' =>
      cases length.symm.trans length'
      cases check.symm.trans check'
      rfl

/-- What is reported of a pause of some seconds. -/
def pauseEvent (cancellable : Bool) (span : R) : Event R :=
  if cancellable then .waited span else .slept span

/-- What the debug log says of a pause. -/
def pauseNotes (debug : Bool) (span : R) : List Note :=
  if debug then [.log .pause ("Waiting " ++ Arith.fixed 3 span ++ "s before retry")] else []

section pause

variable {h : Hooks R σ} {cancellable : Bool} {millis : Number R} {s : σ} {span : R}
  {why : ArithFault}

theorem pause_unmeasured (length : (seconds millis : Except ArithFault R) = .error why)
    (r : Request) : pause h cancellable millis r s = ⟨.error (.arithmetic why), r, s, []⟩ := by
  unfold pause
  rw [length]
  rfl

theorem log_pause (h : Hooks R σ) (span : R) (r : Request) (s : σ) :
    Run.log h.debug .pause ("Waiting " ++ Arith.fixed 3 span ++ "s before retry") r s
      = ⟨.ok (), r, s, pauseNotes h.debug span⟩ := Run.log_apply _ _ _ r s

theorem pause_refused (length : seconds millis = .ok span)
    (check : h.checkPause cancellable span s = .error why) (r : Request) :
    pause h cancellable millis r s =
      ⟨.error (.arithmetic why), r, s, (pauseNotes h.debug span).map .ofNote⟩ := by
  unfold pause
  rw [length]
  simp only [Run.mapError_ok, Run.lift_ok, pure_bind,
    Run.bind_ok (Run.ofHook_eq (log_pause _ _ _ _)), Run.state_bind, check,
    Run.mapError_error, Run.lift_error, Run.throw_bind, Run.throw_apply, Outcome.after_mk,
    List.append_nil]

/-- A pause that cannot begin ends with its fault.  Nothing is reported but a line of the
    debug log, and nothing changes. -/
theorem pause_unfit (hu : Unfit h cancellable millis s why) (r : Request) :
    ∃ notes : List Note,
      pause h cancellable millis r s = ⟨.error (.arithmetic why), r, s, notes.map .ofNote⟩ := by
  cases hu with
  | unmeasured length => exact ⟨[], pause_unmeasured length r⟩
  | refused length check => exact ⟨_, pause_refused length check r⟩

/-- A pause that can begin is reported once and changes no request.  With a cancel event
    it is a wait, and ends with a fault exactly if the wait finds the event set. -/
theorem pause_apply (hfit : Fit h cancellable millis s span) (r : Request) :
    pause h cancellable millis r s =
      ⟨if cancellable && (h.wait span s).1 then .error .cancelledWaiting else .ok (), r,
        if cancellable then (h.wait span s).2 else h.sleep span s,
        (pauseNotes h.debug span).map .ofNote ++ [pauseEvent cancellable span]⟩ := by
  unfold pause
  rw [hfit.length]
  simp only [Run.mapError_ok, Run.lift_ok, pure_bind,
    Run.bind_ok (Run.ofHook_eq (log_pause _ _ _ _)), Run.state_bind, hfit.check]
  cases hc : cancellable with
  | false => rfl
  | true => cases hw : (h.wait span s).1 <;> simp [pauseEvent]

/-- A pause that can begin ends with a fault only if the cancel event ends it. -/
theorem pause_fit (hfit : Fit h cancellable millis s span) (r : Request) :
    ∃ result s', ∃ notes : List Note,
      pause h cancellable millis r s
        = ⟨result, r, s', notes.map .ofNote ++ [pauseEvent cancellable span]⟩ ∧
      (result = .ok () ∨
        cancellable = true ∧ (h.wait span s).1 = true ∧ result = .error .cancelledWaiting) := by
  refine ⟨_, _, _, pause_apply hfit r, ?_⟩
  cases cancellable with
  | false => exact .inl rfl
  | true =>
    cases hw : (h.wait span s).1 with
    | false => exact .inl rfl
    | true => exact .inr ⟨rfl, rfl, rfl⟩

end pause

theorem policyAsked (h : Hooks R σ) (cancellable : Bool) (status : Int) (r : Request) (s : σ) :
    ∃ consults, PolicyAsked h cancellable status r s consults
      (backOff h cancellable status r s) := by
  unfold backOff
  simp only [Run.request_bind]
  match hslot : r.policy with
  | .empty => exact ⟨_, .absent hslot⟩
  | .other v => exact ⟨_, .misplaced hslot⟩
  | .hook policy =>
    rcases hcall : h.isBackoffRequired policy status r s with ⟨f | required, r₁, s₁, n₁⟩
    · simp only [Run.bind_error (Run.ofHook_eq hcall)]
      exact ⟨_, .requiredFailed hslot hcall⟩
    simp only [Run.bind_ok (Run.ofHook_eq hcall), Run.emit_bind]
    -- the second question goes to the same policy, even if the first one replaced it
    cases required with
    | false => exact ⟨_, .unneeded hslot hcall⟩
    | true =>
      simp only [Bool.not_true, Bool.false_eq_true, if_false]
      rcases hnext : h.nextBackoff policy r₁ s₁ with ⟨f | millis, r₂, s₂, n₂⟩
      · rw [Run.bind_error (Run.ofHook_eq hnext)]
        simp only [Outcome.after_mk, ← List.append_assoc]
        exact ⟨_, .nextFailed hslot hcall hnext⟩
      simp only [Run.bind_ok (Run.ofHook_eq hnext), Run.emit_bind]
      cases hstop : millis.eq Backoff.stop with
      | true =>
        simp only [if_true, Run.pure_apply, Outcome.after_mk, ← List.append_assoc,
          List.append_nil]
        exact ⟨_, .stopped hslot hcall hnext hstop⟩
      | false =>
        simp only [Bool.false_eq_true, if_false]
        rcases fit_or_unfit h cancellable millis s₂ with ⟨span, hfit⟩ | ⟨why, hunfit⟩
        -- a pause that begins has a length in seconds, which is answered after it
        · obtain ⟨result, s₃, n₃, hpause, rfl | ⟨hcancellable, hset, rfl⟩⟩ := pause_fit hfit r₂
          · simp only [Run.bind_ok hpause, hfit.length, Run.mapError_ok, Run.lift_ok, pure_bind,
              Run.pure_apply, Outcome.after_mk, List.append_nil]
            exact ⟨_, by simpa only [List.append_assoc] using
              PolicyAsked.paused hslot hcall hnext hstop hfit hpause⟩
          · simp only [Run.bind_error hpause, Outcome.after_mk]
            exact ⟨_, by simpa only [List.append_assoc] using
              PolicyAsked.cut hslot hcall hnext hstop hfit ⟨hcancellable, hset⟩ hpause⟩
        · obtain ⟨n₃, hpause⟩ := pause_unfit hunfit r₂
          rw [Run.bind_error hpause]
          simp only [Outcome.after_mk, ← List.append_assoc]
          exact ⟨_, .unpaused hslot hcall hnext hstop hunfit hpause⟩

/-! ## Section 3: The three triggers in turn -/

/-- The questions of one response, in order, and what they leave. -/
inductive Offered (h : Hooks R σ) (cancellable : Bool) (response : Response) (r : Request)
    (s : σ) : List (Consult R) → Outcome (Event R) σ (Option (Reason × R)) → Prop where
  | handlerFailed {cs : List (Consult R)} {f : Fault} {r₁ : Request} {s₁ : σ}
      {e₁ : List (Event R)} (handler : HandlerAsked h response r s cs ⟨.error f, r₁, s₁, e₁⟩) :
      Offered h cancellable response r s cs ⟨.error f, r₁, s₁, e₁⟩
  | claimed {cs : List (Consult R)} {r₁ : Request} {s₁ : σ} {e₁ : List (Event R)}
      (handler : HandlerAsked h response r s cs ⟨.ok true, r₁, s₁, e₁⟩) :
      Offered h cancellable response r s cs
        ⟨.ok (some (.handler, Arith.zero)), r₁, s₁, e₁⟩
  | policyFailed {cs₁ cs₂ : List (Consult R)} {f : Fault} {r₁ r₂ : Request} {s₁ s₂ : σ}
      {e₁ e₂ : List (Event R)}
      (handler : HandlerAsked h response r s cs₁ ⟨.ok false, r₁, s₁, e₁⟩)
      (policy : PolicyAsked h cancellable response.status r₁ s₁ cs₂ ⟨.error f, r₂, s₂, e₂⟩) :
      Offered h cancellable response r s (cs₁ ++ cs₂) ⟨.error f, r₂, s₂, e₁ ++ e₂⟩
  | paused {cs₁ cs₂ : List (Consult R)} {waited : R} {r₁ r₂ : Request} {s₁ s₂ : σ}
      {e₁ e₂ : List (Event R)}
      (handler : HandlerAsked h response r s cs₁ ⟨.ok false, r₁, s₁, e₁⟩)
      (policy : PolicyAsked h cancellable response.status r₁ s₁ cs₂
        ⟨.ok (some waited), r₂, s₂, e₂⟩) :
      Offered h cancellable response r s (cs₁ ++ cs₂)
        ⟨.ok (some (.backoff, waited)), r₂, s₂, e₁ ++ e₂⟩
  | redirectFailed {cs₁ cs₂ : List (Consult R)} {f : Fault} {r₁ r₂ : Request} {s₁ s₂ : σ}
      {e₁ e₂ : List (Event R)}
      (handler : HandlerAsked h response r s cs₁ ⟨.ok false, r₁, s₁, e₁⟩)
      (policy : PolicyAsked h cancellable response.status r₁ s₁ cs₂ ⟨.ok none, r₂, s₂, e₂⟩)
      (rule : r₂.redirectTarget response.status response.headers = .error f) :
      Offered h cancellable response r s (cs₁ ++ cs₂ ++ [.redirect (.error f)])
        ⟨.error f, r₂, s₂, e₁ ++ e₂⟩
  | stayed {cs₁ cs₂ : List (Consult R)} {r₁ r₂ : Request} {s₁ s₂ : σ} {e₁ e₂ : List (Event R)}
      (handler : HandlerAsked h response r s cs₁ ⟨.ok false, r₁, s₁, e₁⟩)
      (policy : PolicyAsked h cancellable response.status r₁ s₁ cs₂ ⟨.ok none, r₂, s₂, e₂⟩)
      (rule : r₂.redirectTarget response.status response.headers = .ok none) :
      Offered h cancellable response r s (cs₁ ++ cs₂ ++ [.redirect (.ok none)])
        ⟨.ok none, r₂, s₂, e₁ ++ e₂⟩
  | moved {cs₁ cs₂ : List (Consult R)} {target : String} {r₁ r₂ : Request} {s₁ s₂ : σ}
      {e₁ e₂ : List (Event R)} {n₃ : List Note}
      (handler : HandlerAsked h response r s cs₁ ⟨.ok false, r₁, s₁, e₁⟩)
      (policy : PolicyAsked h cancellable response.status r₁ s₁ cs₂ ⟨.ok none, r₂, s₂, e₂⟩)
      (rule : r₂.redirectTarget response.status response.headers = .ok (some target)) :
      Offered h cancellable response r s (cs₁ ++ cs₂ ++ [.redirect (.ok (some target))])
        ⟨.ok (some (.redirect, Arith.zero)), r₂.redirected response.status target, s₂,
          e₁ ++ e₂ ++ n₃.map .ofNote⟩

/-- What the engine reports of a question. -/
def Consult.events (cancellable : Bool) : Consult R → List (Event R)
  | .required status (.ok answer) => [.policyRequired status answer]
  | .next (.ok millis) => [.policyNext millis]
  | .pause millis _ =>
    match seconds millis with
    | .ok span => [pauseEvent cancellable span]
    | .error _ => []
  | _ => []

/-- The redirect rule moves the request as its target says, and does nothing else. -/
theorem followRedirect_eq (debug : Bool) (status : Int) (headers : Headers) (r : Request)
    (s : σ) :
    (∃ f, r.redirectTarget status headers = .error f ∧
      followRedirect debug status headers r s = ⟨.error f, r, s, []⟩) ∨
    (r.redirectTarget status headers = .ok none ∧
      followRedirect debug status headers r s = ⟨.ok false, r, s, []⟩) ∨
    (∃ target notes, r.redirectTarget status headers = .ok (some target) ∧
      followRedirect debug status headers r s
        = ⟨.ok true, r.redirected status target, s, notes⟩) := by
  unfold followRedirect
  simp only [Run.request_bind]
  match r.redirectTarget status headers with
  | .error f => exact .inl ⟨f, rfl, rfl⟩
  | .ok none => exact .inr (.inl ⟨rfl, rfl⟩)
  | .ok (some target) =>
    have hlog := Run.log_apply debug .redirect (r.method ++ " request to " ++ r.url.plain
      ++ " redirected (" ++ toString status ++ ") to " ++ target) r s
    have hrun : ((do
        Run.log debug .redirect (r.method ++ " request to " ++ r.url.plain
          ++ " redirected (" ++ toString status ++ ") to " ++ target)
        Run.setRequest (r.redirected status target)
        return true) : Run Note σ Bool) r s
          = ⟨.ok true, r.redirected status target, s, _⟩ := Run.bind_ok hlog
    exact .inr (.inr ⟨target, _, rfl, hrun⟩)

/-- Offering a response follows the rules. -/
theorem offered (h : Hooks R σ) (cancellable : Bool) (response : Response) (r : Request) (s : σ) :
    ∃ consults, Offered h cancellable response r s consults
      (offer h cancellable response r s) := by
  unfold offer
  obtain ⟨cs₁, handler⟩ := handlerAsked (R := R) h response r s
  rcases hhandler : (askHandler h response r s : Outcome (Event R) σ Bool)
    with ⟨f | claimed, r₁, s₁, e₁⟩ <;> rw [hhandler] at handler
  · rw [Run.bind_error hhandler]
    exact ⟨_, .handlerFailed handler⟩
  rw [Run.bind_ok hhandler]
  cases claimed with
  | true =>
    simp only [if_true, Run.pure_apply, Outcome.after_mk, List.append_nil]
    exact ⟨_, .claimed handler⟩
  | false =>
    simp only [Bool.false_eq_true, if_false]
    obtain ⟨cs₂, policy⟩ := policyAsked h cancellable response.status r₁ s₁
    rcases hpolicy : backOff h cancellable response.status r₁ s₁
      with ⟨f | waited, r₂, s₂, e₂⟩ <;> rw [hpolicy] at policy
    · rw [Run.bind_error hpolicy]
      exact ⟨_, .policyFailed handler policy⟩
    rw [Run.bind_ok hpolicy]
    cases waited with
    | some waited =>
      simp only [Run.pure_apply, Outcome.after_mk, List.append_nil]
      exact ⟨_, .paused handler policy⟩
    | none =>
      simp only
      rcases followRedirect_eq h.debug response.status response.headers r₂ s₂ with
        ⟨f, htarget, hrule⟩ | ⟨htarget, hrule⟩ | ⟨target, n₃, htarget, hrule⟩
      · rw [Run.bind_error (Run.ofHook_eq hrule)]
        simp only [Outcome.after_mk, List.map_nil, List.append_nil]
        exact ⟨_, .redirectFailed handler policy htarget⟩
      · rw [Run.bind_ok (Run.ofHook_eq hrule)]
        simp only [Bool.false_eq_true, if_false, Run.pure_apply, Outcome.after_mk, List.map_nil,
          List.append_nil]
        exact ⟨_, .stayed handler policy htarget⟩
      · rw [Run.bind_ok (Run.ofHook_eq hrule)]
        simp only [if_true, Run.pure_apply, Outcome.after_mk, List.append_nil,
          ← List.append_assoc]
        exact ⟨_, .moved handler policy htarget⟩

/-! ## Section 4: What the questions report -/

theorem HandlerAsked.own_events {h : Hooks R σ} {response : Response} {r : Request} {s : σ}
    {cs : List (Consult R)} {o : Outcome (Event R) σ Bool}
    (ha : HandlerAsked h response r s cs o) (cancellable : Bool) :
    own o.events = cs.flatMap (Consult.events cancellable) := by
  cases ha with
  | absent | misplaced => rfl
  | asked => simp [Consult.events]

theorem Fit.own_events {h : Hooks R σ} {cancellable : Bool} {millis : Number R} {s : σ} {span : R}
    (hfit : Fit h cancellable millis s span) (r : Request) (ended : Except Fault Unit) :
    own (pause h cancellable millis r s).events
      = Consult.events cancellable (.pause millis ended) := by
  obtain ⟨_, _, notes, hpause, -⟩ := pause_fit hfit r
  rw [hpause]
  cases cancellable <;> simp [Consult.events, hfit.length, pauseEvent, Event.isOwn]

theorem PolicyAsked.own_events {h : Hooks R σ} {cancellable : Bool} {status : Int}
    {r : Request} {s : σ} {cs : List (Consult R)} {o : Outcome (Event R) σ (Option R)}
    (hp : PolicyAsked h cancellable status r s cs o) :
    own o.events = cs.flatMap (Consult.events cancellable) := by
  cases hp with
  | absent | misplaced => rfl
  | requiredFailed => simp [Consult.events]
  | unneeded | nextFailed | stopped | unpaused => simp [Consult.events, Event.isOwn]
  | @cut _ _ _ _ r₂ _ _ _ _ _ _ _ _ _ _ _ fit _ paused =>
    have h₃ := fit.own_events r₂ (.error .cancelledWaiting)
    rw [paused] at h₃
    simp [h₃, Consult.events, Event.isOwn]
  | @paused _ _ _ _ r₂ _ _ _ _ _ _ _ _ _ _ _ fit paused =>
    have h₃ := fit.own_events r₂ (.ok ())
    rw [paused] at h₃
    simp [h₃, Consult.events, Event.isOwn]

/-- The engine's own events of an offered response are those of its questions. -/
theorem Offered.own_events {h : Hooks R σ} {cancellable : Bool} {response : Response}
    {r : Request} {s : σ} {cs : List (Consult R)}
    {o : Outcome (Event R) σ (Option (Reason × R))}
    (ho : Offered h cancellable response r s cs o) :
    own o.events = cs.flatMap (Consult.events cancellable) := by
  cases ho with
  | handlerFailed handler | claimed handler => exact handler.own_events cancellable
  | policyFailed handler policy | paused handler policy =>
    have h₁ := handler.own_events cancellable
    have h₂ := policy.own_events
    simp_all
  -- a redirect is reported in the log only
  | redirectFailed handler policy | stayed handler policy | moved handler policy =>
    have h₁ := handler.own_events cancellable
    have h₂ := policy.own_events
    simp_all [Consult.events]

/-! ## Section 5: Whose questions these are, and pauses that end a run -/

/-- A wanted pause, whether it was made or could not begin. -/
def Consult.isPausing : Consult R → Bool
  | .pause _ _ | .unpaused _ _ => true
  | _ => false

section handler

omit [Arith R]

variable {h : Hooks R σ} {response : Response} {r : Request} {s : σ} {cs : List (Consult R)}
  {o : Outcome (Event R) σ Bool} {c : Consult R}

/-- Nothing but the handler is asked for the handler. -/
theorem HandlerAsked.of_mem (ha : HandlerAsked h response r s cs o) (hc : c ∈ cs) :
    ∃ answer, c = .handler answer := by
  cases ha with
  | absent => exact absurd hc List.not_mem_nil
  | misplaced | asked => exact ⟨_, List.mem_singleton.mp hc⟩

theorem HandlerAsked.not_pausing (ha : HandlerAsked h response r s cs o) (hc : c ∈ cs) :
    ¬ c.isPausing = true := by
  obtain ⟨answer, rfl⟩ := ha.of_mem hc
  exact nofun

theorem HandlerAsked.no_redirect (ha : HandlerAsked h response r s cs o) :
    (∀ answer, .next answer ∉ cs) ∧ ∀ target, .redirect target ∉ cs := by
  constructor <;> intro _ hc <;> obtain ⟨answer, heq⟩ := ha.of_mem hc <;> cases heq

end handler

theorem PolicyAsked.no_redirect {h : Hooks R σ} {cancellable : Bool} {status : Int} {r : Request}
    {s : σ} {cs : List (Consult R)} {o : Outcome (Event R) σ (Option R)}
    (ha : PolicyAsked h cancellable status r s cs o) (target : Except Fault (Option String)) :
    .redirect target ∉ cs := by
  cases ha <;> simp

/-- What ends a run after a wanted pause: the pause cannot begin, or the cancel event ends
    it. -/
def Consult.Stops (f : Fault) : Consult R → Prop
  | .unpaused _ why => f = .arithmetic why
  | .pause _ ended => ended = .error f
  | _ => False

omit [Arith R] in
theorem HandlerAsked.not_stops {h : Hooks R σ} {response : Response} {r : Request} {s : σ}
    {cs : List (Consult R)} {o : Outcome (Event R) σ Bool}
    (ha : HandlerAsked h response r s cs o) {c : Consult R} (hc : c ∈ cs) (f : Fault) :
    ¬ c.Stops f := by
  obtain ⟨answer, rfl⟩ := ha.of_mem hc
  exact id

theorem PolicyAsked.stopped_by {h : Hooks R σ} {cancellable : Bool} {status : Int}
    {r : Request} {s : σ} {cs : List (Consult R)} {o : Outcome (Event R) σ (Option R)}
    (hp : PolicyAsked h cancellable status r s cs o) {c : Consult R} (hc : c ∈ cs) {f : Fault}
    (hf : c.Stops f) : o.result = .error f := by
  cases hp <;> simp at hc <;> rcases hc with rfl | rfl | rfl <;> simp_all [Consult.Stops]

/-- A pause that cannot begin, or that the cancel event ends, ends the run with its
    fault. -/
theorem Offered.stopped_by {h : Hooks R σ} {cancellable : Bool} {response : Response}
    {r : Request} {s : σ} {cs : List (Consult R)}
    {o : Outcome (Event R) σ (Option (Reason × R))}
    (ho : Offered h cancellable response r s cs o) {c : Consult R} (hc : c ∈ cs) {f : Fault}
    (hf : c.Stops f) : o.result = .error f := by
  cases ho with
  | handlerFailed handler | claimed handler => exact absurd hf (handler.not_stops hc f)
  | policyFailed handler policy =>
    rcases List.mem_append.mp hc with hc | hc
    · exact absurd hf (handler.not_stops hc f)
    · cases policy.stopped_by hc hf
      rfl
  | paused handler policy =>
    rcases List.mem_append.mp hc with hc | hc
    · exact absurd hf (handler.not_stops hc f)
    · cases policy.stopped_by hc hf
  | redirectFailed handler policy | stayed handler policy | moved handler policy =>
    rcases List.mem_append.mp hc with hc | hc
    · rcases List.mem_append.mp hc with hc | hc
      · exact absurd hf (handler.not_stops hc f)
      · cases policy.stopped_by hc hf
    · cases List.mem_singleton.mp hc
      cases hf

end Redial.Engine
