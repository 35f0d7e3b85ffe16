import Redial.Engine.Execution
import Redial.Proofs.Account.Reports
import Redial.Proofs.Likeness.Basic

/-! # Executions that are alike

    The loop reads of a request only what decides its course.  So two executions
    are alike if their surroundings are alike, and if staging and transmitting are.
    The lemmas go along the functions of the engine, one for each; the loop itself
    is by induction on the limit. -/

namespace Redial.Engine

open Likeness

variable {R σ β : Type} {L : Likeness R σ β} {C : Cut R} {h₁ h₂ : Hooks R σ}

/-! ## Section 1: Handlers and callbacks -/

section asking

variable (hh : Hooks.Alike L h₁ h₂)
include hh

theorem alike_logLine (channel : Channel) (text : String) :
    L.Alike C Eq (Run.ofHook (Run.log h₁.debug channel text))
      (Run.ofHook (Run.log h₂.debug channel text)) :=
  alike_log (hh.log.imp (fun hdebug => ⟨hdebug, rfl⟩) fun hhidden => hhidden channel)

mutual

theorem alike_ask (response : Response) (supportsRetry : Bool) : ∀ handler,
    L.Alike C Eq (Run.ofHook (ask h₁ response supportsRetry handler))
      (Run.ofHook (ask h₂ response supportsRetry handler))
  | .leaf _ id => by
    unfold ask
    exact (hh.handle id response supportsRetry).uncut
  | .composite parts => by
    unfold ask
    exact alike_askInOrder response supportsRetry parts

theorem alike_askInOrder (response : Response) (supportsRetry : Bool) : ∀ parts,
    L.Alike C Eq (Run.ofHook (askInOrder h₁ response supportsRetry parts))
      (Run.ofHook (askInOrder h₂ response supportsRetry parts))
  | [] => by
    unfold askInOrder
    exact alike_pure rfl
  | part :: parts => by
    unfold askInOrder
    rw [Run.ofHook_bind, Run.ofHook_bind]
    refine alike_bind (alike_ask response supportsRetry part) ?_
    rintro claimed _ rfl
    cases claimed with
    | false => exact alike_askInOrder response supportsRetry parts
    | true =>
      simp only [if_true, Run.ofHook_bind]
      exact alike_seq (alike_logLine hh .handler _) (alike_pure rfl)

end

theorem alike_askHandler (response : Response) :
    L.Alike C Eq (askHandler h₁ response) (askHandler h₂ response) := by
  unfold askHandler
  refine alike_bind alike_request fun r₁ r₂ hr => ?_
  rw [(L.course hr).handler]
  cases r₂.handler with
  | empty => exact alike_pure rfl
  | hook handler => exact alike_ask hh response true handler
  | other v => exact alike_throw _

theorem alike_logRequest (text : String) :
    L.Alike C Eq (logRequest h₁ text) (logRequest h₂ text) := by
  unfold logRequest
  refine alike_bind alike_request fun r₁ r₂ hr => ?_
  rw [(L.course hr).method, (L.course hr).url]
  exact alike_logLine hh .execution _

end asking

theorem alike_tell {callbacks : Slot Callbacks} {choose : Callbacks → Option Nat}
    {wanted : String} {event : Event R} {call₁ call₂ : Nat → Hook σ Unit}
    (hcall : ∀ id, L.Alike .never Eq (Run.ofHook (call₁ id)) (Run.ofHook (call₂ id))) :
    L.Alike C Eq (tell callbacks choose wanted event call₁)
      (tell callbacks choose wanted event call₂) := by
  unfold tell
  cases callbacks with
  | empty => exact alike_pure rfl
  | hook callbacks =>
    dsimp only
    cases choose callbacks with
    | none => exact alike_pure rfl
    | some id => exact alike_seq (alike_emit rfl) (hcall id).uncut
  | other v => exact alike_ite Iff.rfl (alike_throw _) (alike_pure rfl)

theorem alike_checkTransport (wanted : String) :
    L.Alike C Eq (checkTransport wanted) (checkTransport wanted) := by
  unfold checkTransport
  refine alike_bind alike_request fun r₁ r₂ hr => ?_
  rw [(L.course hr).replacement]
  cases r₂.replacement with
  | none => exact alike_pure rfl
  | some v => exact alike_throw _

/-! ## Section 2: Staging -/

/-- What the debug log says of a transmission that is staged. -/
def stageNotes (debug : Bool) (r : Request) : List Note :=
  if r.logging.isSet && debug then
    (stagedLog (stagedOf debug r)).map fun text => .log .execution text
  else []

theorem logAll_eq (debug : Bool) (channel : Channel) (r : Request) (s : σ) (texts : List String) :
    logAll debug channel texts r s
      = ⟨.ok (), r, s, if debug then texts.map fun text => .log channel text else []⟩ := by
  induction texts with
  | nil => cases debug <;> rfl
  | cons text texts ih =>
    unfold logAll
    rw [Run.bind_ok (Run.log_apply debug channel text r s), ih]
    cases debug <;> rfl

theorem stage_eq (h : Hooks R σ) :
    stage h = checkTransport "build_request" >>= fun _ => fun r s =>
      ⟨.ok (stagedOf h.debug r), r, s,
        .staged (stagedOf h.debug r) :: (stageNotes h.debug r).map .ofNote⟩ := by
  unfold stage
  congr 1
  funext _ r s
  rw [Run.request_bind, Run.emit_bind]
  unfold stageNotes
  cases r.logging.isSet with
  | false => rfl
  | true =>
    rw [if_pos rfl, Run.bind_ok (Run.ofHook_eq (logAll_eq h.debug .execution r s _))]
    cases h.debug <;> simp

/-- Like requests are staged alike if what is staged is alike, and what is logged of it. -/
theorem alike_stage {S : Staged → Staged → Prop}
    (hstaged : ∀ r₁ r₂, L.request r₁ r₂ →
      S (stagedOf h₁.debug r₁) (stagedOf h₂.debug r₂) ∧
      L.shown (.staged (stagedOf h₁.debug r₁)) = L.shown (.staged (stagedOf h₂.debug r₂)) ∧
      L.view ((stageNotes h₁.debug r₁).map .ofNote)
        = L.view ((stageNotes h₂.debug r₂).map .ofNote)) :
    L.Alike C S (stage h₁) (stage h₂) := by
  rw [stage_eq, stage_eq]
  refine alike_seq (alike_checkTransport _) ?_
  intro r₁ r₂ s₁ s₂ hr hs
  obtain ⟨hlike, hshown, hnotes⟩ := hstaged r₁ r₂ hr
  refine .inl ⟨.ok hlike, hr, hs, ?_⟩
  simp only [view, List.filterMap_cons, hshown]
  simp only [view] at hnotes
  rw [hnotes]

/-! ## Section 3: Transmitting with one transport -/

section transmitting

variable {h : Hooks R σ}
  (hsource : ∀ id, L.Alike .never Eq (Run.ofHook (h.writeSource id))
    (Run.ofHook (h.writeSource id)))
include hsource

/-- A content is written alike if the bodies of the caller's are. -/
theorem alike_writeSame : ∀ c : Content,
    L.Alike C Eq (Run.ofHook (writeContent h c)) (Run.ofHook (writeContent h c))
  | .bytes _ data => alike_pure rfl
  | .source s => (hsource s.id).uncut
  | .gzip inner => by
    unfold writeContent
    simp only [Run.ofHook_bind]
    refine alike_bind (alike_writeSame inner) ?_
    rintro data _ rfl
    exact alike_pure rfl
  | .logging inner limit => by
    unfold writeContent
    simp only [Run.ofHook_bind, Run.ofHook_lift]
    refine alike_bind (alike_writeSame inner) ?_
    rintro data _ rfl
    refine alike_bind (alike_lift (Ends.same _)) ?_
    rintro line _ rfl
    cases line with
    | none => exact alike_pure rfl
    | some text =>
      simp only [Run.ofHook_bind]
      exact alike_seq (alike_log (.inl ⟨rfl, rfl⟩)) (alike_pure rfl)

/-- Transmissions of the same content are alike if the transport takes them alike. -/
theorem alike_transmitSame {s₁ s₂ : Staged} (hcontent : s₁.content = s₂.content)
    (hshown : L.shown (.transmitted s₁) = L.shown (.transmitted s₂))
    (hannounce : L.Alike .never Eq (Run.ofHook (h.announce s₁)) (Run.ofHook (h.announce s₂)))
    (hexchange : ∀ body, L.Alike .never Eq (Run.ofHook (h.exchange s₁ body))
      (Run.ofHook (h.exchange s₂ body))) :
    L.Alike C Eq (transmit h s₁) (transmit h s₂) := by
  have hread : L.Alike C Eq (Run.ofHook (readBody h s₁)) (Run.ofHook (readBody h s₂)) := by
    unfold readBody
    rw [hcontent]
    cases h.readsBody with
    | false => exact alike_pure rfl
    | true =>
      cases s₂.content with
      | none => exact alike_pure rfl
      | some c => exact alike_writeSame hsource c
  unfold transmit
  refine alike_seq (alike_emit hshown) (alike_seq hannounce.uncut (alike_bind hread ?_))
  rintro body _ rfl
  exact (hexchange body).uncut

end transmitting

/-! ## Section 4: Time -/

theorem alike_checkCancelled (ht : Hooks.AlikeInTime L h₁ h₂) (cancellable : Bool) :
    L.Alike C Eq (checkCancelled h₁ cancellable) (checkCancelled h₂ cancellable) := by
  unfold checkCancelled
  refine alike_bind alike_state fun s₁ s₂ hs => ?_
  rw [ht.isCancelled hs]
  refine alike_ite Iff.rfl (alike_bind alike_request fun r₁ r₂ hr => ?_) (alike_pure rfl)
  rw [(L.course hr).method, (L.course hr).url]
  exact alike_throw _

variable [Arith R]

theorem alike_pause (hh : Hooks.Alike L h₁ h₂) (ht : Hooks.AlikeInTime L h₁ h₂)
    (cancellable : Bool) (millis : Number R) :
    L.Alike C Eq (pause h₁ cancellable millis) (pause h₂ cancellable millis) := by
  unfold pause
  cases seconds millis with
  | error f => exact alike_throw _
  | ok span =>
    simp only [Run.mapError_ok, Run.lift_ok, pure_bind]
    refine alike_seq (alike_logLine hh .pause _) (alike_bind alike_state fun s₁ s₂ hs => ?_)
    rw [ht.checkPause cancellable span hs]
    refine alike_seq (alike_lift (Ends.same _)) ?_
    refine alike_ite Iff.rfl ?_ (alike_seq (alike_emit rfl) (alike_setState (ht.sleep span hs)))
    obtain ⟨hcancelled, hstate⟩ := ht.wait span hs
    refine alike_seq (alike_emit rfl) (alike_seq (alike_setState hstate) ?_)
    exact alike_ite (by rw [hcancelled]) (alike_throw _) (alike_pure rfl)

/-! ## Section 5: Triggers -/

/-- The parts of two executions that depend on what a transmission carries and on how time
    passes, and the surroundings for all the others.  The pauses are those that a policy
    may want. -/
structure PartsAlike (L : Likeness R σ β) (C : Cut R) (S : Staged → Staged → Prop)
    (h₁ h₂ : Hooks R σ) (cancellable₁ cancellable₂ : Bool) : Prop where
  surroundings : Hooks.Alike L h₁ h₂
  check : L.Alike C Eq (checkCancelled h₁ cancellable₁) (checkCancelled h₂ cancellable₂)
  pause : ∀ policy millis, (h₁.nextBackoff policy).MayReturn millis →
    millis.eq Backoff.stop = false →
    L.Alike C Eq (pause h₁ cancellable₁ millis) (pause h₂ cancellable₂ millis)
  stage : L.Alike C S (stage h₁) (stage h₂)
  transmit : ∀ s₁ s₂, S s₁ s₂ → L.Alike C Eq (transmit h₁ s₁) (transmit h₂ s₂)

/-- Executions that look for the cancel event at the same places, while time passes alike. -/
theorem partsAlike_inTime {S : Staged → Staged → Prop} (hh : Hooks.Alike L h₁ h₂)
    (ht : Hooks.AlikeInTime L h₁ h₂) (cancellable : Bool)
    (hstage : L.Alike C S (stage h₁) (stage h₂))
    (htransmit : ∀ s₁ s₂, S s₁ s₂ → L.Alike C Eq (transmit h₁ s₁) (transmit h₂ s₂)) :
    PartsAlike L C S h₁ h₂ cancellable cancellable where
  surroundings := hh
  check := alike_checkCancelled ht cancellable
  pause _ millis _ _ := alike_pause hh ht cancellable millis
  stage := hstage
  transmit := htransmit

section loop

variable {S : Staged → Staged → Prop} {cancellable₁ cancellable₂ : Bool}
  (hp : PartsAlike L C S h₁ h₂ cancellable₁ cancellable₂)
include hp

theorem alike_backOff (status : Int) :
    L.Alike C Eq (backOff h₁ cancellable₁ status) (backOff h₂ cancellable₂ status) := by
  have hh := hp.surroundings
  unfold backOff
  refine alike_bind alike_request fun r₁ r₂ hr => ?_
  rw [(L.course hr).policy]
  cases r₂.policy with
  | empty => exact alike_pure rfl
  | other v => exact alike_throw _
  | hook policy =>
    refine alike_bind (hh.isBackoffRequired policy status).uncut ?_
    rintro required _ rfl
    refine alike_seq (alike_emit rfl) (alike_ite Iff.rfl (alike_pure rfl) ?_)
    refine alike_bind (hh.nextBackoff policy).uncut.returned ?_
    rintro millis _ ⟨rfl, hmillis⟩
    refine alike_seq (alike_emit rfl) ?_
    cases hstop : millis.eq Backoff.stop with
    | true => exact alike_pure rfl
    | false =>
      refine alike_seq (hp.pause policy millis hmillis hstop) ?_
      refine alike_bind (alike_lift (Ends.same _)) ?_
      rintro waited _ rfl
      exact alike_pure rfl

/-- The redirect rule reads the method, the URL and whether redirects are followed. -/
theorem alike_followRedirect (status : Int) (headers : Headers) :
    L.Alike C Eq (Run.ofHook (followRedirect h₁.debug status headers))
      (Run.ofHook (followRedirect h₂.debug status headers)) := by
  have hh := hp.surroundings
  unfold followRedirect
  simp only [Run.ofHook_bind]
  refine alike_bind alike_request fun r₁ r₂ hr => ?_
  have htarget : r₁.redirectTarget status headers = r₂.redirectTarget status headers := by
    unfold Request.redirectTarget
    rw [(L.course hr).followRedirects, (L.course hr).url]
  rw [htarget, (L.course hr).method, (L.course hr).url]
  cases r₂.redirectTarget status headers with
  | error f => exact alike_throw _
  | ok target =>
    cases target with
    | none => exact alike_pure rfl
    | some target =>
      have hmoved : L.Alike C Eq (Run.setRequest (r₁.redirected status target))
          (Run.setRequest (r₂.redirected status target)) :=
        alike_setRequest (L.moved status target hr)
      simp only [Run.lift_ok, Run.ofHook_pure, pure_bind, Run.ofHook_bind]
      exact alike_seq (alike_logLine hh .redirect _) (alike_seq hmoved (alike_pure rfl))

theorem alike_offer (response : Response) :
    L.Alike C Eq (offer h₁ cancellable₁ response) (offer h₂ cancellable₂ response) := by
  have hh := hp.surroundings
  unfold offer
  refine alike_bind (alike_askHandler hh response) ?_
  rintro claimed _ rfl
  refine alike_ite Iff.rfl (alike_pure rfl) (alike_bind (alike_backOff hp response.status) ?_)
  rintro waited _ rfl
  cases waited with
  | some waited => exact alike_pure rfl
  | none =>
    refine alike_bind (alike_followRedirect hp response.status response.headers) ?_
    rintro moved _ rfl
    exact alike_ite Iff.rfl (alike_pure rfl) (alike_pure rfl)

omit [Arith R] hp in
theorem alike_spendRetry : L.Alike C Eq spendRetry spendRetry := by
  unfold spendRetry
  refine alike_bind alike_request fun r₁ r₂ hr => ?_
  rw [(L.course hr).retries]
  cases (r₂.retries.sub (.whole 1)).mapError Fault.arithmetic with
  | error f => exact alike_throw _
  | ok left =>
    simp only [Run.lift_ok, pure_bind, Request.setRetries]
    cases checkNonNegative Setting.retries.name (.number left) with
    | error f => exact alike_throw _
    | ok left => exact alike_setRequest (L.spent left hr)

theorem alike_announce (callbacks : Slot Callbacks) (n : Nat) (reason : Reason) (waited : R)
    (error : Option Fault) (status : Option Int) :
    L.Alike C Eq (announce h₁ callbacks n reason waited error status)
      (announce h₂ callbacks n reason waited error status) := by
  have hh := hp.surroundings
  unfold announce retryInfo
  refine alike_bind alike_request fun r₁ r₂ hr => ?_
  rw [(L.course hr).retries, (L.course hr).url, (L.course hr).method]
  exact alike_seq (alike_logRequest hh _) (alike_tell fun id => hh.onRetry id _)

theorem alike_retry (callbacks : Slot Callbacks) (n : Nat) (reason : Reason) (waited : R)
    (error : Option Fault) (status : Option Int) :
    L.Alike C Eq (retry h₁ callbacks n reason waited error status)
      (retry h₂ callbacks n reason waited error status) :=
  alike_seq alike_spendRetry (alike_announce hp callbacks n reason waited error status)

/-! ## Section 6: Endings -/

theorem alike_report (callbacks : Slot Callbacks) (start : R) (n : Nat) (error : Fault)
    (status : Option Int) :
    L.Alike C Eq (report h₁ callbacks start n error status)
      (report h₂ callbacks start n error status) := by
  have hh := hp.surroundings
  unfold report failureInfo
  refine alike_seq (alike_logRequest hh _) (alike_bind alike_request fun r₁ r₂ hr => ?_)
  refine alike_bind alike_state fun s₁ s₂ hs => ?_
  rw [(L.course hr).url, (L.course hr).method, hh.now hs]
  exact alike_tell fun id => hh.onFailure id _

theorem alike_fail (callbacks : Slot Callbacks) (start : R) (n : Nat) (error : Fault)
    (status : Option Int) :
    L.Alike C Eq (fail h₁ callbacks start n error status)
      (fail h₂ callbacks start n error status) := by
  rw [fail_eq, fail_eq]
  exact alike_seq (alike_report hp callbacks start n error status) (alike_throw error)

theorem alike_succeed (callbacks : Slot Callbacks) (start : R) (n : Nat) (response : Response) :
    L.Alike C Eq (succeed h₁ callbacks start n response)
      (succeed h₂ callbacks start n response) := by
  have hh := hp.surroundings
  unfold succeed
  refine alike_seq (alike_logRequest hh _) (alike_bind alike_request fun r₁ r₂ hr => ?_)
  refine alike_bind alike_state fun s₁ s₂ hs => ?_
  rw [(L.course hr).url, (L.course hr).method, hh.now hs]
  exact alike_tell fun id => hh.onSuccess id _

theorem alike_conclude (callbacks : Slot Callbacks) (start : R) (n : Nat) (response : Response) :
    L.Alike C Eq (conclude h₁ callbacks start n response)
      (conclude h₂ callbacks start n response) := by
  unfold conclude
  refine alike_bind alike_request fun r₁ r₂ hr => ?_
  rw [(L.course hr).raiseOnError, hp.surroundings.decode]
  refine alike_ite Iff.rfl ?_ (alike_pure rfl)
  cases (ResponseError.ofResponseBy h₂.decode response none).mapError Fault.charset with
  | error f => exact alike_throw f
  | ok error => exact alike_fail hp callbacks start n (.response error) (some response.status)

/-! ## Section 7: Attempts -/

theorem alike_takeFailure (callbacks : Slot Callbacks) (start : R) (n : Nat) (error : Fault) :
    L.Alike C Eq (takeFailure h₁ callbacks start n error)
      (takeFailure h₂ callbacks start n error) := by
  unfold takeFailure
  refine alike_bind alike_request fun r₁ r₂ hr => ?_
  rw [(L.course hr).retryOnFailure, (L.course hr).retries]
  have hretry : L.Alike C Eq
      (retry h₁ callbacks n .failure Arith.zero (some error) none >>= fun _ =>
        pure (none : Option Response))
      (retry h₂ callbacks n .failure Arith.zero (some error) none >>= fun _ => pure none) :=
    alike_seq (alike_retry hp callbacks n .failure Arith.zero (some error) none) (alike_pure rfl)
  exact alike_ite Iff.rfl (alike_seq (alike_fail hp callbacks start n error none) hretry) hretry

theorem alike_closeResponse (callbacks : Slot Callbacks) (start : R) (n : Nat)
    (response : Response) (trigger : Option (Reason × R)) :
    L.Alike C Eq (closeResponse h₁ callbacks start n response trigger)
      (closeResponse h₂ callbacks start n response trigger) := by
  cases trigger with
  | none => exact alike_seq (alike_conclude hp callbacks start n response) (alike_pure rfl)
  | some trigger =>
    exact alike_seq (alike_retry hp callbacks n trigger.1 trigger.2 none (some response.status))
      (alike_pure rfl)

theorem alike_takeResponse (callbacks : Slot Callbacks) (start : R) (n : Nat)
    (response : Response) :
    L.Alike C Eq (takeResponse h₁ cancellable₁ callbacks start n response)
      (takeResponse h₂ cancellable₂ callbacks start n response) := by
  unfold takeResponse
  cases response.isSuccess with
  | true => exact alike_seq (alike_succeed hp callbacks start n response) (alike_pure rfl)
  | false =>
    rw [if_neg Bool.false_ne_true, if_neg Bool.false_ne_true]
    refine alike_bind alike_request fun r₁ r₂ hr => ?_
    rw [(L.course hr).retries]
    cases r₂.retries.isPositive with
    | false => exact alike_closeResponse hp callbacks start n response none
    | true =>
      refine alike_bind (alike_offer hp response) ?_
      rintro trigger _ rfl
      exact alike_closeResponse hp callbacks start n response trigger

/-- Both stage like transmissions. -/
theorem alike_opening (callbacks : Slot Callbacks) (n : Nat) :
    L.Alike C S (opening h₁ cancellable₁ callbacks n) (opening h₂ cancellable₂ callbacks n) := by
  unfold opening
  refine alike_seq hp.check (alike_bind hp.stage fun staged₁ staged₂ hstaged => ?_)
  refine alike_bind alike_request fun r₁ r₂ hr => ?_
  unfold requestInfo
  rw [(L.course hr).url, (L.course hr).method, (L.course hr).retries]
  exact alike_seq (alike_tell fun id => hp.surroundings.onRequest id _) (alike_pure hstaged)

/-- Like transmissions are answered in the same way. -/
theorem alike_exchange {staged₁ staged₂ : Staged} (hstaged : S staged₁ staged₂) :
    L.Alike C Eq (exchange h₁ staged₁) (exchange h₂ staged₂) := by
  unfold exchange
  refine alike_bind (alike_capture (hp.transmit staged₁ staged₂ hstaged)) fun y₁ y₂ hends => ?_
  cases hends with
  | error fault => exact alike_pure rfl
  | ok like =>
    subst like
    refine alike_bind alike_request fun r₁ r₂ hr => ?_
    rw [(L.course hr).url, (L.course hr).method]
    exact alike_pure rfl

theorem alike_attempt (callbacks : Slot Callbacks) (start : R) (n : Nat) :
    L.Alike C Eq (attempt h₁ cancellable₁ callbacks start n)
      (attempt h₂ cancellable₂ callbacks start n) := by
  rw [attempt_eq, attempt_eq]
  refine alike_bind (alike_opening hp callbacks n) fun staged₁ staged₂ hstaged => ?_
  refine alike_bind (alike_exchange hp hstaged) ?_
  rintro answer _ rfl
  cases answer with
  | error fault => exact alike_takeFailure hp callbacks start n fault
  | ok response => exact alike_takeResponse hp callbacks start n response

theorem alike_attempts (callbacks : Slot Callbacks) (start : R) (limit n : Nat) :
    L.Alike C Eq (attempts h₁ cancellable₁ callbacks start limit n)
      (attempts h₂ cancellable₂ callbacks start limit n) := by
  induction limit generalizing n with
  | zero => exact alike_pure rfl
  | succ limit ih =>
    unfold attempts
    refine alike_bind (alike_attempt hp callbacks start n) ?_
    rintro answer _ rfl
    cases answer with
    | some response => exact alike_pure rfl
    | none => exact ih (n + 1)

/-! ## Section 8: Executions -/

theorem alike_checkMethod : L.Alike C Eq (checkMethod h₁) (checkMethod h₂) := by
  have hh := hp.surroundings
  unfold checkMethod
  refine alike_bind alike_request fun r₁ r₂ hr => ?_
  rw [(L.course hr).method, hh.supports, hh.transportName]
  cases knownMethods.contains r₂.method with
  | false => exact alike_throw _
  | true =>
    cases optionalMethods.contains r₂.method with
    | false => exact alike_pure rfl
    | true =>
      exact alike_seq (alike_checkTransport _)
        (alike_ite Iff.rfl (alike_throw _) (alike_pure rfl))

theorem alike_resetPolicy : L.Alike C Eq (resetPolicy h₁) (resetPolicy h₂) := by
  unfold resetPolicy
  refine alike_bind alike_request fun r₁ r₂ hr => ?_
  rw [(L.course hr).policy]
  cases r₂.policy with
  | empty => exact alike_pure rfl
  | other v => exact alike_throw _
  | hook policy => exact alike_seq (alike_emit rfl) (hp.surroundings.resetPolicy policy).uncut

/-- Executions of like requests are alike. -/
theorem alike_execute (limit : Nat) :
    L.Alike C Eq (execute h₁ cancellable₁ limit) (execute h₂ cancellable₂ limit) := by
  unfold execute
  refine alike_seq (alike_checkMethod hp) (alike_seq (alike_resetPolicy hp) ?_)
  refine alike_bind alike_request fun r₁ r₂ hr => alike_bind alike_state fun s₁ s₂ hs => ?_
  rw [(L.course hr).callbacks, hp.surroundings.now hs]
  exact alike_attempts hp r₂.callbacks (h₂.now s₂) limit 0

end loop

end Redial.Engine
