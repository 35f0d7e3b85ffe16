import Redial.Engine.Execution
import Redial.Proofs.Outcome

/-! # What an execution leaves alone

    An execution changes the request in two places only: it takes one from the
    budget for every retry, and an accepted redirect moves the request.  All else is
    changed by the surroundings.  So whatever the surroundings keep is kept by every
    part of an attempt, as far as those two places do not touch it. -/

namespace Redial.Engine

variable {R σ : Type} {h : Hooks R σ} {P : Request → Prop}

/-! ## Section 1: Handlers and callbacks -/

mutual

theorem preserves_ask (hp : h.Preserve P) (response : Response) (supportsRetry : Bool) :
    ∀ handler, (ask h response supportsRetry handler).Preserves P
  | .leaf _ id => by
    unfold ask
    exact hp.handle id response supportsRetry
  | .composite parts => by
    unfold ask
    exact preserves_askInOrder hp response supportsRetry parts

theorem preserves_askInOrder (hp : h.Preserve P) (response : Response) (supportsRetry : Bool) :
    ∀ parts, (askInOrder h response supportsRetry parts).Preserves P
  | [] => by
    unfold askInOrder
    exact Run.preserves_pure false
  | part :: parts => by
    unfold askInOrder
    refine Run.preserves_bind (preserves_ask hp response supportsRetry part) fun claimed => ?_
    refine Run.preserves_ite ?_ ?_
    · exact Run.preserves_bind (Run.preserves_log _ _ _) fun _ => Run.preserves_pure true
    exact preserves_askInOrder hp response supportsRetry parts

end

theorem preserves_askHandler (hp : h.Preserve P) (response : Response) :
    (askHandler h response : Run (Event R) σ Bool).Preserves P := by
  unfold askHandler
  refine Run.preserves_bind Run.preserves_request fun r => ?_
  split
  · exact Run.preserves_pure false
  · exact Run.preserves_ofHook (preserves_ask hp response true _)
  · exact Run.preserves_throw _

theorem preserves_tell {callbacks : Slot Callbacks} {choose : Callbacks → Option Nat}
    {wanted : String} {event : Event R} {call : Nat → Hook σ Unit}
    (hcall : ∀ id, (call id).Preserves P) :
    (tell callbacks choose wanted event call).Preserves P := by
  unfold tell
  split
  · exact Run.preserves_pure ()
  · split
    · exact Run.preserves_pure ()
    · exact Run.preserves_bind (Run.preserves_emit _) fun _ => Run.preserves_ofHook (hcall _)
  · exact Run.preserves_ite (Run.preserves_throw _) (Run.preserves_pure ())

theorem preserves_logRequest (h : Hooks R σ) (text : String) : (logRequest h text).Preserves P := by
  unfold logRequest
  exact Run.preserves_bind Run.preserves_request fun r =>
    Run.preserves_ofHook (Run.preserves_log _ _ _)

/-! ## Section 2: Staging and transmitting -/

theorem preserves_logAll (debug : Bool) (channel : Channel) :
    ∀ texts, (logAll debug channel texts : Hook σ Unit).Preserves P
  | [] => Run.preserves_pure ()
  | _ :: texts =>
    Run.preserves_bind (Run.preserves_log _ _ _) fun _ => preserves_logAll debug channel texts

theorem preserves_checkCancelled (cancellable : Bool) :
    (checkCancelled h cancellable).Preserves P := by
  unfold checkCancelled
  refine Run.preserves_bind Run.preserves_state fun s => ?_
  exact Run.preserves_ite (Run.preserves_bind Run.preserves_request fun r => Run.preserves_throw _)
    (Run.preserves_pure ())

theorem preserves_checkTransport (wanted : String) :
    (checkTransport wanted : Run (Event R) σ Unit).Preserves P := by
  unfold checkTransport
  refine Run.preserves_bind Run.preserves_request fun r => ?_
  split
  · exact Run.preserves_pure ()
  · exact Run.preserves_throw _

theorem preserves_stage : (stage h).Preserves P := by
  unfold stage
  refine Run.preserves_bind (preserves_checkTransport _) fun _ => ?_
  refine Run.preserves_bind Run.preserves_request fun r => ?_
  refine Run.preserves_bind (Run.preserves_emit _) fun _ => ?_
  split
  · exact Run.preserves_bind (Run.preserves_ofHook (preserves_logAll _ _ _)) fun _ =>
      Run.preserves_pure _
  · exact Run.preserves_pure _

theorem preserves_writeContent (hp : h.Preserve P) : ∀ c, (writeContent h c).Preserves P
  | .bytes _ data => Run.preserves_pure data
  | .source s => hp.writeSource s.id
  | .gzip inner =>
    Run.preserves_bind (preserves_writeContent hp inner) fun _ => Run.preserves_pure _
  | .logging inner limit => by
    unfold writeContent
    refine Run.preserves_bind (preserves_writeContent hp inner) fun data => ?_
    refine Run.preserves_bind (Run.preserves_lift _) fun line => ?_
    split
    · exact Run.preserves_pure _
    · exact Run.preserves_bind (Run.preserves_log _ _ _) fun _ => Run.preserves_pure _

theorem preserves_transmit (hp : h.Preserve P) (staged : Staged) :
    (transmit h staged).Preserves P := by
  unfold transmit
  refine Run.preserves_bind (Run.preserves_emit _) fun _ => ?_
  refine Run.preserves_bind (Run.preserves_ofHook (hp.announce staged)) fun _ => ?_
  refine Run.preserves_bind (Run.preserves_ofHook ?_) fun body =>
    Run.preserves_ofHook (hp.exchange staged body)
  unfold readBody
  split
  · exact preserves_writeContent hp _
  · exact Run.preserves_pure _

/-! ## Section 3: Triggers -/

variable [Arith R]

theorem preserves_pause (cancellable : Bool) (millis : Number R) :
    (pause h cancellable millis).Preserves P := by
  unfold pause
  refine Run.preserves_bind (Run.preserves_lift _) fun span => ?_
  refine Run.preserves_bind (Run.preserves_ofHook (Run.preserves_log _ _ _)) fun _ => ?_
  refine Run.preserves_bind Run.preserves_state fun s => ?_
  refine Run.preserves_bind (Run.preserves_lift _) fun _ => ?_
  refine Run.preserves_ite ?_
    (Run.preserves_bind (Run.preserves_emit _) fun _ => Run.preserves_setState _)
  refine Run.preserves_bind (Run.preserves_emit _) fun _ => ?_
  exact Run.preserves_bind (Run.preserves_setState _) fun _ =>
    Run.preserves_ite (Run.preserves_throw _) (Run.preserves_pure ())

theorem preserves_backOff (hp : h.Preserve P) (cancellable : Bool) (status : Int) :
    (backOff h cancellable status).Preserves P := by
  unfold backOff
  refine Run.preserves_bind Run.preserves_request fun r => ?_
  split
  · exact Run.preserves_pure none
  · exact Run.preserves_throw _
  · refine Run.preserves_bind (Run.preserves_ofHook (hp.isBackoffRequired _ status))
      fun required => ?_
    refine Run.preserves_bind (Run.preserves_emit _) fun _ => ?_
    refine Run.preserves_ite (Run.preserves_pure none) ?_
    refine Run.preserves_bind (Run.preserves_ofHook (hp.nextBackoff _)) fun millis => ?_
    refine Run.preserves_bind (Run.preserves_emit _) fun _ => ?_
    refine Run.preserves_ite (Run.preserves_pure none) ?_
    refine Run.preserves_bind (preserves_pause cancellable millis) fun _ => ?_
    exact Run.preserves_bind (Run.preserves_lift _) fun _ => Run.preserves_pure _

/-- Offering a response leaves alone what neither the surroundings nor a redirect
    change. -/
theorem preserves_offer (hp : h.Preserve P)
    (hmoved : ∀ r status target, P r → P (Request.redirected r status target))
    (cancellable : Bool) (response : Response) : (offer h cancellable response).Preserves P := by
  have hrule :
      (followRedirect h.debug response.status response.headers : Hook σ Bool).Preserves P := by
    intro r s hr
    unfold followRedirect
    simp only [Run.request_bind]
    match r.redirectTarget response.status response.headers with
    | .error f => exact hr
    | .ok none => exact hr
    | .ok (some target) =>
      simp only [Run.lift_ok, pure_bind, Run.bind_ok (Run.log_apply _ _ _ r s)]
      exact hmoved r response.status target hr
  unfold offer
  refine Run.preserves_bind (preserves_askHandler hp response) fun claimed => ?_
  refine Run.preserves_ite (Run.preserves_pure _) ?_
  refine Run.preserves_bind (preserves_backOff hp cancellable response.status) fun waited => ?_
  split
  · exact Run.preserves_pure _
  · refine Run.preserves_bind (Run.preserves_ofHook hrule) fun moved => ?_
    exact Run.preserves_ite (Run.preserves_pure _) (Run.preserves_pure _)

end Redial.Engine
