import Redial.Engine.Execution
import Redial.Proofs.Account.Reports
import Redial.Proofs.Outcome

/-! # Surroundings with a wider state

    An execution carries the state of its surroundings along and never looks into it.
    So surroundings may keep more in their state than others and still do the same: a
    map `view` reads the state of the others off the wider one, and every call goes
    through it.  `Run.Widens` says this of a run, `Hooks.Widens` of the surroundings.

    One lemma per combinator, one per function of the engine, and the loop by induction
    on the limit: an execution on the wider surroundings is the one on the others. -/

namespace Redial

variable {ε R σ τ α β : Type}

/-! ## Section 1: Runs on a wider state -/

/-- The outcome as the narrower surroundings see it. -/
def Outcome.viewed (view : τ → σ) (o : Outcome ε τ α) : Outcome ε σ α :=
  ⟨o.result, o.request, view o.state, o.events⟩

/-- The first run does on wider states what the second one does on those read off them. -/
def Run.Widens (view : τ → σ) (x : Run ε τ α) (y : Run ε σ α) : Prop :=
  ∀ r t, (x r t).viewed view = y r (view t)

namespace Run

variable {view : τ → σ}

theorem widens_pure (a : α) : Widens view (pure a : Run ε τ α) (pure a) := fun _ _ => rfl

theorem widens_throw (f : Fault) : Widens view (throw f : Run ε τ α) (throw f) := fun _ _ => rfl

theorem widens_lift (x : Except Fault α) : Widens view (lift x : Run ε τ α) (lift x) := by
  cases x with
  | error f => exact widens_throw f
  | ok a => exact widens_pure a

theorem widens_request : Widens view (request : Run ε τ Request) request := fun _ _ => rfl

theorem widens_setRequest (r : Request) :
    Widens view (setRequest r : Run ε τ Unit) (setRequest r) := fun _ _ => rfl

theorem widens_setState (t : τ) :
    Widens view (setState t : Run ε τ Unit) (setState (view t)) := fun _ _ => rfl

theorem widens_emit (e : ε) : Widens view (emit e : Run ε τ Unit) (emit e) := fun _ _ => rfl

/-- What is done with the state is done with what is read off it. -/
theorem widens_state {f : τ → Run ε τ α} {g : σ → Run ε σ α}
    (hf : ∀ t, Widens view (f t) (g (view t))) : Widens view (state >>= f) (state >>= g) :=
  fun r t => hf t r t

theorem widens_bind {x : Run ε τ α} {y : Run ε σ α} {f : α → Run ε τ β} {g : α → Run ε σ β}
    (hx : Widens view x y) (hf : ∀ a, Widens view (f a) (g a)) :
    Widens view (x >>= f) (y >>= g) := by
  intro r t
  have hfirst := hx r t
  rcases hrun : x r t with ⟨fault | a, r', t', events⟩
  · rw [hrun] at hfirst
    rw [bind_error hrun, bind_error hfirst.symm]
    rfl
  · rw [hrun] at hfirst
    rw [bind_ok hrun, bind_ok hfirst.symm, ← hf a r' t']
    rfl

/-- One after the other, if nothing of the first is used. -/
theorem widens_seq {x : Run ε τ α} {y : Run ε σ α} {x' : Run ε τ β} {y' : Run ε σ β}
    (hx : Widens view x y) (hx' : Widens view x' y') :
    Widens view (x >>= fun _ => x') (y >>= fun _ => y') := widens_bind hx fun _ => hx'

theorem widens_ite {p : Prop} [Decidable p] {x x' : Run ε τ α} {y y' : Run ε σ α}
    (hx : Widens view x y) (hx' : Widens view x' y') :
    Widens view (if p then x else x') (if p then y else y') := by
  by_cases hp : p
  · rwa [if_pos hp, if_pos hp]
  · rwa [if_neg hp, if_neg hp]

theorem widens_ofHook {x : Hook τ α} {y : Hook σ α} (hx : Widens view x y) :
    Widens view (ofHook x : Run (Event R) τ α) (ofHook y) := by
  intro r t
  have hcall := hx r t
  rcases hrun : x r t with ⟨result, r', t', notes⟩
  rw [hrun] at hcall
  rw [ofHook_eq hrun, ofHook_eq hcall.symm]
  rfl

theorem widens_capture {p : Fault → Bool} {x : Run ε τ α} {y : Run ε σ α}
    (hx : Widens view x y) : Widens view (capture p x) (capture p y) := by
  intro r t
  have hrun' := hx r t
  rcases hrun : x r t with ⟨fault | a, r', t', events⟩
  · rw [hrun] at hrun'
    rw [capture_error hrun, capture_error hrun'.symm]
    rfl
  · rw [hrun] at hrun'
    rw [capture_ok hrun, capture_ok hrun'.symm]
    rfl

theorem widens_log (debug : Bool) (channel : Channel) (text : String) :
    Widens view (log debug channel text : Hook τ Unit) (log debug channel text) := by
  unfold log
  exact widens_ite (widens_emit _) (widens_pure ())

end Run

/-- The first surroundings do on wider states what the second ones do on those read off
    them. -/
structure Hooks.Widens (view : τ → σ) (k : Hooks R τ) (h : Hooks R σ) : Prop where
  debug : k.debug = h.debug
  now : ∀ t, k.now t = h.now (view t)
  sleep : ∀ span t, view (k.sleep span t) = h.sleep span (view t)
  checkPause : ∀ cancellable span t,
    k.checkPause cancellable span t = h.checkPause cancellable span (view t)
  isCancelled : ∀ t, k.isCancelled t = h.isCancelled (view t)
  wait : ∀ span t, h.wait span (view t) = ((k.wait span t).1, view (k.wait span t).2)
  decode : k.decode = h.decode
  compress : k.compress = h.compress
  writeSource : ∀ id, Run.Widens view (k.writeSource id) (h.writeSource id)
  supports : k.supports = h.supports
  transportName : k.transportName = h.transportName
  announce : ∀ staged, Run.Widens view (k.announce staged) (h.announce staged)
  readsBody : k.readsBody = h.readsBody
  exchange : ∀ staged body, Run.Widens view (k.exchange staged body) (h.exchange staged body)
  resetPolicy : ∀ id, Run.Widens view (k.resetPolicy id) (h.resetPolicy id)
  isBackoffRequired : ∀ id status,
    Run.Widens view (k.isBackoffRequired id status) (h.isBackoffRequired id status)
  nextBackoff : ∀ id, Run.Widens view (k.nextBackoff id) (h.nextBackoff id)
  handle : ∀ id response supportsRetry,
    Run.Widens view (k.handle id response supportsRetry) (h.handle id response supportsRetry)
  onRequest : ∀ id info, Run.Widens view (k.onRequest id info) (h.onRequest id info)
  onRetry : ∀ id info, Run.Widens view (k.onRetry id info) (h.onRetry id info)
  onSuccess : ∀ id info, Run.Widens view (k.onSuccess id info) (h.onSuccess id info)
  onFailure : ∀ id info, Run.Widens view (k.onFailure id info) (h.onFailure id info)

namespace Engine

open Run

variable {view : τ → σ} {k : Hooks R τ} {h : Hooks R σ}

/-! ## Section 2: Staging and telling -/

theorem widens_logAll (debug : Bool) (channel : Channel) (texts : List String) :
    Widens view (logAll debug channel texts) (logAll debug channel texts) := by
  induction texts with
  | nil => exact widens_pure ()
  | cons text texts ih => exact widens_seq (widens_log debug channel text) ih

theorem widens_checkTransport (wanted : String) :
    Widens view (checkTransport wanted : Run (Event R) τ Unit) (checkTransport wanted) := by
  unfold checkTransport
  refine widens_bind widens_request fun r => ?_
  cases r.replacement with
  | none => exact widens_pure ()
  | some v => exact widens_throw _

theorem widens_tell {callbacks : Slot Callbacks} {choose : Callbacks → Option Nat}
    {wanted : String} {event : Event R} {call' : Nat → Hook τ Unit} {call : Nat → Hook σ Unit}
    (hcall : ∀ id, Widens view (call' id) (call id)) :
    Widens view (tell callbacks choose wanted event call')
      (tell callbacks choose wanted event call) := by
  unfold tell
  cases callbacks with
  | empty => exact widens_pure ()
  | other v => exact widens_ite (widens_throw _) (widens_pure ())
  | hook callbacks =>
    dsimp only
    cases choose callbacks with
    | none => exact widens_pure ()
    | some id => exact widens_seq (widens_emit event) (widens_ofHook (hcall id))

variable (hk : k.Widens view h)
include hk

theorem widens_stage : Widens view (stage k) (stage h) := by
  unfold stage
  rw [hk.debug]
  refine widens_seq (widens_checkTransport _) (widens_bind widens_request fun r => ?_)
  refine widens_seq (widens_emit _) ?_
  exact widens_ite (widens_seq (widens_ofHook (widens_logAll _ _ _)) (widens_pure _))
    (widens_pure _)

theorem widens_logRequest (text : String) : Widens view (logRequest k text) (logRequest h text) := by
  unfold logRequest
  rw [hk.debug]
  exact widens_bind widens_request fun r => widens_ofHook (widens_log _ _ _)

/-! ## Section 3: The exchange -/

theorem widens_writeContent (c : Content) : Widens view (writeContent k c) (writeContent h c) := by
  induction c with
  | bytes mediaType data => exact widens_pure data
  | source src => exact hk.writeSource src.id
  | gzip inner ih =>
    unfold writeContent
    rw [hk.compress]
    exact widens_bind ih fun data => widens_pure _
  | logging inner limit ih =>
    unfold writeContent
    rw [hk.debug, hk.decode]
    refine widens_bind ih fun data => widens_bind (widens_lift _) fun line => ?_
    cases line with
    | none => exact widens_pure data
    | some text => exact widens_seq (widens_log _ _ _) (widens_pure data)

theorem widens_readBody (staged : Staged) :
    Widens view (readBody k staged) (readBody h staged) := by
  unfold readBody
  rw [hk.readsBody]
  split
  · exact widens_writeContent hk _
  · exact widens_pure []

theorem widens_exchange (staged : Staged) :
    Widens view (exchange k staged) (exchange h staged) := by
  unfold exchange transmit
  refine widens_bind (widens_capture ?_) fun answer => ?_
  · refine widens_seq (widens_emit _) (widens_seq (widens_ofHook (hk.announce staged)) ?_)
    refine widens_bind (widens_ofHook (widens_readBody hk staged)) fun body => ?_
    exact widens_ofHook (hk.exchange staged body)
  · cases answer with
    | error fault => exact widens_pure _
    | ok raw => exact widens_bind widens_request fun r => widens_pure _

/-! ## Section 4: Triggers -/

mutual

theorem widens_ask (response : Response) (supportsRetry : Bool) : ∀ handler,
    Widens view (ask k response supportsRetry handler) (ask h response supportsRetry handler)
  | .leaf _ id => by
    unfold ask
    exact hk.handle id response supportsRetry
  | .composite parts => by
    unfold ask
    exact widens_askInOrder response supportsRetry parts

theorem widens_askInOrder (response : Response) (supportsRetry : Bool) : ∀ parts,
    Widens view (askInOrder k response supportsRetry parts)
      (askInOrder h response supportsRetry parts)
  | [] => by
    unfold askInOrder
    exact widens_pure false
  | part :: parts => by
    unfold askInOrder
    rw [hk.debug]
    refine widens_bind (widens_ask response supportsRetry part) fun claimed => ?_
    exact widens_ite (widens_seq (widens_log _ _ _) (widens_pure true))
      (widens_askInOrder response supportsRetry parts)

end

theorem widens_askHandler (response : Response) :
    Widens view (askHandler k response) (askHandler h response) := by
  unfold askHandler
  refine widens_bind widens_request fun r => ?_
  cases r.handler with
  | empty => exact widens_pure false
  | hook handler => exact widens_ofHook (widens_ask hk response true handler)
  | other v => exact widens_throw _

theorem widens_checkCancelled (cancellable : Bool) :
    Widens view (checkCancelled k cancellable) (checkCancelled h cancellable) := by
  unfold checkCancelled
  refine widens_state fun t => ?_
  -- the wider state is looked at through the surroundings only
  rw [hk.isCancelled]
  exact widens_ite (widens_bind widens_request fun r => widens_throw _) (widens_pure ())

variable [Arith R]

theorem widens_pause (cancellable : Bool) (millis : Number R) :
    Widens view (pause k cancellable millis) (pause h cancellable millis) := by
  unfold pause
  rw [hk.debug]
  refine widens_bind (widens_lift _) fun span => ?_
  refine widens_seq (widens_ofHook (widens_log _ _ _)) (widens_state fun t => ?_)
  rw [hk.checkPause, hk.wait, ← hk.sleep]
  refine widens_seq (widens_lift _) ?_
  refine widens_ite ?_ (widens_seq (widens_emit _) (widens_setState _))
  refine widens_seq (widens_emit _) (widens_seq (widens_setState _) ?_)
  exact widens_ite (widens_throw _) (widens_pure ())

theorem widens_backOff (cancellable : Bool) (status : Int) :
    Widens view (backOff k cancellable status) (backOff h cancellable status) := by
  unfold backOff
  refine widens_bind widens_request fun r => ?_
  cases r.policy with
  | empty => exact widens_pure none
  | other v => exact widens_throw _
  | hook policy =>
    refine widens_bind (widens_ofHook (hk.isBackoffRequired policy status)) fun required => ?_
    refine widens_seq (widens_emit _) (widens_ite (widens_pure none) ?_)
    refine widens_bind (widens_ofHook (hk.nextBackoff policy)) fun millis => ?_
    refine widens_seq (widens_emit _) (widens_ite (widens_pure none) ?_)
    refine widens_seq (widens_pause hk cancellable millis) ?_
    exact widens_bind (widens_lift _) fun waited => widens_pure _

omit [Arith R] in
theorem widens_followRedirect (status : Int) (headers : Headers) :
    Widens view (followRedirect k.debug status headers)
      (followRedirect h.debug status headers) := by
  unfold followRedirect
  rw [hk.debug]
  refine widens_bind widens_request fun r => widens_bind (widens_lift _) fun target => ?_
  cases target with
  | none => exact widens_pure false
  | some target =>
    exact widens_seq (widens_log _ _ _) (widens_seq (widens_setRequest _) (widens_pure true))

theorem widens_offer (cancellable : Bool) (response : Response) :
    Widens view (offer k cancellable response) (offer h cancellable response) := by
  unfold offer
  refine widens_bind (widens_askHandler hk response) fun claimed => ?_
  refine widens_ite (widens_pure _) ?_
  refine widens_bind (widens_backOff hk cancellable response.status) fun waited => ?_
  cases waited with
  | some waited => exact widens_pure _
  | none =>
    have hmoved := widens_followRedirect hk response.status response.headers
    exact widens_bind (widens_ofHook hmoved) fun moved =>
      widens_ite (widens_pure _) (widens_pure none)

omit [Arith R] hk in
theorem widens_spendRetry : Widens view (spendRetry : Run (Event R) τ Unit) spendRetry := by
  unfold spendRetry
  refine widens_bind widens_request fun r => widens_bind (widens_lift _) fun left => ?_
  exact widens_bind (widens_lift _) fun r => widens_setRequest r

omit [Arith R] in
theorem widens_retry (callbacks : Slot Callbacks) (n : Nat) (reason : Reason) (waited : R)
    (error : Option Fault) (status : Option Int) :
    Widens view (retry k callbacks n reason waited error status)
      (retry h callbacks n reason waited error status) := by
  unfold retry
  refine widens_seq widens_spendRetry (widens_bind widens_request fun r => ?_)
  exact widens_seq (widens_logRequest hk _) (widens_tell fun id => hk.onRetry id _)

/-! ## Section 5: Endings -/

section endings

variable (callbacks : Slot Callbacks) (start : R) (n : Nat)

theorem widens_fail (error : Fault) (status : Option Int) :
    Widens view (fail k callbacks start n error status)
      (fail h callbacks start n error status) := by
  unfold fail
  refine widens_seq (widens_logRequest hk _) (widens_bind widens_request fun r => ?_)
  refine widens_state fun t => ?_
  rw [hk.now]
  exact widens_seq (widens_tell fun id => hk.onFailure id _) (widens_throw error)

theorem widens_succeed (response : Response) :
    Widens view (succeed k callbacks start n response)
      (succeed h callbacks start n response) := by
  unfold succeed
  refine widens_seq (widens_logRequest hk _) (widens_bind widens_request fun r => ?_)
  refine widens_state fun t => ?_
  rw [hk.now]
  exact widens_tell fun id => hk.onSuccess id _

theorem widens_conclude (response : Response) :
    Widens view (conclude k callbacks start n response)
      (conclude h callbacks start n response) := by
  unfold conclude
  rw [hk.decode]
  refine widens_bind widens_request fun r => widens_ite ?_ (widens_pure ())
  exact widens_bind (widens_lift _) fun error => widens_fail hk callbacks start n _ _

theorem widens_takeFailure (error : Fault) :
    Widens view (takeFailure k callbacks start n error)
      (takeFailure h callbacks start n error) := by
  have hretry := widens_retry hk callbacks n .failure Arith.zero (some error) none
  have hagain := widens_seq hretry (widens_pure (none : Option Response))
  unfold takeFailure
  refine widens_bind widens_request fun r => ?_
  exact widens_ite (widens_seq (widens_fail hk callbacks start n error none) hagain) hagain

theorem widens_closeResponse (response : Response) (trigger : Option (Reason × R)) :
    Widens view (closeResponse k callbacks start n response trigger)
      (closeResponse h callbacks start n response trigger) := by
  cases trigger with
  | none => exact widens_seq (widens_conclude hk callbacks start n response) (widens_pure _)
  | some trigger =>
    have hretry := widens_retry hk callbacks n trigger.1 trigger.2 none (some response.status)
    exact widens_seq hretry (widens_pure none)

theorem widens_takeResponse (cancellable : Bool) (response : Response) :
    Widens view (takeResponse k cancellable callbacks start n response)
      (takeResponse h cancellable callbacks start n response) := by
  have hclose := widens_closeResponse hk callbacks start n response
  unfold takeResponse
  cases response.isSuccess with
  | true => exact widens_seq (widens_succeed hk callbacks start n response) (widens_pure _)
  | false =>
    rw [if_neg Bool.false_ne_true, if_neg Bool.false_ne_true]
    refine widens_bind widens_request fun r => ?_
    cases r.retries.isPositive with
    | false => exact hclose none
    | true => exact widens_bind (widens_offer hk cancellable response) hclose

/-! ## Section 6: Executions -/

omit [Arith R] in
theorem widens_opening (cancellable : Bool) :
    Widens view (opening k cancellable callbacks n) (opening h cancellable callbacks n) := by
  unfold opening
  refine widens_seq (widens_checkCancelled hk cancellable) ?_
  refine widens_bind (widens_stage hk) fun staged => widens_bind widens_request fun r => ?_
  exact widens_seq (widens_tell fun id => hk.onRequest id _) (widens_pure staged)

theorem widens_attempt (cancellable : Bool) :
    Widens view (attempt k cancellable callbacks start n)
      (attempt h cancellable callbacks start n) := by
  rw [attempt_eq, attempt_eq]
  refine widens_bind (widens_opening hk callbacks n cancellable) fun staged => ?_
  refine widens_bind (widens_exchange hk staged) fun answer => ?_
  cases answer with
  | error fault => exact widens_takeFailure hk callbacks start n fault
  | ok response => exact widens_takeResponse hk callbacks start n cancellable response

theorem widens_attempts (cancellable : Bool) (limit : Nat) :
    Widens view (attempts k cancellable callbacks start limit n)
      (attempts h cancellable callbacks start limit n) := by
  induction limit generalizing n with
  | zero => exact widens_pure none
  | succ limit ih =>
    unfold attempts
    refine widens_bind (widens_attempt hk callbacks start n cancellable) fun answer => ?_
    cases answer with
    | some response => exact widens_pure _
    | none => exact ih (n + 1)

end endings

omit [Arith R] in
theorem widens_checkMethod : Widens view (checkMethod k) (checkMethod h) := by
  unfold checkMethod
  rw [hk.supports, hk.transportName]
  refine widens_bind widens_request fun r => ?_
  -- what follows the first check stands in both of its branches, so the cases are split
  cases knownMethods.contains r.method with
  | false => exact widens_throw _
  | true =>
    cases optionalMethods.contains r.method with
    | false => exact widens_pure ()
    | true =>
      exact widens_seq (widens_checkTransport _) (widens_ite (widens_throw _) (widens_pure ()))

omit [Arith R] in
theorem widens_resetPolicy : Widens view (resetPolicy k) (resetPolicy h) := by
  unfold resetPolicy
  refine widens_bind widens_request fun r => ?_
  cases r.policy with
  | empty => exact widens_pure ()
  | other v => exact widens_throw _
  | hook policy => exact widens_seq (widens_emit _) (widens_ofHook (hk.resetPolicy policy))

/-- An execution on surroundings with a wider state is the one on the narrower ones. -/
theorem widens_execute (cancellable : Bool) (limit : Nat) :
    Widens view (execute k cancellable limit) (execute h cancellable limit) := by
  unfold execute
  refine widens_seq (widens_checkMethod hk) (widens_seq (widens_resetPolicy hk) ?_)
  refine widens_bind widens_request fun r => widens_state fun t => ?_
  -- both start at the same time
  rw [hk.now]
  exact widens_attempts hk r.callbacks (h.now (view t)) 0 cancellable limit

end Engine

/-! ## Section 7: Something else beside the state -/

/-- A call on a state that something else is kept beside. -/
def Run.beside {ε τ : Type} (x : Run ε σ α) : Run ε (σ × τ) α := fun r s =>
  ⟨(x r s.1).result, (x r s.1).request, ((x r s.1).state, s.2), (x r s.1).events⟩

/-- The same surroundings, with something else kept beside their state. -/
def Hooks.beside (τ : Type) (h : Hooks R σ) : Hooks R (σ × τ) where
  debug := h.debug
  now s := h.now s.1
  sleep span s := (h.sleep span s.1, s.2)
  checkPause cancellable span s := h.checkPause cancellable span s.1
  isCancelled s := h.isCancelled s.1
  wait span s := ((h.wait span s.1).1, (h.wait span s.1).2, s.2)
  decode := h.decode
  compress := h.compress
  writeSource id := (h.writeSource id).beside
  supports := h.supports
  transportName := h.transportName
  announce staged := (h.announce staged).beside
  readsBody := h.readsBody
  exchange staged body := (h.exchange staged body).beside
  resetPolicy id := (h.resetPolicy id).beside
  isBackoffRequired id status := (h.isBackoffRequired id status).beside
  nextBackoff id := (h.nextBackoff id).beside
  handle id response supportsRetry := (h.handle id response supportsRetry).beside
  onRequest id info := (h.onRequest id info).beside
  onRetry id info := (h.onRetry id info).beside
  onSuccess id info := (h.onSuccess id info).beside
  onFailure id info := (h.onFailure id info).beside

theorem Run.beside_widens (x : Run ε σ α) : Run.Widens (Prod.fst : σ × τ → σ) x.beside x :=
  fun _ _ => rfl

theorem Run.preserves_beside {P : Request → Prop} {x : Run ε σ α} (hx : x.Preserves P) :
    (x.beside : Run ε (σ × τ) α).Preserves P := fun r s hr => hx r s.1 hr

/-- What is kept beside the state changes nothing. -/
theorem Hooks.beside_widens (τ : Type) (h : Hooks R σ) : (h.beside τ).Widens Prod.fst h where
  debug := rfl
  now _ := rfl
  sleep _ _ := rfl
  checkPause _ _ _ := rfl
  isCancelled _ := rfl
  wait _ _ := rfl
  decode := rfl
  compress := rfl
  writeSource id := (h.writeSource id).beside_widens
  supports := rfl
  transportName := rfl
  announce staged := (h.announce staged).beside_widens
  readsBody := rfl
  exchange staged body := (h.exchange staged body).beside_widens
  resetPolicy id := (h.resetPolicy id).beside_widens
  isBackoffRequired id status := (h.isBackoffRequired id status).beside_widens
  nextBackoff id := (h.nextBackoff id).beside_widens
  handle id response supportsRetry := (h.handle id response supportsRetry).beside_widens
  onRequest id info := (h.onRequest id info).beside_widens
  onRetry id info := (h.onRetry id info).beside_widens
  onSuccess id info := (h.onSuccess id info).beside_widens
  onFailure id info := (h.onFailure id info).beside_widens

end Redial
