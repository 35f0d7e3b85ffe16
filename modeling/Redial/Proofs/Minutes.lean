import Redial.Proofs.Endings
import Redial.Proofs.Logging
import Redial.Proofs.Likeness.Travel
import Redial.Proofs.Widening

/-! # Minutes of a run

    Surroundings can keep minutes of what passes between them and an execution: which
    transmission they were handed, what they returned, and which response they were
    given.  `Hooks.Minuted` says that the minutes are kept, wherever in the state that
    is; `Hooks.minuted` keeps them beside any other state, and changes nothing else.

    The parts of an attempt are then told apart by what they add to the minutes.  Most
    add nothing.  Offering a response and reporting a success give that response any
    number of times and no other.  The same passes over the parts find the faults that
    they can raise, so both are carried together: `Run.Leaves`. -/

namespace Redial

/-! ## Section 1: Minutes -/

/-- What passes between an execution and its surroundings. -/
inductive Minute where
  /-- The transport was handed a transmission. -/
  | handed (staged : Staged)
  /-- The transport returned the result of the exchange. -/
  | returned (raw : RawResponse)
  /-- A handler or a callback was given a response. -/
  | given (response : Response)

/-- The transmissions that were handed over, in order. -/
def handed (minutes : List Minute) : List Staged :=
  minutes.filterMap fun
    | .handed staged => some staged
    | _ => none

theorem handed_append (xs ys : List Minute) : handed (xs ++ ys) = handed xs ++ handed ys :=
  List.filterMap_append

/-- What an exchange adds to the minutes. -/
def receipt : Except Fault RawResponse → List Minute
  | .ok raw => [.returned raw]
  | .error _ => []

variable {R σ α β : Type}

/-- Surroundings that keep minutes in their state. -/
structure Hooks.Minuted (h : Hooks R σ) (minutes : σ → List Minute) : Prop where
  sleep : ∀ span s, minutes (h.sleep span s) = minutes s
  wait : ∀ span s, minutes (h.wait span s).2 = minutes s
  writeSource : ∀ id r s, minutes (h.writeSource id r s).state = minutes s
  announce : ∀ staged r s, minutes (h.announce staged r s).state = minutes s ++ [.handed staged]
  exchange : ∀ staged body r s, minutes (h.exchange staged body r s).state =
    minutes s ++ receipt (h.exchange staged body r s).result
  resetPolicy : ∀ id r s, minutes (h.resetPolicy id r s).state = minutes s
  isBackoffRequired : ∀ id status r s,
    minutes (h.isBackoffRequired id status r s).state = minutes s
  nextBackoff : ∀ id r s, minutes (h.nextBackoff id r s).state = minutes s
  handle : ∀ id response supportsRetry r s,
    minutes (h.handle id response supportsRetry r s).state = minutes s ++ [.given response]
  onRequest : ∀ id info r s, minutes (h.onRequest id info r s).state = minutes s
  onRetry : ∀ id info r s, minutes (h.onRetry id info r s).state = minutes s
  onSuccess : ∀ id info r s,
    minutes (h.onSuccess id info r s).state = minutes s ++ [.given info.response]
  onFailure : ∀ id info r s, minutes (h.onFailure id info r s).state = minutes s

/-- A call with minutes beside the state. -/
def Run.minuted (x : Hook σ α) (entry : Except Fault α → List Minute) :
    Hook (σ × List Minute) α := fun r s =>
  let o := x r s.1
  ⟨o.result, o.request, (o.state, s.2 ++ entry o.result), o.events⟩

/-- The surroundings with minutes beside their state. -/
def Hooks.minuted (h : Hooks R σ) : Hooks R (σ × List Minute) where
  debug := h.debug
  now s := h.now s.1
  sleep span s := (h.sleep span s.1, s.2)
  checkPause cancellable span s := h.checkPause cancellable span s.1
  isCancelled s := h.isCancelled s.1
  wait span s := ((h.wait span s.1).1, (h.wait span s.1).2, s.2)
  decode := h.decode
  compress := h.compress
  writeSource id := Run.minuted (h.writeSource id) fun _ => []
  supports := h.supports
  transportName := h.transportName
  announce staged := Run.minuted (h.announce staged) fun _ => [.handed staged]
  readsBody := h.readsBody
  exchange staged body := Run.minuted (h.exchange staged body) receipt
  resetPolicy id := Run.minuted (h.resetPolicy id) fun _ => []
  isBackoffRequired id status := Run.minuted (h.isBackoffRequired id status) fun _ => []
  nextBackoff id := Run.minuted (h.nextBackoff id) fun _ => []
  handle id response supportsRetry :=
    Run.minuted (h.handle id response supportsRetry) fun _ => [.given response]
  onRequest id info := Run.minuted (h.onRequest id info) fun _ => []
  onRetry id info := Run.minuted (h.onRetry id info) fun _ => []
  onSuccess id info := Run.minuted (h.onSuccess id info) fun _ => [.given info.response]
  onFailure id info := Run.minuted (h.onFailure id info) fun _ => []

/-- Any surroundings can be made to keep minutes. -/
theorem Hooks.minuted_snd (h : Hooks R σ) : h.minuted.Minuted Prod.snd where
  sleep _ _ := rfl
  wait _ _ := rfl
  writeSource _ _ _ := List.append_nil _
  announce _ _ _ := rfl
  exchange _ _ _ _ := rfl
  resetPolicy _ _ _ := List.append_nil _
  isBackoffRequired _ _ _ _ := List.append_nil _
  nextBackoff _ _ _ := List.append_nil _
  handle _ _ _ _ _ := rfl
  onRequest _ _ _ _ := List.append_nil _
  onRetry _ _ _ _ := List.append_nil _
  onSuccess _ _ _ _ := rfl
  onFailure _ _ _ _ := List.append_nil _

/-- Keeping minutes changes nothing else. -/
theorem Hooks.minuted_widens (h : Hooks R σ) : h.minuted.Widens Prod.fst h where
  debug := rfl
  now _ := rfl
  sleep _ _ := rfl
  checkPause _ _ _ := rfl
  isCancelled _ := rfl
  wait _ _ := rfl
  decode := rfl
  compress := rfl
  writeSource _ _ _ := rfl
  supports := rfl
  transportName := rfl
  announce _ _ _ := rfl
  readsBody := rfl
  exchange _ _ _ _ := rfl
  resetPolicy _ _ _ := rfl
  isBackoffRequired _ _ _ _ := rfl
  nextBackoff _ _ _ := rfl
  handle _ _ _ _ _ := rfl
  onRequest _ _ _ _ := rfl
  onRetry _ _ _ _ := rfl
  onSuccess _ _ _ _ := rfl
  onFailure _ _ _ _ := rfl

/-- Surroundings that raise no fault but those of one kind. -/
structure Hooks.RaiseOnly (h : Hooks R σ) (P : Fault → Prop) : Prop where
  writeSource : ∀ id, (h.writeSource id).FailsOnly P
  announce : ∀ staged, (h.announce staged).FailsOnly P
  exchange : ∀ staged body, (h.exchange staged body).FailsOnly P
  resetPolicy : ∀ id, (h.resetPolicy id).FailsOnly P
  isBackoffRequired : ∀ id status, (h.isBackoffRequired id status).FailsOnly P
  nextBackoff : ∀ id, (h.nextBackoff id).FailsOnly P
  handle : ∀ id response supportsRetry, (h.handle id response supportsRetry).FailsOnly P
  onRequest : ∀ id info, (h.onRequest id info).FailsOnly P
  onRetry : ∀ id info, (h.onRetry id info).FailsOnly P
  onSuccess : ∀ id info, (h.onSuccess id info).FailsOnly P
  onFailure : ∀ id info, (h.onFailure id info).FailsOnly P

theorem Run.failsOnly_true {ε : Type} (x : Run ε σ α) : x.FailsOnly fun _ => True :=
  fun _ _ _ _ => trivial

/-- All surroundings raise some fault or other. -/
theorem Hooks.raiseOnly_true (h : Hooks R σ) : h.RaiseOnly fun _ => True := by
  constructor <;> intros <;> exact Run.failsOnly_true _

theorem Hooks.RaiseOnly.minuted {h : Hooks R σ} {P : Fault → Prop} (hr : h.RaiseOnly P) :
    h.minuted.RaiseOnly P where
  writeSource id _ s := hr.writeSource id _ s.1
  announce staged _ s := hr.announce staged _ s.1
  exchange staged body _ s := hr.exchange staged body _ s.1
  resetPolicy id _ s := hr.resetPolicy id _ s.1
  isBackoffRequired id status _ s := hr.isBackoffRequired id status _ s.1
  nextBackoff id _ s := hr.nextBackoff id _ s.1
  handle id response supportsRetry _ s := hr.handle id response supportsRetry _ s.1
  onRequest id info _ s := hr.onRequest id info _ s.1
  onRetry id info _ s := hr.onRetry id info _ s.1
  onSuccess id info _ s := hr.onSuccess id info _ s.1
  onFailure id info _ s := hr.onFailure id info _ s.1

/-- The method and the URL of a request. -/
def Request.target (r : Request) : String × Value := (r.method, r.url)

/-- The transport, the sources of the bodies that it reads and the callback that is told of
    an attempt assign neither the method nor the URL of the request. -/
structure Hooks.LeaveTarget (h : Hooks R σ) : Prop where
  onRequest : ∀ id info target, (h.onRequest id info).Preserves fun r => r.target = target
  announce : ∀ staged target, (h.announce staged).Preserves fun r => r.target = target
  writeSource : ∀ id target, (h.writeSource id).Preserves fun r => r.target = target
  exchange : ∀ staged body target, (h.exchange staged body).Preserves fun r => r.target = target

theorem Hooks.LeaveTarget.minuted {h : Hooks R σ} (hk : h.LeaveTarget) :
    h.minuted.LeaveTarget where
  onRequest id info target _ s := hk.onRequest id info target _ s.1
  announce staged target _ s := hk.announce staged target _ s.1
  writeSource id target _ s := hk.writeSource id target _ s.1
  exchange staged body target _ s := hk.exchange staged body target _ s.1

/-! ## Section 2: What a run leaves -/

/-- A run that relates every state to the one it leaves, and ends with no fault but those
    of one kind. -/
def Run.Leaves {ε : Type} (T : σ → σ → Prop) (P : Fault → Prop) (x : Run ε σ α) : Prop :=
  x.Goes T ∧ x.FailsOnly P

namespace Run

variable {ε : Type} {T T' : σ → σ → Prop} {P : Fault → Prop}

theorem Leaves.mono {x : Run ε σ α} (hx : x.Leaves T P) (hT : ∀ s s', T s s' → T' s s') :
    x.Leaves T' P := ⟨fun r s => hT _ _ (hx.1 r s), hx.2⟩

theorem leaves_pure (hT : Chains T) (a : α) : (pure a : Run ε σ α).Leaves T P :=
  ⟨fun _ s => hT.refl s, failsOnly_pure a⟩

theorem leaves_throw (hT : Chains T) {f : Fault} (hf : P f) : (throw f : Run ε σ α).Leaves T P :=
  ⟨fun _ s => hT.refl s, failsOnly_throw hf⟩

theorem leaves_lift (hT : Chains T) {x : Except Fault α} (hx : ∀ f, x = .error f → P f) :
    (lift x : Run ε σ α).Leaves T P := by
  cases x with
  | error f => exact leaves_throw hT (hx f rfl)
  | ok a => exact leaves_pure hT a

theorem leaves_request (hT : Chains T) : (request : Run ε σ Request).Leaves T P :=
  ⟨fun _ s => hT.refl s, failsOnly_request⟩

theorem leaves_setRequest (hT : Chains T) (r : Request) :
    (setRequest r : Run ε σ Unit).Leaves T P :=
  ⟨fun _ s => hT.refl s, fun _ _ _ hf => nomatch hf⟩

theorem leaves_state (hT : Chains T) : (state : Run ε σ σ).Leaves T P :=
  ⟨fun _ s => hT.refl s, fun _ _ _ hf => nomatch hf⟩

theorem leaves_emit (hT : Chains T) (e : ε) : (emit e : Run ε σ Unit).Leaves T P :=
  ⟨fun _ s => hT.refl s, fun _ _ _ hf => nomatch hf⟩

theorem leaves_bind (hT : Chains T) {x : Run ε σ α} {f : α → Run ε σ β} (hx : x.Leaves T P)
    (hf : ∀ a, (f a).Leaves T P) : (x >>= f).Leaves T P :=
  ⟨goes_bind hT hx.1 fun a => (hf a).1, failsOnly_bind hx.2 fun a => (hf a).2⟩

theorem leaves_ite {p : Prop} [Decidable p] {x y : Run ε σ α} (hx : x.Leaves T P)
    (hy : y.Leaves T P) : (if p then x else y).Leaves T P := by
  by_cases hp : p
  · rwa [if_pos hp]
  · rwa [if_neg hp]

theorem leaves_ofHook {x : Hook σ α} (hx : x.Leaves T P) :
    (ofHook x : Run (Event R) σ α).Leaves T P := hx

theorem leaves_log (hT : Chains T) (debug : Bool) (channel : Channel) (text : String) :
    (log debug channel text : Hook σ Unit).Leaves T P := by
  unfold log
  exact leaves_ite (leaves_emit hT _) (leaves_pure hT ())

end Run

/-! ## Section 3: Parts that add nothing -/

/-- The minutes stay as they are. -/
def Same (minutes : σ → List Minute) (s s' : σ) : Prop := minutes s' = minutes s

theorem chains_same (minutes : σ → List Minute) : Chains (Same minutes) where
  refl _ := rfl
  trans := fun hfirst hsecond => hsecond.trans hfirst

namespace Engine

/-- A kind of faults that has all but the errors of responses. -/
def Spares (P : Fault → Prop) : Prop := ∀ f : Fault, f.marks ≠ some .rejected → P f

theorem Spares.unmarked {P : Fault → Prop} (hP : Spares P) {f : Fault} (hf : f.marks = none) :
    P f := hP f (by rw [hf]; nofun)

section parts

variable {h : Hooks R σ} {minutes : σ → List Minute} {P : Fault → Prop} {T : σ → σ → Prop}

theorem leaves_tell (hT : Chains T) (hP : Spares P) {callbacks : Slot Callbacks}
    {choose : Callbacks → Option Nat} {wanted : String} {event : Event R}
    {call : Nat → Hook σ Unit} (hcall : ∀ id, (call id).Leaves T P) :
    (tell callbacks choose wanted event call).Leaves T P := by
  unfold tell
  cases callbacks with
  | empty => exact Run.leaves_pure hT ()
  | other v =>
    exact Run.leaves_ite (Run.leaves_throw hT (hP.unmarked rfl)) (Run.leaves_pure hT ())
  | hook callbacks =>
    dsimp only
    cases choose callbacks with
    | none => exact Run.leaves_pure hT ()
    | some id =>
      exact Run.leaves_bind hT (Run.leaves_emit hT event) fun _ => Run.leaves_ofHook (hcall id)

theorem leaves_logRequest (hT : Chains T) (h : Hooks R σ) (text : String) :
    (logRequest h text).Leaves T P := by
  unfold logRequest
  exact Run.leaves_bind hT (Run.leaves_request hT) fun r =>
    Run.leaves_ofHook (Run.leaves_log hT _ _ _)

theorem leaves_logAll (hT : Chains T) (debug : Bool) (channel : Channel) (texts : List String) :
    (logAll debug channel texts : Hook σ Unit).Leaves T P := by
  induction texts with
  | nil => exact Run.leaves_pure hT ()
  | cons text texts ih => exact Run.leaves_bind hT (Run.leaves_log hT _ _ _) fun _ => ih

theorem leaves_checkTransport (hT : Chains T) (hP : Spares P) (wanted : String) :
    (checkTransport wanted : Run (Event R) σ Unit).Leaves T P := by
  unfold checkTransport
  refine Run.leaves_bind hT (Run.leaves_request hT) fun r => ?_
  cases r.replacement with
  | none => exact Run.leaves_pure hT ()
  | some v => exact Run.leaves_throw hT (hP.unmarked rfl)

theorem leaves_stage (hT : Chains T) (hP : Spares P) : (stage h).Leaves T P := by
  unfold stage
  refine Run.leaves_bind hT (leaves_checkTransport hT hP _) fun _ => ?_
  refine Run.leaves_bind hT (Run.leaves_request hT) fun r => ?_
  refine Run.leaves_bind hT (Run.leaves_emit hT _) fun _ => ?_
  split
  · exact Run.leaves_bind hT (Run.leaves_ofHook (leaves_logAll hT _ _ _)) fun _ =>
      Run.leaves_pure hT _
  · exact Run.leaves_pure hT _

theorem leaves_checkCancelled (hT : Chains T) (hP : Spares P) (cancellable : Bool) :
    (checkCancelled h cancellable).Leaves T P := by
  unfold checkCancelled
  refine Run.leaves_bind hT (Run.leaves_state hT) fun s => ?_
  refine Run.leaves_ite ?_ (Run.leaves_pure hT ())
  exact Run.leaves_bind hT (Run.leaves_request hT) fun r => Run.leaves_throw hT (hP _ (by nofun))

variable (hm : h.Minuted minutes) (hr : h.RaiseOnly P) (hP : Spares P)
include hm hr hP

theorem leaves_opening (cancellable : Bool) (callbacks : Slot Callbacks) (n : Nat) :
    (opening h cancellable callbacks n).Leaves (Same minutes) P := by
  have hT := chains_same minutes
  unfold opening
  refine Run.leaves_bind hT (leaves_checkCancelled hT hP _) fun _ => ?_
  refine Run.leaves_bind hT (leaves_stage hT hP) fun staged => ?_
  refine Run.leaves_bind hT (Run.leaves_request hT) fun r => ?_
  refine Run.leaves_bind hT (leaves_tell hT hP fun id => ?_) fun _ => Run.leaves_pure hT _
  exact ⟨hm.onRequest id _, hr.onRequest id _⟩

theorem leaves_writeContent (c : Content) : (writeContent h c).Leaves (Same minutes) P := by
  have hT := chains_same minutes
  induction c with
  | bytes mediaType data => exact Run.leaves_pure hT data
  | source src => exact ⟨hm.writeSource src.id, hr.writeSource src.id⟩
  | gzip inner ih => exact Run.leaves_bind hT ih fun data => Run.leaves_pure hT _
  | logging inner limit ih =>
    refine Run.leaves_bind hT ih fun data => ?_
    refine Run.leaves_bind hT (Run.leaves_lift hT fun f hf => hP.unmarked ?_) fun line => ?_
    · rcases excerptLine_error hf with rfl | ⟨g, rfl⟩ <;> rfl
    · cases line with
      | none => exact Run.leaves_pure hT data
      | some line =>
        exact Run.leaves_bind hT (Run.leaves_log hT _ _ _) fun _ => Run.leaves_pure hT data

theorem leaves_readBody (staged : Staged) : (readBody h staged).Leaves (Same minutes) P := by
  unfold readBody
  split
  · exact leaves_writeContent hm hr hP _
  · exact Run.leaves_pure (chains_same minutes) []

theorem leaves_resetPolicy : (resetPolicy h).Leaves (Same minutes) P := by
  have hT := chains_same minutes
  unfold resetPolicy
  refine Run.leaves_bind hT (Run.leaves_request hT) fun r => ?_
  cases r.policy with
  | empty => exact Run.leaves_pure hT ()
  | other v => exact Run.leaves_throw hT (hP.unmarked rfl)
  | hook policy =>
    exact Run.leaves_bind hT (Run.leaves_emit hT _) fun _ =>
      Run.leaves_ofHook ⟨hm.resetPolicy policy, hr.resetPolicy policy⟩

theorem leaves_announce (callbacks : Slot Callbacks) (n : Nat) (reason : Reason) (waited : R)
    (error : Option Fault) (status : Option Int) :
    (announce h callbacks n reason waited error status).Leaves (Same minutes) P := by
  have hT := chains_same minutes
  unfold announce
  refine Run.leaves_bind hT (Run.leaves_request hT) fun r => ?_
  refine Run.leaves_bind hT (leaves_logRequest hT h _) fun _ => ?_
  exact leaves_tell hT hP fun id => ⟨hm.onRetry id _, hr.onRetry id _⟩

variable [Arith R]

theorem leaves_report (callbacks : Slot Callbacks) (start : R) (n : Nat) (error : Fault)
    (status : Option Int) :
    (report h callbacks start n error status).Leaves (Same minutes) P := by
  have hT := chains_same minutes
  unfold report
  refine Run.leaves_bind hT (leaves_logRequest hT h _) fun _ => ?_
  refine Run.leaves_bind hT (Run.leaves_request hT) fun r => ?_
  refine Run.leaves_bind hT (Run.leaves_state hT) fun s => ?_
  exact leaves_tell hT hP fun id => ⟨hm.onFailure id _, hr.onFailure id _⟩

omit hr in
theorem leaves_pause (cancellable : Bool) (millis : Number R) :
    (pause h cancellable millis).Leaves (Same minutes) P := by
  have hfault : ∀ r s f, (pause h cancellable millis r s).result = .error f → P f := by
    intro r s f hf
    rcases fit_or_unfit h cancellable millis s with ⟨span, hfit⟩ | ⟨why, hunfit⟩
    · rw [pause_apply hfit] at hf
      dsimp only at hf
      split at hf
      · cases hf
        exact hP _ nofun
      · cases hf
    · obtain ⟨notes, hpause⟩ := pause_unfit hunfit r
      rw [hpause] at hf
      cases hf
      exact hP.unmarked rfl
  refine ⟨fun r s => ?_, hfault⟩
  rcases fit_or_unfit h cancellable millis s with ⟨span, hfit⟩ | ⟨why, hunfit⟩
  · rw [pause_apply hfit]
    cases cancellable with
    | false => exact hm.sleep span s
    | true => exact hm.wait span s
  · obtain ⟨notes, hpause⟩ := pause_unfit hunfit r
    rw [hpause]
    rfl

theorem leaves_backOff (cancellable : Bool) (status : Int) :
    (backOff h cancellable status).Leaves (Same minutes) P := by
  have hT := chains_same minutes
  unfold backOff
  refine Run.leaves_bind hT (Run.leaves_request hT) fun r => ?_
  cases r.policy with
  | empty => exact Run.leaves_pure hT none
  | other v => exact Run.leaves_throw hT (hP.unmarked rfl)
  | hook policy =>
    have hrequired : (h.isBackoffRequired policy status).Leaves (Same minutes) P :=
      ⟨hm.isBackoffRequired policy status, hr.isBackoffRequired policy status⟩
    have hnext : (h.nextBackoff policy).Leaves (Same minutes) P :=
      ⟨hm.nextBackoff policy, hr.nextBackoff policy⟩
    refine Run.leaves_bind hT (Run.leaves_ofHook hrequired) fun required => ?_
    refine Run.leaves_bind hT (Run.leaves_emit hT _) fun _ => ?_
    refine Run.leaves_ite (Run.leaves_pure hT none) ?_
    refine Run.leaves_bind hT (Run.leaves_ofHook hnext) fun millis => ?_
    refine Run.leaves_bind hT (Run.leaves_emit hT _) fun _ => ?_
    refine Run.leaves_ite (Run.leaves_pure hT none) ?_
    refine Run.leaves_bind hT (leaves_pause hm hP cancellable millis) fun _ => ?_
    -- measuring the pause once more fails with a fault of arithmetic, if at all
    refine Run.leaves_bind hT (Run.leaves_lift hT fun f hf => ?_) fun span =>
      Run.leaves_pure hT _
    cases hspan : (seconds millis : Except ArithFault R) with
    | error a =>
      rw [hspan] at hf
      cases hf
      exact hP.unmarked rfl
    | ok span =>
      rw [hspan] at hf
      cases hf

end parts

/-! ## Section 4: Parts that give a response -/

/-- A response was given, any number of times, and nothing else passed. -/
def Gives (minutes : σ → List Minute) (response : Response) (s s' : σ) : Prop :=
  ∃ times, minutes s' = minutes s ++ List.replicate times (.given response)

theorem chains_gives (minutes : σ → List Minute) (response : Response) :
    Chains (Gives minutes response) where
  refl s := ⟨0, (List.append_nil _).symm⟩
  trans := by
    intro s s' s'' hfirst hsecond
    obtain ⟨k, hk⟩ := hfirst
    obtain ⟨m, hm⟩ := hsecond
    exact ⟨k + m, by rw [hm, hk, List.append_assoc, List.replicate_append_replicate]⟩

theorem Same.gives {minutes : σ → List Minute} {s s' : σ} (hs : Same minutes s s')
    (response : Response) : Gives minutes response s s' :=
  ⟨0, hs.trans (List.append_nil _).symm⟩

section given

variable {h : Hooks R σ} {minutes : σ → List Minute} {P : Fault → Prop}

mutual

/-- Every handler in a composition is given the same response. -/
theorem leaves_ask (hm : h.Minuted minutes) (hr : h.RaiseOnly P) (response : Response)
    (supportsRetry : Bool) :
    ∀ handler, (ask h response supportsRetry handler).Leaves (Gives minutes response) P
  | .leaf _ id => by
    unfold ask
    -- the only place in which a handler of the caller's is called
    exact ⟨fun r s => ⟨1, hm.handle id response supportsRetry r s⟩,
      hr.handle id response supportsRetry⟩
  | .composite parts => by
    unfold ask
    exact leaves_askInOrder hm hr response supportsRetry parts

theorem leaves_askInOrder (hm : h.Minuted minutes) (hr : h.RaiseOnly P) (response : Response)
    (supportsRetry : Bool) :
    ∀ parts, (askInOrder h response supportsRetry parts).Leaves (Gives minutes response) P
  | [] => by
    unfold askInOrder
    exact Run.leaves_pure (chains_gives minutes response) false
  | part :: parts => by
    have hT := chains_gives minutes response
    unfold askInOrder
    refine Run.leaves_bind hT (leaves_ask hm hr response supportsRetry part) fun claimed => ?_
    refine Run.leaves_ite ?_ (leaves_askInOrder hm hr response supportsRetry parts)
    exact Run.leaves_bind hT (Run.leaves_log hT _ _ _) fun _ => Run.leaves_pure hT true

end

variable (hm : h.Minuted minutes) (hr : h.RaiseOnly P) (hP : Spares P)
include hm hr hP

theorem leaves_askHandler (response : Response) :
    (askHandler h response : Run (Event R) σ Bool).Leaves (Gives minutes response) P := by
  have hT := chains_gives minutes response
  unfold askHandler
  refine Run.leaves_bind hT (Run.leaves_request hT) fun r => ?_
  cases r.handler with
  | empty => exact Run.leaves_pure hT false
  | other v => exact Run.leaves_throw hT (hP.unmarked rfl)
  | hook handler => exact Run.leaves_ofHook (leaves_ask hm hr response true handler)

omit hm hr in
theorem leaves_followRedirect {T : σ → σ → Prop} (hT : Chains T) (debug : Bool) (status : Int)
    (headers : Headers) : (followRedirect debug status headers : Hook σ Bool).Leaves T P := by
  unfold followRedirect
  refine Run.leaves_bind hT (Run.leaves_request hT) fun r => ?_
  refine Run.leaves_bind hT (Run.leaves_lift hT fun f hf => hP.unmarked ?_) fun target => ?_
  · obtain ⟨location, -, -, -, hresolve⟩ := redirectTarget_error hf
    exact resolveFrom_unmarked hresolve
  · cases target with
    | none => exact Run.leaves_pure hT false
    | some target =>
      refine Run.leaves_bind hT (Run.leaves_log hT _ _ _) fun _ => ?_
      exact Run.leaves_bind hT (Run.leaves_setRequest hT _) fun _ => Run.leaves_pure hT true

variable [Arith R]

/-- Whatever a response is offered to is given this response. -/
theorem leaves_offer (cancellable : Bool) (response : Response) :
    (offer h cancellable response).Leaves (Gives minutes response) P := by
  have hT := chains_gives minutes response
  have hpolicy : (backOff h cancellable response.status).Leaves (Gives minutes response) P :=
    (leaves_backOff hm hr hP cancellable response.status).mono fun _ _ hs => Same.gives hs response
  unfold offer
  refine Run.leaves_bind hT (leaves_askHandler hm hr hP response) fun claimed => ?_
  refine Run.leaves_ite (Run.leaves_pure hT _) ?_
  refine Run.leaves_bind hT hpolicy fun waited => ?_
  cases waited with
  | some waited => exact Run.leaves_pure hT _
  | none =>
    refine Run.leaves_bind hT (Run.leaves_ofHook (leaves_followRedirect hP hT _ _ _))
      fun moved => ?_
    exact Run.leaves_ite (Run.leaves_pure hT _) (Run.leaves_pure hT _)

theorem leaves_succeed (callbacks : Slot Callbacks) (start : R) (n : Nat) (response : Response) :
    (succeed h callbacks start n response).Leaves (Gives minutes response) P := by
  have hT := chains_gives minutes response
  unfold succeed
  refine Run.leaves_bind hT (leaves_logRequest hT h _) fun _ => ?_
  refine Run.leaves_bind hT (Run.leaves_request hT) fun r => ?_
  refine Run.leaves_bind hT (Run.leaves_state hT) fun s => ?_
  exact leaves_tell hT hP fun id => ⟨fun r s => ⟨1, hm.onSuccess id _ r s⟩, hr.onSuccess id _⟩

end given

/-! ## Section 5: Exchanges -/

section exchanges

variable {h : Hooks R σ} {minutes : σ → List Minute} {P : Fault → Prop}

/-- The transport is handed what was staged, and what it returns follows at once. -/
theorem transmit_minutes (hm : h.Minuted minutes) (staged : Staged) (r : Request) (s : σ) :
    minutes (transmit h staged r s).state =
      minutes s ++ .handed staged :: receipt (transmit h staged r s).result := by
  have htrue : Spares fun _ => True := fun _ _ => trivial
  have hannounce := hm.announce staged r s
  unfold transmit
  rw [Run.emit_bind]
  rcases hfirst : h.announce staged r s with ⟨f | _, r₁, s₁, n₁⟩ <;> rw [hfirst] at hannounce
  · rw [Run.bind_error (Run.ofHook_eq hfirst)]
    exact hannounce
  · rw [Run.bind_ok (Run.ofHook_eq hfirst)]
    -- reading the body lies between the hand-over and the exchange, and adds nothing
    have hbody := (leaves_readBody hm h.raiseOnly_true htrue staged).1 r₁ s₁
    rcases hsecond : readBody h staged r₁ s₁ with ⟨f | body, r₂, s₂, n₂⟩ <;>
      rw [hsecond] at hbody
    · rw [Run.bind_error (Run.ofHook_eq hsecond)]
      exact hbody.trans hannounce
    · rw [Run.bind_ok (Run.ofHook_eq hsecond)]
      show minutes (h.exchange staged body r₂ s₂).state =
        minutes s ++ .handed staged :: receipt (h.exchange staged body r₂ s₂).result
      have hbefore : minutes s₂ = minutes s ++ [.handed staged] := hbody.trans hannounce
      rw [hm.exchange, hbefore, List.append_assoc]
      rfl

theorem transmit_failsOnly (hm : h.Minuted minutes) (hr : h.RaiseOnly P) (hP : Spares P)
    (staged : Staged) : (transmit h staged).FailsOnly P := by
  unfold transmit
  refine Run.failsOnly_bind (fun _ _ _ hf => nomatch hf) fun _ => ?_
  refine Run.failsOnly_bind (hr.announce staged) fun _ => ?_
  exact Run.failsOnly_bind (leaves_readBody hm hr hP staged).2 fun body => hr.exchange staged body

end exchanges

end Engine

end Redial
