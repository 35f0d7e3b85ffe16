import Redial.Proofs.Account.Preserved
import Redial.Proofs.Playback
import Redial.Proofs.ResponseText

/-! # Runs that raise nothing

    Handlers, policies and callbacks that raise nothing, on a request whose slots hold
    hooks or nothing, raise nothing as parts of an attempt either.  What is left are
    the faults of the engine itself: a pause that has no length in seconds, a location
    that is no URL, and a response that no error can be made from. -/

namespace Redial

/-! ## Section 1: Surroundings that raise nothing -/

/-- A run that goes through, whatever the request and the state are, and leaves alone
    what `φ` reads off them. -/
def Run.Returns {ε σ α γ : Type} (φ : Request → σ → γ) (x : Run ε σ α) : Prop :=
  ∀ r s, ∃ a r' s' events, x r s = ⟨.ok a, r', s', events⟩ ∧ φ r' s' = φ r s

namespace Run

variable {ε σ α β γ : Type} {φ : Request → σ → γ}

/-- A run that goes through did not end with a fault. -/
theorem Returns.not_error {x : Run ε σ α} (hx : Returns φ x) {r r' : Request} {s s' : σ} {f : Fault}
    {events : List ε} (run : x r s = ⟨.error f, r', s', events⟩) : False := by
  obtain ⟨a, r₁, s₁, e₁, hrun, -⟩ := hx r s
  rw [hrun] at run
  cases run

theorem returns_pure (a : α) : Returns φ (Pure.pure a : Run ε σ α) :=
  fun r s => ⟨a, r, s, [], rfl, rfl⟩

theorem returns_request : Returns φ (request : Run ε σ Request) :=
  fun r s => ⟨r, r, s, [], rfl, rfl⟩

theorem returns_state : Returns φ (state : Run ε σ σ) := fun r s => ⟨s, r, s, [], rfl, rfl⟩

theorem returns_emit (e : ε) : Returns φ (emit e : Run ε σ Unit) :=
  fun r s => ⟨(), r, s, [e], rfl, rfl⟩

theorem returns_bind {x : Run ε σ α} {f : α → Run ε σ β} (hx : Returns φ x)
    (hf : ∀ a, Returns φ (f a)) : Returns φ (x >>= f) := by
  intro r s
  obtain ⟨a, r₁, s₁, e₁, hrun, hkept⟩ := hx r s
  obtain ⟨b, r₂, s₂, e₂, hrest, hkept'⟩ := hf a r₁ s₁
  refine ⟨b, r₂, s₂, e₁ ++ e₂, ?_, hkept'.trans hkept⟩
  rw [bind_ok hrun, hrest, Outcome.after_mk]

theorem returns_ite {p : Prop} [Decidable p] {x y : Run ε σ α} (hx : Returns φ x)
    (hy : Returns φ y) : Returns φ (if p then x else y) := by
  split
  · exact hx
  · exact hy

theorem returns_ofHook {R : Type} {x : Hook σ α} (hx : Returns φ x) :
    Returns φ (ofHook x : Run (Event R) σ α) := by
  intro r s
  obtain ⟨a, r', s', notes, hrun, hkept⟩ := hx r s
  exact ⟨a, r', s', notes.map .ofNote, ofHook_eq hrun, hkept⟩

theorem returns_log (debug : Bool) (channel : Channel) (text : String) :
    Returns φ (log debug channel text : Run Note σ Unit) :=
  fun r s => ⟨(), r, s, _, log_apply debug channel text r s, rfl⟩

/-- A run that ends with no fault but those of one kind. -/
def FailsOnly (P : Fault → Prop) (x : Run ε σ α) : Prop :=
  ∀ r s f, (x r s).result = .error f → P f

variable {P : Fault → Prop}

theorem FailsOnly.fault {x : Run ε σ α} (hx : FailsOnly P x) {r r' : Request} {s s' : σ}
    {f : Fault} {events : List ε} (run : x r s = ⟨.error f, r', s', events⟩) : P f :=
  hx r s f (by rw [run])

theorem Returns.failsOnly {x : Run ε σ α} (hx : Returns φ x) : FailsOnly P x := by
  intro r s f hf
  obtain ⟨a, r', s', events, hrun, -⟩ := hx r s
  rw [hrun] at hf
  cases hf

theorem failsOnly_pure (a : α) : FailsOnly P (Pure.pure a : Run ε σ α) :=
  fun _ _ _ hf => by cases hf

theorem failsOnly_throw {f : Fault} (hf : P f) : FailsOnly P (throw f : Run ε σ α) := by
  intro r s g hg
  cases hg
  exact hf

theorem failsOnly_request : FailsOnly P (request : Run ε σ Request) :=
  fun _ _ _ hf => by cases hf

theorem failsOnly_bind {x : Run ε σ α} {f : α → Run ε σ β} (hx : FailsOnly P x)
    (hf : ∀ a, FailsOnly P (f a)) : FailsOnly P (x >>= f) := by
  intro r s g hg
  rcases cases x r s with ⟨e, r', s', events, hrun⟩ | ⟨a, r', s', events, hrun⟩
  · rw [bind_error hrun] at hg
    cases hg
    exact hx.fault hrun
  · rw [bind_ok hrun] at hg
    exact hf a r' s' g hg

theorem failsOnly_ite {p : Prop} [Decidable p] {x y : Run ε σ α} (hx : FailsOnly P x)
    (hy : FailsOnly P y) : FailsOnly P (if p then x else y) := by
  split
  · exact hx
  · exact hy

end Run

/-- Handlers, policies and callbacks that raise nothing and leave alone what `φ` reads
    off the request and the state. -/
structure Hooks.Return {R σ γ : Type} (h : Hooks R σ) (φ : Request → σ → γ) : Prop where
  resetPolicy : ∀ id, (h.resetPolicy id).Returns φ
  isBackoffRequired : ∀ id status, (h.isBackoffRequired id status).Returns φ
  nextBackoff : ∀ id, (h.nextBackoff id).Returns φ
  handle : ∀ id response supportsRetry, (h.handle id response supportsRetry).Returns φ
  onRequest : ∀ id info, (h.onRequest id info).Returns φ
  onRetry : ∀ id info, (h.onRetry id info).Returns φ
  onSuccess : ∀ id info, (h.onSuccess id info).Returns φ
  onFailure : ∀ id info, (h.onFailure id info).Returns φ

/-- Handlers, policies and callbacks that raise nothing, whatever they change. -/
def Hooks.RaiseNothing {R σ : Type} (h : Hooks R σ) : Prop := h.Return fun _ _ => ()

/-- A run that raises nothing but failures of the exchange. -/
def Run.FailsPlainly {ε σ α : Type} (x : Run ε σ α) : Prop :=
  ∀ r s f, (x r s).result = .error f → f.isExchange = true

/-- A transport, with the sources of the bodies that it reads, that raises nothing but
    failures of the exchange. -/
structure Hooks.FailPlainly {R σ : Type} (h : Hooks R σ) : Prop where
  announce : ∀ staged, (h.announce staged).FailsPlainly
  writeSource : ∀ id, (h.writeSource id).FailsPlainly
  exchange : ∀ staged body, (h.exchange staged body).FailsPlainly

/-- A content without a layer that writes to the log. -/
def Content.Unlogged : Content → Prop
  | .bytes _ _ | .source _ => True
  | .gzip inner => inner.Unlogged
  | .logging _ _ => False

/-- Callbacks in whose place there is nothing else that would be called. -/
def Slot.Harmless (callbacks : Slot Callbacks) : Prop :=
  ∀ v, callbacks = .other v → v.isSet = false

/-- A request whose hooks and whose transport are in place, and whose content has no
    layer that writes to the log. -/
structure Request.Placed (r : Request) : Prop where
  handler : ∀ v, r.handler ≠ .other v
  policy : ∀ v, r.policy ≠ .other v
  callbacks : r.callbacks.Harmless
  transport : r.replacement = none
  content : ∀ c ∈ r.content, c.Unlogged

theorem Request.Placed.redirected {r : Request} (hr : r.Placed) (status : Int) (target : String) :
    (r.redirected status target).Placed where
  handler := hr.handler
  policy := hr.policy
  callbacks := hr.callbacks
  transport := hr.transport
  content := by
    unfold Request.redirected
    intro c hc
    cases hloses : r.losesContent status with
    | true => simp [hloses] at hc
    | false =>
      simp only [hloses, Bool.false_eq_true, if_false] at hc
      exact hr.content c hc

theorem Request.Placed.spent {r : Request} (hr : r.Placed) (left : Number Float) :
    Request.Placed { r with retries := left } :=
  ⟨hr.handler, hr.policy, hr.callbacks, hr.transport, hr.content⟩

namespace Engine

variable {R σ γ : Type} {h : Hooks R σ} {callbacks : Slot Callbacks} {φ : Request → σ → γ}

/-! ## Section 2: Handlers and callbacks -/

mutual

theorem returns_ask (hh : h.Return φ) (response : Response) (supportsRetry : Bool) :
    ∀ handler, (ask h response supportsRetry handler).Returns φ
  | .leaf _ id => by
    unfold ask
    exact hh.handle id response supportsRetry
  | .composite parts => by
    unfold ask
    exact returns_askInOrder hh response supportsRetry parts

theorem returns_askInOrder (hh : h.Return φ) (response : Response) (supportsRetry : Bool) :
    ∀ parts, (askInOrder h response supportsRetry parts).Returns φ
  | [] => by
    unfold askInOrder
    exact Run.returns_pure false
  | part :: parts => by
    unfold askInOrder
    refine Run.returns_bind (returns_ask hh response supportsRetry part) fun claimed => ?_
    refine Run.returns_ite ?_ (returns_askInOrder hh response supportsRetry parts)
    exact Run.returns_bind (Run.returns_log _ _ _) fun _ => Run.returns_pure true

end

theorem returns_tell (hcallbacks : callbacks.Harmless)
    {choose : Callbacks → Option Nat} {wanted : String} {event : Event R}
    {call : Nat → Hook σ Unit} (hcall : ∀ id, (call id).Returns φ) :
    (tell callbacks choose wanted event call).Returns φ := by
  unfold tell
  -- an empty slot, callbacks, and anything else in their place
  split
  · exact Run.returns_pure ()
  · split
    · exact Run.returns_pure ()
    · exact Run.returns_bind (Run.returns_emit _) fun _ => Run.returns_ofHook (hcall _)
  · rename_i v
    rw [hcallbacks v rfl]
    exact Run.returns_pure ()

theorem returns_logRequest (h : Hooks R σ) (text : String) : (logRequest h text).Returns φ := by
  intro r s
  obtain ⟨notes, hlog⟩ := logRequest_apply h text r s
  exact ⟨(), r, s, _, hlog, rfl⟩

theorem returns_resetPolicy (hh : h.Return φ) {r : Request} (hr : r.Placed) (s : σ) :
    ∃ r' s' e, resetPolicy h r s = ⟨.ok (), r', s', e⟩ ∧ φ r' s' = φ r s := by
  unfold resetPolicy
  rw [Run.request_bind]
  match hslot : r.policy with
  | .empty => exact ⟨r, s, [], rfl, rfl⟩
  | .other v => exact absurd hslot (hr.policy v)
  | .hook policy =>
    have hreset : (Run.emit .policyReset >>= fun _ => Run.ofHook (h.resetPolicy policy) :
        Run (Event R) σ Unit).Returns φ :=
      Run.returns_bind (Run.returns_emit _) fun _ => Run.returns_ofHook (hh.resetPolicy policy)
    obtain ⟨_, r', s', e, hrun, hkept⟩ := hreset r s
    exact ⟨r', s', e, hrun, hkept⟩

theorem returns_announce (hh : h.Return φ) (hcallbacks : callbacks.Harmless) (n : Nat)
    (reason : Reason) (waited : R) (error : Option Fault) (status : Option Int) :
    (announce h callbacks n reason waited error status).Returns φ := by
  unfold announce
  refine Run.returns_bind Run.returns_request fun r => ?_
  exact Run.returns_bind (returns_logRequest h _) fun _ =>
    returns_tell hcallbacks fun id => hh.onRetry id _

/-- An opening of a request in place goes through. -/
theorem opening_returns (hh : h.Return φ) (hcallbacks : callbacks.Harmless)
    {cancellable : Bool} {s : σ} (clear : (cancellable && h.isCancelled s) = false) (n : Nat)
    {r : Request} (hr : r.replacement = none) :
    ∃ r' s' e, opening h cancellable callbacks n r s = ⟨.ok (stagedOf h.debug r), r', s', e⟩ ∧
      φ r' s' = φ r s := by
  rcases opening_apply clear callbacks n r with
    ⟨v, hslot, -⟩ | ⟨-, x, r₁, s₁, e₁, notes, htell, -, hrun⟩
  · rw [hr] at hslot
    cases hslot
  · have htold : (tell callbacks Callbacks.onRequest "on_request" (.requested (requestInfo r n))
        (h.onRequest · (requestInfo r n)) : Run (Event R) σ Unit).Returns φ :=
      returns_tell hcallbacks fun id => hh.onRequest id _
    obtain ⟨_, r', s', e, htells, hkept⟩ := htold r s
    rw [htell] at htells
    cases htells
    exact ⟨r₁, s₁, _, hrun, hkept⟩

theorem HandlerAsked.returns (hh : h.Return φ) {response : Response} {r r' : Request} {s s' : σ}
    {cs : List (Consult R)} {f : Fault} {e : List (Event R)} (hr : ∀ v, r.handler ≠ .other v)
    (ha : HandlerAsked h response r s cs ⟨.error f, r', s', e⟩) : False := by
  cases ha with
  | misplaced other => exact hr _ other
  | asked hook call => exact (returns_ask hh response true _).not_error call

variable [Arith R]

theorem returns_report (hh : h.Return φ) (hcallbacks : callbacks.Harmless)
    (start : R) (n : Nat) (error : Fault) (status : Option Int) :
    (report h callbacks start n error status).Returns φ := by
  unfold report
  refine Run.returns_bind (returns_logRequest h _) fun _ => ?_
  refine Run.returns_bind Run.returns_request fun r => ?_
  refine Run.returns_bind Run.returns_state fun s => ?_
  exact returns_tell hcallbacks fun id => hh.onFailure id _

theorem returns_succeed (hh : h.Return φ) (hcallbacks : callbacks.Harmless)
    (start : R) (n : Nat) (response : Response) :
    (succeed h callbacks start n response).Returns φ := by
  unfold succeed
  refine Run.returns_bind (returns_logRequest h _) fun _ => ?_
  refine Run.returns_bind Run.returns_request fun r => ?_
  refine Run.returns_bind Run.returns_state fun s => ?_
  exact returns_tell hcallbacks fun id => hh.onSuccess id _

/-! ## Section 3: Transports that fail plainly -/

section plainly

omit [Arith R]

theorem writeContent_failsPlainly (hf : h.FailPlainly) :
    ∀ {c : Content}, c.Unlogged → (writeContent h c).FailsPlainly
  | .bytes _ data, _ => Run.failsOnly_pure data
  | .source source, _ => hf.writeSource source.id
  | .gzip inner, hc => by
    unfold writeContent
    exact Run.failsOnly_bind (writeContent_failsPlainly hf (c := inner) hc) fun _ =>
      Run.failsOnly_pure _

theorem transmit_failsPlainly (hf : h.FailPlainly) {staged : Staged}
    (hc : ∀ c ∈ staged.content, c.Unlogged) : (transmit h staged).FailsPlainly := by
  have hread : (readBody h staged).FailsPlainly := by
    unfold readBody
    split
    · rename_i hcontent
      exact writeContent_failsPlainly hf (hc _ hcontent)
    · exact Run.failsOnly_pure []
  unfold transmit
  refine Run.failsOnly_bind (fun _ _ _ hg => by cases hg) fun _ => ?_
  refine Run.failsOnly_bind (hf.announce staged) fun _ => ?_
  exact Run.failsOnly_bind hread fun body => hf.exchange staged body

/-- With the debug log off a request without logging layers is staged without them. -/
theorem stagedOf_unlogged {r : Request} (hr : r.Placed) :
    ∀ c ∈ (stagedOf false r).content, c.Unlogged := by
  intro c hc
  obtain ⟨inner, hinner, rfl⟩ := Option.map_eq_some_iff.mp hc
  have hplain : inner.Unlogged := hr.content inner hinner
  simp only [Bool.and_false, Bool.false_eq_true, if_false]
  split
  · exact hplain
  · exact hplain

/-- Every fault of an exchange is taken as its answer. -/
theorem exchange_taken (hf : h.FailPlainly) {staged : Staged}
    (hc : ∀ c ∈ staged.content, c.Unlogged) (r : Request) (s : σ) :
    ∃ answer r' s' e, exchange h staged r s = ⟨.ok answer, r', s', e⟩ := by
  have hplain := transmit_failsPlainly hf hc r s
  rw [exchange_apply]
  rcases hrun : transmit h staged r s with ⟨f | raw, r', s', e⟩
  · rw [hrun] at hplain
    simp only [hplain f rfl, if_true]
    exact ⟨_, _, _, _, rfl⟩
  · exact ⟨_, _, _, _, rfl⟩

end plainly

/-! ## Section 4: The faults that are left -/

/-- Without a cancel event a policy that raises nothing fails only by a pause that cannot
    begin. -/
theorem PolicyAsked.fault (hh : h.Return φ) {status : Int} {r r' : Request} {s s' : σ}
    {cs : List (Consult R)} {f : Fault} {e : List (Event R)} (hr : ∀ v, r.policy ≠ .other v)
    (ha : PolicyAsked h false status r s cs ⟨.error f, r', s', e⟩) :
    ∃ millis why, .unpaused millis why ∈ cs ∧ millis.eq Backoff.stop = false ∧
      Unfit h false millis s' why ∧ f = .arithmetic why := by
  cases ha with
  | misplaced other => exact absurd other (hr _)
  | requiredFailed _ call => exact ((hh.isBackoffRequired _ _).not_error call).elim
  | nextFailed _ _ next => exact ((hh.nextBackoff _).not_error next).elim
  | unpaused _ _ _ go unfit => exact ⟨_, _, by simp, go, unfit, rfl⟩
  | cut _ _ _ _ _ woken => cases woken.1

/-- Why the questions of a response end a run without a cancel event although no hook
    raises anything. -/
inductive Consult.Stuck (h : Hooks R σ) (response : Response) (settled : Request)
    (settledAt : σ) (cs : List (Consult R)) : Fault → Prop where
  /-- The pause that the policy wants cannot begin. -/
  | pause {millis : Number R} {why : ArithFault} (asked : .unpaused millis why ∈ cs)
      (go : millis.eq Backoff.stop = false) (unfit : Unfit h false millis settledAt why) :
      Consult.Stuck h response settled settledAt cs (.arithmetic why)
  /-- The location of a redirect that the request follows is no URL. -/
  | redirect {location : String} {f : Fault} (asked : .redirect (.error f) ∈ cs)
      (moved : response.headers.field? .location = some location)
      (followed : settled.followRedirects.isSet = true)
      (code : Status.isRedirect response.status = true)
      (unresolved : resolveFrom settled.url location = .error f) :
      Consult.Stuck h response settled settledAt cs f

omit [Arith R] in
theorem redirectTarget_error {r : Request} {status : Int} {headers : Headers} {f : Fault}
    (ht : r.redirectTarget status headers = .error f) :
    ∃ location, headers.field? .location = some location ∧ r.followRedirects.isSet = true ∧
      Status.isRedirect status = true ∧ resolveFrom r.url location = .error f := by
  unfold Request.redirectTarget at ht
  cases hlocation : headers.field? .location with
  | none =>
    rw [hlocation] at ht
    cases ht
  | some location =>
    rw [hlocation] at ht
    by_cases hfollow : (r.followRedirects.isSet && Status.isRedirect status) = true
    · simp only [hfollow, if_true] at ht
      obtain ⟨hset, hcode⟩ := Bool.and_eq_true_iff.mp hfollow
      refine ⟨location, rfl, hset, hcode, ?_⟩
      cases hresolve : resolveFrom r.url location with
      | error g =>
        rw [hresolve] at ht
        cases ht
        rfl
      | ok target =>
        rw [hresolve] at ht
        cases ht
    · simp only [hfollow] at ht
      cases ht

theorem Offered.fault (hh : h.Return φ) (hp : h.Preserve Request.Placed) {response : Response}
    {r r' : Request} {s s' : σ} {cs : List (Consult R)} {f : Fault} {e : List (Event R)}
    (hr : r.Placed) (ho : Offered h false response r s cs ⟨.error f, r', s', e⟩) :
    Consult.Stuck h response r' s' cs f := by
  cases ho with
  | handlerFailed handler => exact (handler.returns hh hr.handler).elim
  | policyFailed handler policy =>
    have hplaced : Request.Placed _ := handler.preserved hp hr
    obtain ⟨millis, why, hasked, hgo, hunfit, rfl⟩ := policy.fault hh hplaced.policy
    exact .pause (List.mem_append_right _ hasked) hgo hunfit
  | redirectFailed handler policy rule =>
    obtain ⟨location, hmoved, hfollow, hcode, hresolve⟩ := redirectTarget_error rule
    exact .redirect (by simp) hmoved hfollow hcode hresolve

/-- A location that is no URL ends the questions. -/
theorem Offered.stuck_redirect {cancellable : Bool} {response : Response} {r : Request} {s : σ}
    {cs : List (Consult R)} {o : Outcome (Event R) σ (Option (Reason × R))}
    (ho : Offered h cancellable response r s cs o) {f : Fault}
    (asked : .redirect (.error f) ∈ cs) : o.result = .error f := by
  cases ho with
  | handlerFailed handler | claimed handler => exact absurd asked (handler.no_redirect.2 _)
  | policyFailed handler policy | paused handler policy =>
    have hc := (List.mem_append.mp asked).resolve_left (handler.no_redirect.2 _)
    exact absurd hc (policy.no_redirect _)
  | redirectFailed handler policy =>
    simp only [List.append_assoc, List.mem_append, List.mem_singleton, handler.no_redirect.2,
      policy.no_redirect, false_or, Consult.redirect.injEq, Except.error.injEq] at asked
    rw [asked]
  | stayed handler policy | moved handler policy =>
    simp [handler.no_redirect.2, policy.no_redirect] at asked

/-- Questions that are stuck end the run with the fault. -/
theorem Offered.stuck {cancellable : Bool} {response : Response} {r settled : Request}
    {s settledAt : σ} {cs : List (Consult R)} {o : Outcome (Event R) σ (Option (Reason × R))}
    (ho : Offered h cancellable response r s cs o) {f : Fault}
    (hs : Consult.Stuck h response settled settledAt cs f) : o.result = .error f := by
  cases hs with
  | pause asked => exact ho.stopped_by asked rfl
  | redirect asked => exact ho.stuck_redirect asked

end Engine

/-! ## Section 5: Playback -/

namespace Playback

variable {R γ : Type} [Arith R] {φ : Request → Nat → γ}

/-- Playback raises nothing, and its hooks leave the count of exchanges alone. -/
theorem returns (p : Playback R) : p.hooks.Return φ where
  resetPolicy _ := Run.returns_pure ()
  isBackoffRequired id status := Run.returns_pure (p.requires id status)
  nextBackoff id := Run.returns_pure (p.pauses id)
  handle id response _ := Run.returns_pure (p.accepts id response)
  onRequest _ _ := Run.returns_pure ()
  onRetry _ _ := Run.returns_pure ()
  onSuccess _ _ := Run.returns_pure ()
  onFailure _ _ := Run.returns_pure ()

/-- Playback fails plainly if its script does. -/
theorem failPlainly (p : Playback R)
    (hscript : ∀ k f, p.script k = .error f → f.isExchange = true) : p.hooks.FailPlainly where
  announce _ := Run.failsOnly_pure ()
  writeSource _ := Run.failsOnly_pure []
  exchange _ _ := fun _ k f hf => hscript k f hf

end Playback

end Redial
