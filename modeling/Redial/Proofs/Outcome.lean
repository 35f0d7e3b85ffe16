import Redial.Engine.Hooks

/-! # Outcomes of composed runs

    A run that is composed of two is opened in one of two ways: the first part
    ended with a fault, or it went through and the second part goes on from the
    request and the state that it left.  Two properties carry over from the parts
    to the whole:

    * `Run.Preserves P`: a request with the property `P` is left with it.
    * `own`: the events that the engine reports itself, in order.  A call into
      the surroundings reports none of them. -/

namespace Redial

/-! ## Section 1: Opening a composed run -/

/-- A checked computation that goes on went through first. -/
theorem ok_of_bind {ε α β : Type} {x : Except ε α} {f : α → Except ε β} {b : β}
    (h : (x >>= f) = .ok b) : ∃ a, x = .ok a ∧ f a = .ok b := by
  cases x with
  | error e => exact absurd h nofun
  | ok a => exact ⟨a, rfl, h⟩

theorem ok_of_map {ε α β : Type} {x : Except ε α} {f : α → β} {b : β} (h : x.map f = .ok b) :
    ∃ a, x = .ok a ∧ f a = b := by
  cases x with
  | error e => exact absurd h nofun
  | ok a => exact ⟨a, rfl, Except.ok.inj h⟩

namespace Outcome

variable {ε σ α : Type}

/-- The outcome with earlier events in front of its own. -/
def after (events : List ε) (o : Outcome ε σ α) : Outcome ε σ α :=
  { o with events := events ++ o.events }

@[simp] theorem after_result (events : List ε) (o : Outcome ε σ α) :
    (o.after events).result = o.result := rfl

@[simp] theorem after_request (events : List ε) (o : Outcome ε σ α) :
    (o.after events).request = o.request := rfl

@[simp] theorem after_state (events : List ε) (o : Outcome ε σ α) :
    (o.after events).state = o.state := rfl

@[simp] theorem after_events (events : List ε) (o : Outcome ε σ α) :
    (o.after events).events = events ++ o.events := rfl

@[simp] theorem after_mk (events more : List ε) (x : Except Fault α) (r : Request) (s : σ) :
    (Outcome.mk x r s more).after events = ⟨x, r, s, events ++ more⟩ := rfl

@[simp] theorem after_nil (o : Outcome ε σ α) : o.after [] = o := rfl

theorem after_after (first second : List ε) (o : Outcome ε σ α) :
    (o.after second).after first = o.after (first ++ second) := by
  simp [after]

end Outcome

namespace Run

variable {ε σ α β γ : Type}

theorem bind_ok {x : Run ε σ α} {f : α → Run ε σ β} {r r' : Request} {s s' : σ} {a : α}
    {events : List ε} (hx : x r s = ⟨.ok a, r', s', events⟩) :
    (x >>= f) r s = (f a r' s').after events := by
  rw [bind_apply, hx]
  rfl

theorem bind_error {x : Run ε σ α} {f : α → Run ε σ β} {r r' : Request} {s s' : σ} {e : Fault}
    {events : List ε} (hx : x r s = ⟨.error e, r', s', events⟩) :
    (x >>= f) r s = ⟨.error e, r', s', events⟩ := by
  rw [bind_apply, hx]

theorem bind_const {x : Run ε σ α} {r r' : Request} {s s' : σ} {y : Except Fault α}
    {events : List ε} (hx : x r s = ⟨y, r', s', events⟩) (b : β) :
    (x >>= fun _ => Pure.pure b) r s = ⟨y.map fun _ => b, r', s', events⟩ := by
  cases y with
  | error e =>
    rw [bind_error hx]
    rfl
  | ok a =>
    rw [bind_ok hx, pure_apply, Outcome.after_mk, List.append_nil]
    rfl

/-- A run either ended with a fault or went through. -/
theorem cases (x : Run ε σ α) (r : Request) (s : σ) :
    (∃ e r' s' events, x r s = ⟨.error e, r', s', events⟩) ∨
    (∃ a r' s' events, x r s = ⟨.ok a, r', s', events⟩) := by
  rcases x r s with ⟨e | a, r', s', events⟩
  · exact .inl ⟨e, r', s', events, rfl⟩
  · exact .inr ⟨a, r', s', events, rfl⟩

theorem ofHook_eq {R : Type} {x : Hook σ α} {r r' : Request} {s s' : σ} {a : Except Fault α}
    {notes : List Note} (hx : x r s = ⟨a, r', s', notes⟩) :
    (ofHook x : Run (Event R) σ α) r s = ⟨a, r', s', notes.map .ofNote⟩ := by
  simp only [ofHook, mapEvents, hx]

theorem capture_ok {p : Fault → Bool} {x : Run ε σ α} {r r' : Request} {s s' : σ} {a : α}
    {events : List ε} (hx : x r s = ⟨.ok a, r', s', events⟩) :
    capture p x r s = ⟨.ok (.ok a), r', s', events⟩ := by
  simp only [capture, hx]

theorem capture_error {p : Fault → Bool} {x : Run ε σ α} {r r' : Request} {s s' : σ} {e : Fault}
    {events : List ε} (hx : x r s = ⟨.error e, r', s', events⟩) :
    capture p x r s = ⟨if p e then .ok (.error e) else .error e, r', s', events⟩ := by
  simp only [capture, hx]
  cases p e <;> rfl

/-- Capturing a fault changes the result alone. -/
theorem capture_leaves (p : Fault → Bool) (x : Run ε σ α) (r : Request) (s : σ) :
    (capture p x r s).request = (x r s).request ∧ (capture p x r s).state = (x r s).state ∧
      (capture p x r s).events = (x r s).events := by
  rcases cases x r s with ⟨e, r', s', events, h⟩ | ⟨a, r', s', events, h⟩
  · rw [capture_error h, h]
    exact ⟨rfl, rfl, rfl⟩
  · rw [capture_ok h, h]
    exact ⟨rfl, rfl, rfl⟩

theorem log_apply (debug : Bool) (channel : Channel) (text : String) (r : Request) (s : σ) :
    (log debug channel text : Run Note σ Unit) r s
      = ⟨.ok (), r, s, if debug then [.log channel text] else []⟩ := by
  cases debug <;> rfl

@[simp] theorem throw_apply (f : Fault) (r : Request) (s : σ) :
    (throw f : Run ε σ α) r s = ⟨.error f, r, s, []⟩ := rfl

@[simp] theorem request_apply (r : Request) (s : σ) :
    (request : Run ε σ Request) r s = ⟨.ok r, r, s, []⟩ := rfl

@[simp] theorem state_apply (r : Request) (s : σ) :
    (state : Run ε σ σ) r s = ⟨.ok s, r, s, []⟩ := rfl

@[simp] theorem emit_apply (e : ε) (r : Request) (s : σ) :
    (emit e : Run ε σ Unit) r s = ⟨.ok (), r, s, [e]⟩ := rfl

@[simp] theorem setRequest_apply (r' r : Request) (s : σ) :
    (setRequest r' : Run ε σ Unit) r s = ⟨.ok (), r', s, []⟩ := rfl

@[simp] theorem setState_apply (s' : σ) (r : Request) (s : σ) :
    (setState s' : Run ε σ Unit) r s = ⟨.ok (), r, s', []⟩ := rfl

@[simp] theorem mapError_ok {ε' : Type} (f : ε → ε') (a : α) :
    (Except.ok a : Except ε α).mapError f = .ok a := rfl

@[simp] theorem mapError_error {ε' : Type} (f : ε → ε') (e : ε) :
    (Except.error e : Except ε α).mapError f = .error (f e) := rfl

@[simp] theorem lift_ok (a : α) : (lift (.ok a) : Run ε σ α) = Pure.pure a := rfl

@[simp] theorem lift_error (f : Fault) : (lift (.error f) : Run ε σ α) = throw f := rfl

@[simp] theorem request_bind (f : Request → Run ε σ β) (r : Request) (s : σ) :
    (request >>= f) r s = f r r s := rfl

@[simp] theorem state_bind (f : σ → Run ε σ β) (r : Request) (s : σ) :
    (state >>= f) r s = f s r s := rfl

@[simp] theorem throw_bind (e : Fault) (f : α → Run ε σ β) :
    ((throw e : Run ε σ α) >>= f) = throw e := rfl

@[simp] theorem emit_bind (e : ε) (f : Unit → Run ε σ β) (r : Request) (s : σ) :
    (emit e >>= f) r s = (f () r s).after [e] := rfl

@[simp] theorem setRequest_bind (r' : Request) (f : Unit → Run ε σ β) (r : Request) (s : σ) :
    (setRequest r' >>= f) r s = f () r' s := rfl

@[simp] theorem setState_bind (s' : σ) (f : Unit → Run ε σ β) (r : Request) (s : σ) :
    (setState s' >>= f) r s = f () r s' := rfl

end Run

/-! ## Section 2: What a run leaves alone -/

namespace Run

variable {ε σ α β : Type}

/-- A run that leaves a request with the property if it finds one, also when it ends
    with a fault. -/
def Preserves (P : Request → Prop) (x : Run ε σ α) : Prop :=
  ∀ r s, P r → P (x r s).request

variable {P : Request → Prop}

theorem Preserves.left {x : Run ε σ α} (hx : Preserves P x) {r r' : Request} {s s' : σ}
    {a : Except Fault α} {events : List ε} (run : x r s = ⟨a, r', s', events⟩) (hr : P r) :
    P r' := by
  have hleft := hx r s hr
  rwa [run] at hleft

theorem preserves_pure (a : α) : Preserves P (Pure.pure a : Run ε σ α) := fun _ _ hr => hr

theorem preserves_throw (f : Fault) : Preserves P (throw f : Run ε σ α) := fun _ _ hr => hr

theorem preserves_request : Preserves P (request : Run ε σ Request) := fun _ _ hr => hr

theorem preserves_state : Preserves P (state : Run ε σ σ) := fun _ _ hr => hr

theorem preserves_setState (s : σ) : Preserves P (setState s : Run ε σ Unit) := fun _ _ hr => hr

theorem preserves_emit (e : ε) : Preserves P (emit e : Run ε σ Unit) := fun _ _ hr => hr

theorem preserves_lift (x : Except Fault α) : Preserves P (lift x : Run ε σ α) := by
  cases x <;> exact fun _ _ hr => hr

theorem preserves_bind {x : Run ε σ α} {f : α → Run ε σ β} (hx : Preserves P x)
    (hf : ∀ a, Preserves P (f a)) : Preserves P (x >>= f) := by
  intro r s hr
  have hmiddle := hx r s hr
  rcases cases x r s with ⟨e, r', s', events, h⟩ | ⟨a, r', s', events, h⟩
  · rw [bind_error h]
    rwa [h] at hmiddle
  · rw [bind_ok h]
    rw [h] at hmiddle
    exact hf a r' s' hmiddle

theorem preserves_ite {p : Prop} [Decidable p] {x y : Run ε σ α} (hx : Preserves P x)
    (hy : Preserves P y) : Preserves P (if p then x else y) := by
  split
  · exact hx
  · exact hy

theorem preserves_capture {p : Fault → Bool} {x : Run ε σ α} (hx : Preserves P x) :
    Preserves P (capture p x) := by
  intro r s hr
  rw [(capture_leaves p x r s).1]
  exact hx r s hr

theorem preserves_ofHook {R : Type} {x : Hook σ α} (hx : Preserves P x) :
    Preserves P (ofHook x : Run (Event R) σ α) := hx

theorem preserves_of_kept {γ : Type} {φ : Request → γ} {x : Run ε σ α} (p : γ → Prop)
    (hx : ∀ value, Preserves (fun r => φ r = value) x) : Preserves (fun r => p (φ r)) x := by
  intro r s hr
  have hkept : φ (x r s).request = φ r := hx (φ r) r s rfl
  show p (φ (x r s).request)
  rwa [hkept]

theorem preserves_log (debug : Bool) (channel : Channel) (text : String) :
    Preserves P (log debug channel text : Run Note σ Unit) := by
  unfold log
  exact preserves_ite (preserves_emit _) (preserves_pure ())

end Run

/-- Surroundings all of whose calls preserve a property of the request. -/
structure Hooks.Preserve {R σ : Type} (h : Hooks R σ) (P : Request → Prop) : Prop where
  writeSource : ∀ id, (h.writeSource id).Preserves P
  announce : ∀ staged, (h.announce staged).Preserves P
  exchange : ∀ staged body, (h.exchange staged body).Preserves P
  resetPolicy : ∀ id, (h.resetPolicy id).Preserves P
  isBackoffRequired : ∀ id status, (h.isBackoffRequired id status).Preserves P
  nextBackoff : ∀ id, (h.nextBackoff id).Preserves P
  handle : ∀ id response supportsRetry, (h.handle id response supportsRetry).Preserves P
  onRequest : ∀ id info, (h.onRequest id info).Preserves P
  onRetry : ∀ id info, (h.onRetry id info).Preserves P
  onSuccess : ∀ id info, (h.onSuccess id info).Preserves P
  onFailure : ∀ id info, (h.onFailure id info).Preserves P

/-- Surroundings none of whose calls changes what `φ` reads off the request. -/
def Hooks.Keep {R σ γ : Type} (h : Hooks R σ) (φ : Request → γ) : Prop :=
  ∀ value, h.Preserve fun r => φ r = value

/-- What is said of something that is kept is preserved. -/
theorem Hooks.Keep.preserve {R σ γ : Type} {h : Hooks R σ} {φ : Request → γ} (hk : h.Keep φ)
    (p : γ → Prop) : h.Preserve fun r => p (φ r) where
  writeSource id := Run.preserves_of_kept p fun value => (hk value).writeSource id
  announce staged := Run.preserves_of_kept p fun value => (hk value).announce staged
  exchange staged body := Run.preserves_of_kept p fun value => (hk value).exchange staged body
  resetPolicy id := Run.preserves_of_kept p fun value => (hk value).resetPolicy id
  isBackoffRequired id status :=
    Run.preserves_of_kept p fun value => (hk value).isBackoffRequired id status
  nextBackoff id := Run.preserves_of_kept p fun value => (hk value).nextBackoff id
  handle id response supportsRetry :=
    Run.preserves_of_kept p fun value => (hk value).handle id response supportsRetry
  onRequest id info := Run.preserves_of_kept p fun value => (hk value).onRequest id info
  onRetry id info := Run.preserves_of_kept p fun value => (hk value).onRetry id info
  onSuccess id info := Run.preserves_of_kept p fun value => (hk value).onSuccess id info
  onFailure id info := Run.preserves_of_kept p fun value => (hk value).onFailure id info

/-- What is computed from something that is kept is kept. -/
theorem Hooks.Keep.map {R σ γ δ : Type} {h : Hooks R σ} {φ : Request → γ} (hk : h.Keep φ)
    (f : γ → δ) : h.Keep fun r => f (φ r) := fun value => hk.preserve fun x => f x = value

/-! ## Section 3: What the engine reports itself -/

/-- An event of the engine's own: neither a line of the debug log nor something
    that the surroundings report. -/
def Event.isOwn {R : Type} : Event R → Bool
  | .log _ _ => false
  | .seen _ => false
  | _ => true

/-- A call of a callback. -/
def Event.isTold {R : Type} : Event R → Bool
  | .requested _ | .retried _ | .succeeded _ | .failed _ => true
  | _ => false

/-- A step of the protocol between the engine, the transport and the policy. -/
def Event.isStep {R : Type} : Event R → Bool
  | .policyReset | .policyRequired _ _ | .policyNext _ => true
  | .transmitted _ | .slept _ | .waited _ => true
  | _ => false

/-- The steps of a run, in order. -/
def steps {R : Type} (events : List (Event R)) : List (Event R) := events.filter Event.isStep

/-- The engine's own events, in order. -/
def own {R : Type} (events : List (Event R)) : List (Event R) := events.filter Event.isOwn

section own

variable {R σ α : Type}

@[simp] theorem own_nil : own ([] : List (Event R)) = [] := rfl

@[simp] theorem own_append (xs ys : List (Event R)) : own (xs ++ ys) = own xs ++ own ys :=
  List.filter_append xs ys

@[simp] theorem own_cons (e : Event R) (es : List (Event R)) :
    own (e :: es) = if e.isOwn then e :: own es else own es := by
  simp [own, List.filter_cons]

@[simp] theorem own_notes (notes : List Note) :
    own (notes.map (Event.ofNote : Note → Event R)) = [] := by
  induction notes with
  | nil => rfl
  | cons note notes ih =>
    cases note <;> simpa [Event.ofNote, Event.isOwn] using ih

@[simp] theorem own_ofHook (x : Hook σ α) (r : Request) (s : σ) :
    own ((Run.ofHook x : Run (Event R) σ α) r s).events = [] :=
  own_notes (x r s).events

/-- The transmissions that were handed to the transport, in order. -/
def sent (events : List (Event R)) : List Staged :=
  events.filterMap fun
    | .transmitted s => some s
    | _ => none

/-- What callbacks were told of errors, in order. -/
def failures (events : List (Event R)) : List (FailureInfo R) :=
  events.filterMap fun
    | .failed info => some info
    | _ => none

@[simp] theorem sent_nil : sent ([] : List (Event R)) = [] := rfl

@[simp] theorem sent_append (xs ys : List (Event R)) : sent (xs ++ ys) = sent xs ++ sent ys :=
  List.filterMap_append

theorem sent_own (events : List (Event R)) : sent (own events) = sent events := by
  induction events with
  | nil => rfl
  | cons e events ih => cases e <;> simpa [Event.isOwn, sent, List.filterMap_cons] using ih

@[simp] theorem failures_nil : failures ([] : List (Event R)) = [] := rfl

@[simp] theorem failures_append (xs ys : List (Event R)) :
    failures (xs ++ ys) = failures xs ++ failures ys := List.filterMap_append

theorem failures_own (events : List (Event R)) : failures (own events) = failures events := by
  induction events with
  | nil => rfl
  | cons e events ih => cases e <;> simpa [Event.isOwn, failures, List.filterMap_cons] using ih

@[simp] theorem steps_nil : steps ([] : List (Event R)) = [] := rfl

@[simp] theorem steps_append (xs ys : List (Event R)) : steps (xs ++ ys) = steps xs ++ steps ys :=
  List.filter_append xs ys

/-- Where only the engine's own events are looked for, the others do not matter. -/
theorem filter_own {p : Event R → Bool} (hp : ∀ e, p e = true → e.isOwn = true)
    (events : List (Event R)) : (own events).filter p = events.filter p := by
  rw [own, List.filter_filter]
  refine List.filter_congr fun e _ => ?_
  cases he : p e with
  | false => rfl
  | true => rw [hp e he]; rfl

theorem Event.isOwn_of_isStep (e : Event R) (he : e.isStep = true) : e.isOwn = true := by
  cases e <;> first | rfl | cases he

theorem Event.isOwn_of_isTold (e : Event R) (he : e.isTold = true) : e.isOwn = true := by
  cases e <;> first | rfl | cases he

/-- No step is a call of a callback. -/
theorem Event.told_of_isStep (e : Event R) (he : e.isStep = true) : e.isTold = false := by
  cases e <;> first | rfl | cases he

theorem steps_own (events : List (Event R)) : steps (own events) = steps events :=
  filter_own Event.isOwn_of_isStep events

end own

/-- A run of which the engine reports nothing itself. -/
def Run.Quiet {R σ α : Type} (x : Run (Event R) σ α) : Prop := ∀ r s, own (x r s).events = []

namespace Run

variable {R σ α β : Type}

theorem quiet_ofHook (x : Hook σ α) : Quiet (ofHook x : Run (Event R) σ α) := own_ofHook x

theorem quiet_bind {x : Run (Event R) σ α} {f : α → Run (Event R) σ β} (hx : Quiet x)
    (hf : ∀ a, Quiet (f a)) : Quiet (x >>= f) := by
  intro r s
  have hr := hx r s
  rcases cases x r s with ⟨e, r', s', events, h⟩ | ⟨a, r', s', events, h⟩
  · rw [bind_error h]
    rwa [h] at hr
  · rw [h] at hr
    rw [bind_ok h, Outcome.after_events, own_append, hr, hf a r' s']
    rfl

end Run

end Redial
