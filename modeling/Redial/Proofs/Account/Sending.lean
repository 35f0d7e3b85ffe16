import Redial.Engine.Attempt
import Redial.Proofs.Outcome

/-! # Sending

    The part of an attempt up to its answer.  An opening checks the cancel event,
    stages the request as it is and tells a callback of the attempt; the exchange
    hands what was staged to the transport and takes the response, or the failure
    that may be retried. -/

namespace Redial.Engine

variable {R σ : Type} {h : Hooks R σ}

/-! ## Section 1: Callbacks -/

/-- The event that a callback is called with, if the chosen one is set. -/
def told (callbacks : Slot Callbacks) (choose : Callbacks → Option Nat) (event : Event R) :
    List (Event R) :=
  match callbacks with
  | .hook c => if (choose c).isSome then [event] else []
  | _ => []

theorem tell_own_events (callbacks : Slot Callbacks) (choose : Callbacks → Option Nat)
    (wanted : String) (event : Event R) (call : Nat → Hook σ Unit) (hown : event.isOwn = true)
    (r : Request) (s : σ) :
    own (tell callbacks choose wanted event call r s).events = told callbacks choose event := by
  cases callbacks with
  | empty => rfl
  | other v =>
    simp only [tell, told]
    cases v.isSet <;> rfl
  | hook c =>
    simp only [tell, told]
    cases choose c with
    | none => rfl
    | some id => simp [hown]

/-- A callback is told of nothing, or of the event. -/
theorem told_cases (callbacks : Slot Callbacks) (choose : Callbacks → Option Nat)
    (event : Event R) :
    told callbacks choose event = [] ∨ told callbacks choose event = [event] := by
  unfold told
  split
  · split
    · exact .inr rfl
    · exact .inl rfl
  · exact .inl rfl

theorem filter_told {p : Event R → Bool} (callbacks : Slot Callbacks)
    (choose : Callbacks → Option Nat) {event : Event R} (hp : p event = false) :
    (told callbacks choose event).filter p = [] := by
  rcases told_cases callbacks choose event with hnil | hone
  · rw [hnil]
    rfl
  · rw [hone, List.filter_cons, hp]
    rfl

theorem sent_told (callbacks : Slot Callbacks) (choose : Callbacks → Option Nat)
    {event : Event R} (hevent : event.isTold = true) :
    sent (told callbacks choose event) = [] := by
  rcases told_cases callbacks choose event with hnil | hone
  · rw [hnil]
    rfl
  · rw [hone]
    cases event <;> first | rfl | cases hevent

theorem steps_told (callbacks : Slot Callbacks) (choose : Callbacks → Option Nat)
    {event : Event R} (hevent : event.isTold = true) :
    steps (told callbacks choose event) = [] := by
  refine filter_told callbacks choose ?_
  cases hstep : event.isStep with
  | false => rfl
  | true =>
    rw [event.told_of_isStep hstep] at hevent
    cases hevent

/-! ## Section 2: Checks and staging -/

theorem checkCancelled_clear {cancellable : Bool} {s : σ}
    (clear : (cancellable && h.isCancelled s) = false) (r : Request) :
    checkCancelled h cancellable r s = ⟨.ok (), r, s, []⟩ := by
  unfold checkCancelled
  rw [Run.state_bind, clear]
  rfl

theorem checkCancelled_set {cancellable : Bool} {s : σ}
    (set : (cancellable && h.isCancelled s) = true) (r : Request) :
    checkCancelled h cancellable r s = ⟨.error (.cancelled r.method r.url), r, s, []⟩ := by
  unfold checkCancelled
  rw [Run.state_bind, set]
  rfl

theorem checkTransport_apply (wanted : String) (r : Request) :
    ∃ x, ∀ s, (checkTransport wanted : Run (Event R) σ Unit) r s = ⟨x, r, s, []⟩ := by
  unfold checkTransport
  simp only [Run.request_bind]
  match r.replacement with
  | some v => exact ⟨_, fun _ => rfl⟩
  | none => exact ⟨_, fun _ => rfl⟩

theorem logAll_apply (debug : Bool) (channel : Channel) (r : Request) (s : σ) :
    ∀ texts, ∃ notes, logAll debug channel texts r s = ⟨.ok (), r, s, notes⟩
  | [] => ⟨_, rfl⟩
  | text :: texts => by
    obtain ⟨notes, htexts⟩ := logAll_apply debug channel r s texts
    unfold logAll
    rw [Run.bind_ok (Run.log_apply debug channel text r s), htexts]
    exact ⟨_, rfl⟩

theorem logRequest_apply (h : Hooks R σ) (text : String) (r : Request) (s : σ) :
    ∃ notes : List Note, logRequest h text r s = ⟨.ok (), r, s, notes.map .ofNote⟩ := by
  unfold logRequest
  rw [Run.request_bind]
  exact ⟨_, Run.ofHook_eq (Run.log_apply _ _ _ r s)⟩

/-- A transmission is staged from the request as it is, unless the transport has been
    replaced. -/
theorem stage_apply (h : Hooks R σ) (r : Request) (s : σ) :
    (∃ v, r.replacement = some v ∧
      stage h r s = ⟨.error (.notAHook v.kindName "build_request"), r, s, []⟩) ∨
    (r.replacement = none ∧ ∃ notes : List Note, stage h r s
      = ⟨.ok (stagedOf h.debug r), r, s, .staged (stagedOf h.debug r) :: notes.map .ofNote⟩) := by
  unfold stage checkTransport
  rw [bind_assoc, Run.request_bind]
  match hslot : r.replacement with
  | some v => exact .inl ⟨v, rfl, rfl⟩
  | none =>
    refine .inr ⟨rfl, ?_⟩
    rw [pure_bind, Run.request_bind, Run.emit_bind]
    cases r.logging.isSet with
    | false => exact ⟨[], rfl⟩
    | true =>
      obtain ⟨notes, hlog⟩ :=
        logAll_apply h.debug .execution r s (stagedLog (stagedOf h.debug r))
      rw [if_pos rfl, Run.bind_ok (Run.ofHook_eq hlog)]
      exact ⟨notes, by simp⟩

/-! ## Section 3: Openings -/

/-- What callbacks are told before an attempt. -/
def requestInfo (r : Request) (n : Nat) : RequestInfo := ⟨r.url, r.method, n + 1, r.retries⟩

/-- The part of an attempt before it is sent. -/
def opening (h : Hooks R σ) (cancellable : Bool) (callbacks : Slot Callbacks) (n : Nat) :
    Run (Event R) σ Staged := do
  checkCancelled h cancellable
  let staged ← stage h
  let r ← Run.request
  let info := requestInfo r n
  tell callbacks Callbacks.onRequest "on_request" (.requested info) (h.onRequest · info)
  return staged

/-- What the engine reports when a transmission has been staged from a request. -/
def openingEvents (debug : Bool) (callbacks : Slot Callbacks) (n : Nat) (r : Request) :
    List (Event R) :=
  .staged (stagedOf debug r) ::
    told callbacks Callbacks.onRequest (.requested (requestInfo r n))

theorem sent_openingEvents (debug : Bool) (callbacks : Slot Callbacks) (n : Nat) (r : Request) :
    sent (openingEvents debug callbacks n r : List (Event R)) = [] :=
  sent_told callbacks Callbacks.onRequest rfl

theorem steps_openingEvents (debug : Bool) (callbacks : Slot Callbacks) (n : Nat) (r : Request) :
    steps (openingEvents debug callbacks n r : List (Event R)) = [] :=
  steps_told callbacks Callbacks.onRequest rfl

/-- An opening stages the request as it is and tells a callback of it; it fails at a
    replaced transport, or when the callback raises. -/
theorem opening_apply {cancellable : Bool} {s : σ}
    (clear : (cancellable && h.isCancelled s) = false) (callbacks : Slot Callbacks) (n : Nat)
    (r : Request) :
    (∃ v, r.replacement = some v ∧ opening h cancellable callbacks n r s
      = ⟨.error (.notAHook v.kindName "build_request"), r, s, []⟩) ∨
    (r.replacement = none ∧ ∃ x r' s' e, ∃ notes : List Note,
      tell callbacks Callbacks.onRequest "on_request" (.requested (requestInfo r n))
        (h.onRequest · (requestInfo r n)) r s = ⟨x, r', s', e⟩ ∧
      own e = told callbacks Callbacks.onRequest (.requested (requestInfo r n)) ∧
      opening h cancellable callbacks n r s = ⟨x.map fun _ => stagedOf h.debug r, r', s',
        .staged (stagedOf h.debug r) :: notes.map .ofNote ++ e⟩) := by
  unfold opening
  rw [Run.bind_ok (checkCancelled_clear clear r), Outcome.after_nil]
  rcases stage_apply h r s with ⟨v, hslot, hstage⟩ | ⟨hslot, notes, hstage⟩
  · exact .inl ⟨v, hslot, by rw [Run.bind_error hstage]⟩
  · refine .inr ⟨hslot, ?_⟩
    rw [Run.bind_ok hstage, Run.request_bind]
    rcases htell : tell callbacks Callbacks.onRequest "on_request" (.requested (requestInfo r n))
      (h.onRequest · (requestInfo r n)) r s with ⟨x, r', s', e⟩
    have htold := tell_own_events (R := R) callbacks Callbacks.onRequest "on_request"
      (.requested (requestInfo r n)) (h.onRequest · (requestInfo r n)) rfl r s
    rw [htell] at htold
    refine ⟨x, r', s', e, notes, rfl, htold, ?_⟩
    simp only [requestInfo] at htell
    simp only [requestInfo, Run.bind_const htell, Outcome.after_mk]

theorem opening_own_events {cancellable : Bool} {s : σ}
    (clear : (cancellable && h.isCancelled s) = false) (callbacks : Slot Callbacks) (n : Nat)
    (r : Request) :
    own (opening h cancellable callbacks n r s).events = [] ∨
      own (opening h cancellable callbacks n r s).events
        = openingEvents h.debug callbacks n r := by
  rcases opening_apply clear callbacks n r with
    ⟨v, -, hrun⟩ | ⟨-, x, r', s', e, notes, -, htold, hrun⟩
  · left
    rw [hrun]
    rfl
  · right
    rw [hrun]
    simp [openingEvents, Event.isOwn, htold]

/-- What has been staged was staged from the request as the attempt began. -/
theorem opening_sent {cancellable : Bool} {callbacks : Slot Callbacks} {n : Nat}
    {r r' : Request} {s s' : σ} {staged : Staged} {e : List (Event R)}
    (clear : (cancellable && h.isCancelled s) = false)
    (run : opening h cancellable callbacks n r s = ⟨.ok staged, r', s', e⟩) :
    r.replacement = none ∧ staged = stagedOf h.debug r ∧
      own e = openingEvents h.debug callbacks n r := by
  rcases opening_apply clear callbacks n r with
    ⟨v, -, hrun⟩ | ⟨hslot, x, r₁, s₁, e₁, notes, -, htold, hrun⟩
  · rw [hrun] at run
    cases run
  · rw [hrun] at run
    cases x with
    | error f => cases run
    | ok _ =>
      cases run
      refine ⟨hslot, rfl, ?_⟩
      simp [openingEvents, Event.isOwn, htold]

/-! ## Section 4: Exchanges -/

/-- The exchange, and the response that is made from its result. -/
def exchange (h : Hooks R σ) (staged : Staged) : Run (Event R) σ (Except Fault Response) := do
  match ← Run.capture Fault.isExchange (transmit h staged) with
  | .error fault => return .error fault
  | .ok raw => do
    let r ← Run.request
    return .ok (.ofRaw raw r.method r.url)

/-- A transmission is reported once, before the transport is given it. -/
theorem transmit_own_events (h : Hooks R σ) (staged : Staged) (r : Request) (s : σ) :
    own (transmit h staged r s).events = [.transmitted staged] := by
  have hquiet : (Run.ofHook (h.announce staged) >>= fun _ =>
      Run.ofHook (readBody h staged) >>= fun body =>
        (Run.ofHook (h.exchange staged body) : Run (Event R) σ RawResponse)).Quiet :=
    Run.quiet_bind (Run.quiet_ofHook _) fun _ =>
      Run.quiet_bind (Run.quiet_ofHook _) fun _ => Run.quiet_ofHook _
  unfold transmit
  rw [Run.emit_bind, Outcome.after_events, own_append, hquiet r s]
  rfl

theorem exchange_apply (h : Hooks R σ) (staged : Staged) (r : Request) (s : σ) :
    exchange h staged r s =
      match transmit h staged r s with
      | ⟨.ok raw, r', s', e⟩ => ⟨.ok (.ok (.ofRaw raw r'.method r'.url)), r', s', e⟩
      | ⟨.error f, r', s', e⟩ =>
        ⟨if f.isExchange then .ok (.error f) else .error f, r', s', e⟩ := by
  unfold exchange
  rcases hrun : transmit h staged r s with ⟨f | raw, r', s', e⟩
  · have hcapture := Run.capture_error (p := Fault.isExchange) hrun
    by_cases hf : f.isExchange = true
    · rw [if_pos hf] at hcapture
      rw [Run.bind_ok hcapture]
      simp [hf]
    · rw [if_neg hf] at hcapture
      rw [Run.bind_error hcapture]
      simp [hf]
  · rw [Run.bind_ok (Run.capture_ok hrun)]
    simp

/-- Only a failed exchange is taken as an answer; any other fault ends the run. -/
theorem exchange_failed {staged : Staged} {r r' : Request} {s s' : σ} {f : Fault}
    {e : List (Event R)} (run : exchange h staged r s = ⟨.ok (.error f), r', s', e⟩) :
    f.isExchange = true := by
  rw [exchange_apply] at run
  rcases htransmit : transmit h staged r s with ⟨g | raw, r₁, s₁, e₁⟩ <;> rw [htransmit] at run
  -- a fault of the transmission is an answer if it is captured, and the end otherwise
  · by_cases hg : g.isExchange = true
    · simp only [if_pos hg] at run
      cases run
      exact hg
    · simp only [if_neg hg] at run
      cases run
  · cases run

/-- A fault that is no failed exchange ends the run. -/
theorem exchange_broken {staged : Staged} {r r' : Request} {s s' : σ} {f : Fault}
    {e : List (Event R)} (run : exchange h staged r s = ⟨.error f, r', s', e⟩) :
    f.isExchange = false := by
  rw [exchange_apply] at run
  rcases htransmit : transmit h staged r s with ⟨g | raw, r₁, s₁, e₁⟩ <;> rw [htransmit] at run
  · by_cases hg : g.isExchange = true
    · simp only [if_pos hg] at run
      cases run
    · simp only [if_neg hg] at run
      cases run
      exact Bool.eq_false_iff.mpr hg
  · cases run

theorem exchange_own_events (h : Hooks R σ) (staged : Staged) (r : Request) (s : σ) :
    own (exchange h staged r s).events = [.transmitted staged] := by
  rw [exchange_apply, ← transmit_own_events h staged r s]
  rcases transmit h staged r s with ⟨f | raw, r', s', e⟩ <;> rfl

end Redial.Engine
