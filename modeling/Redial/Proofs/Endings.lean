import Redial.Proofs.Failures

/-! # What a fault tells of the ending

    Four kinds of faults are raised by the engine in one place each: the error of a
    response, a failed exchange, and the two cancellations.  Such a fault is the mark of
    an ending, `Fault.marks`.  If handlers, policies and callbacks raise nothing, a run
    that ends with a marked fault has the ending that the fault is the mark of, unless
    the transport raised the fault itself.

    All other faults of the engine have no mark.  This is found part by part, by what
    each part of an attempt can raise. -/

namespace Redial

/-- The ending that a fault is the mark of, if the engine raised it. -/
def Fault.marks : Fault → Option Engine.Ending
  | .response _ => some .rejected
  | .cancelled _ _ => some .cancelled
  | .cancelledWaiting => some .cancelledPausing
  | f => if f.isExchange then some .lost else none

theorem Fault.marks_of_isExchange {f : Fault} (hf : f.isExchange = true) :
    f.marks = some .lost := by
  cases f with
  | raised => exact if_pos hf
  | badLocation | stillPending => rfl
  | _ => cases hf

/-- A run that raises no marked fault. -/
abbrev Run.Unmarked {ε σ α : Type} (x : Run ε σ α) : Prop :=
  x.FailsOnly fun f => f.marks = none

namespace Engine

variable {R σ : Type} {h : Hooks R σ} {cancellable : Bool} {callbacks : Slot Callbacks}

/-! ## Section 1: The parts of an attempt -/

theorem resolveFrom_unmarked {current : Value} {location : String} {f : Fault}
    (hf : resolveFrom current location = .error f) : f.marks = none := by
  rcases resolveFrom_fault hf with ⟨g, rfl⟩ | ⟨v, rfl⟩
  · rfl
  · rfl

theorem checkNonNegative_unmarked {name : String} {v : Value} {f : Fault}
    (hf : checkNonNegative name v = .error f) : f.marks = none := by
  unfold checkNonNegative at hf
  split at hf
  · split at hf
    · cases hf
      rfl
    · cases hf
  · cases hf
    rfl

/-- A budget cannot be spent for two reasons: it is no number to subtract from, or nothing
    is left of it. -/
theorem spent_unmarked {r : Request} {f : Fault} (hf : spent? r = .error f) : f.marks = none := by
  unfold spent? Request.setRetries at hf
  cases hsub : r.retries.sub (.whole 1) with
  | error a =>
    rw [hsub] at hf
    cases hf
    rfl
  | ok left =>
    rw [hsub] at hf
    simp only [Run.mapError_ok, bind, Except.bind] at hf
    cases hcheck : checkNonNegative Setting.retries.name (.number left) with
    | error g =>
      rw [hcheck] at hf
      cases hf
      exact checkNonNegative_unmarked hcheck
    | ok left =>
      rw [hcheck] at hf
      cases hf

theorem checkTransport_unmarked (wanted : String) :
    (checkTransport wanted : Run (Event R) σ Unit).Unmarked := by
  unfold checkTransport
  refine Run.failsOnly_bind Run.failsOnly_request fun r => ?_
  cases r.replacement with
  | none => exact Run.failsOnly_pure ()
  | some v => exact Run.failsOnly_throw rfl

theorem checkMethod_unmarked : (checkMethod h).Unmarked := by
  unfold checkMethod
  refine Run.failsOnly_bind Run.failsOnly_request fun r => ?_
  refine Run.failsOnly_ite (Run.failsOnly_throw rfl) (Run.failsOnly_ite ?_ (Run.failsOnly_pure ()))
  refine Run.failsOnly_bind (checkTransport_unmarked _) fun _ => ?_
  exact Run.failsOnly_ite (Run.failsOnly_throw rfl) (Run.failsOnly_pure ())

theorem resetPolicy_unmarked (hh : h.RaiseNothing) : (resetPolicy h).Unmarked := by
  unfold resetPolicy
  refine Run.failsOnly_bind Run.failsOnly_request fun r => ?_
  cases r.policy with
  | empty => exact Run.failsOnly_pure ()
  | other v => exact Run.failsOnly_throw rfl
  | hook policy =>
    have hemit : (Run.emit .policyReset : Run (Event R) σ Unit).Returns fun _ _ => () :=
      Run.returns_emit _
    have hreset := Run.returns_ofHook (R := R) (hh.resetPolicy policy)
    exact Run.failsOnly_bind hemit.failsOnly fun _ => hreset.failsOnly

/-- An opening that finds the cancel event clear. -/
theorem opening_unmarked (hh : h.RaiseNothing) (hcallbacks : callbacks.Harmless) {n : Nat}
    {r r' : Request} {s s' : σ} {f : Fault} {e : List (Event R)}
    (clear : (cancellable && h.isCancelled s) = false)
    (run : opening h cancellable callbacks n r s = ⟨.error f, r', s', e⟩) : f.marks = none := by
  rcases opening_apply clear callbacks n r with ⟨v, -, hrun⟩ | ⟨hslot, -⟩
  · rw [hrun] at run
    cases run
    rfl
  · obtain ⟨r₁, s₁, e₁, hrun, -⟩ := opening_returns hh hcallbacks clear n hslot
    rw [hrun] at run
    cases run

theorem HandlerAsked.unmarked (hh : h.RaiseNothing) {response : Response} {r r' : Request}
    {s s' : σ} {cs : List (Consult R)} {f : Fault} {e : List (Event R)}
    (ha : HandlerAsked h response r s cs ⟨.error f, r', s', e⟩) : f.marks = none := by
  cases ha with
  | misplaced => rfl
  | asked hook call => exact ((returns_ask hh response true _).not_error call).elim

variable [Arith R] {start : R} {n : Nat}

/-- What a policy that raises nothing ends with is no marked fault, unless the cancel event
    ended its pause. -/
theorem PolicyAsked.unmarked (hh : h.RaiseNothing) {status : Int} {r r' : Request} {s s' : σ}
    {cs : List (Consult R)} {f : Fault} {e : List (Event R)}
    (ha : PolicyAsked h cancellable status r s cs ⟨.error f, r', s', e⟩) :
    f.marks = none ∨ ∃ millis, .pause millis (.error .cancelledWaiting) ∈ cs := by
  cases ha with
  | misplaced => exact .inl rfl
  | requiredFailed _ call => exact ((hh.isBackoffRequired _ _).not_error call).elim
  | nextFailed _ _ next => exact ((hh.nextBackoff _).not_error next).elim
  | unpaused => exact .inl rfl
  | @cut _ millis => exact .inr ⟨millis, by simp⟩

theorem Offered.unmarked (hh : h.RaiseNothing) {response : Response} {r r' : Request} {s s' : σ}
    {cs : List (Consult R)} {f : Fault} {e : List (Event R)}
    (ho : Offered h cancellable response r s cs ⟨.error f, r', s', e⟩) :
    f.marks = none ∨ ∃ millis, .pause millis (.error .cancelledWaiting) ∈ cs := by
  cases ho with
  | handlerFailed handler => exact .inl (handler.unmarked hh)
  | policyFailed handler policy =>
    refine (policy.unmarked hh).imp_right ?_
    rintro ⟨millis, hpause⟩
    exact ⟨millis, List.mem_append_right _ hpause⟩
  | redirectFailed handler policy rule =>
    obtain ⟨location, -, -, -, hresolve⟩ := redirectTarget_error rule
    exact .inl (resolveFrom_unmarked hresolve)

/-! ## Section 2: Attempts and runs -/

/-- A marked fault is the mark of the ending, unless the transport raised it itself. -/
def Ending.Marked (ending : Ending) (f : Fault) : Prop :=
  (ending = .broken ∧ f.isExchange = false) ∨ f.marks = none ∨ f.marks = some ending

theorem Ending.Marked.eq {ending mark : Ending} {f : Fault} (hm : ending.Marked f)
    (hmark : f.marks = some mark) (hraised : f.isExchange = true ∨ ending ≠ .broken) :
    ending = mark := by
  rcases hm with ⟨hbroken, hplain⟩ | hnone | hsome
  · rcases hraised with hexchange | hother
    · rw [hplain] at hexchange
      cases hexchange
    · exact absurd hbroken hother
  · rw [hmark] at hnone
    cases hnone
  · rw [hmark] at hsome
    exact (Option.some.inj hsome).symm

theorem Attempted.marked (hh : h.RaiseNothing) (hcallbacks : callbacks.Harmless) {r : Request}
    {s : σ} {t : Option (Turn R σ)} {ending : Ending} {o : Outcome (Event R) σ (Option Response)}
    (ha : Attempted h cancellable callbacks start n r s t (some ending) o) {f : Fault}
    (hf : o.result = .error f) : ending.Marked f := by
  cases ha with
  | cancelled =>
    cases hf
    exact .inr (.inr rfl)
  | unsent clear run =>
    cases hf
    exact .inr (.inl (opening_unmarked hh hcallbacks clear run))
  | broken clear opened run₁ run₂ =>
    cases hf
    exact .inl ⟨rfl, exchange_broken run₂⟩
  | taken clear opened run₁ run₂ settled closed =>
    rw [Outcome.after_result] at hf
    cases closed with
    | halted uncut closing =>
      cases hf
      cases settled with
      | offered answer bad funded run questions =>
        rcases questions.unmarked hh with hnone | hcut
        · exact .inr (.inl hnone)
        · exact absurd hcut uncut
    | cancelledPausing =>
      cases hf
      exact .inr (.inr rfl)
    | overdrawn spend =>
      cases hf
      exact .inr (.inl (spent_unmarked spend))
    | lost answer =>
      cases hf
      rw [answer] at run₂
      exact .inr (.inr (Fault.marks_of_isExchange (exchange_failed run₂)))
    | undescribed =>
      cases hf
      exact .inr (.inl rfl)
    | rejected =>
      cases hf
      exact .inr (.inr rfl)
    | succeeded | returned => cases hf
    -- no callback raises anything
    | unretried _ run => exact ((returns_announce hh hcallbacks _ _ _ _ _).not_error run).elim
    | lostUntold _ run => exact ((returns_report hh hcallbacks _ _ _ _).not_error run).elim
    | succeededUntold _ _ run => exact ((returns_succeed hh hcallbacks _ _ _).not_error run).elim
    | rejectedUntold _ _ _ _ run =>
      exact ((returns_report hh hcallbacks _ _ _ _).not_error run).elim

theorem Course.marked (hh : h.RaiseNothing) (hcallbacks : callbacks.Harmless) {r : Request}
    {s : σ} {turns : List (Turn R σ)} {ending : Option Ending}
    {o : Outcome (Event R) σ (Option Response)}
    (hc : Course h cancellable callbacks start n r s turns ending o) {f : Fault}
    (hf : o.result = .error f) : ∀ e, ending = some e → e.Marked f := by
  induction hc with
  | cut => cases hf
  | last attempt =>
    rintro e ⟨⟩
    exact attempt.marked hh hcallbacks hf
  | again attempt rest ih => exact ih hf

theorem Executed.marked (hh : h.RaiseNothing) {r : Request} {s : σ}
    (hcallbacks : (resetPolicy h r s).request.callbacks.Harmless) {turns : List (Turn R σ)}
    {ending : Option Ending} {o : Outcome (Event R) σ (Option Response)}
    (he : Executed h cancellable r s turns ending o) {f : Fault} (hf : o.result = .error f) :
    ∀ e, ending = some e → e.Marked f := by
  cases he with
  | refused method =>
    rintro e ⟨⟩
    cases hf
    exact .inr (.inl (checkMethod_unmarked.fault method))
  | unreset method reset =>
    rintro e ⟨⟩
    cases hf
    exact .inr (.inl ((resetPolicy_unmarked hh).fault reset))
  | run method reset course =>
    rw [reset] at hcallbacks
    exact course.marked hh hcallbacks hf

end Engine

end Redial
