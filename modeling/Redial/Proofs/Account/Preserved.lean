import Redial.Proofs.Account.Course
import Redial.Proofs.Frame

/-! # What stays through a course

    A property of the request that the surroundings preserve stays through every part
    of an attempt except where the engine itself changes the request: an accepted
    redirect moves it, and a retry takes one from the budget. -/

namespace Redial.Engine

variable {R σ : Type} {h : Hooks R σ} {cancellable : Bool} {callbacks : Slot Callbacks}
  {P : Request → Prop}

/-! ## Section 1: The parts of an attempt -/

theorem preserves_opening (hp : h.Preserve P) (cancellable : Bool) (callbacks : Slot Callbacks)
    (n : Nat) : (opening h cancellable callbacks n).Preserves P := by
  unfold opening
  refine Run.preserves_bind (preserves_checkCancelled _) fun _ => ?_
  refine Run.preserves_bind preserves_stage fun _ => ?_
  refine Run.preserves_bind Run.preserves_request fun r => ?_
  exact Run.preserves_bind (preserves_tell fun id => hp.onRequest id _) fun _ =>
    Run.preserves_pure _

theorem preserves_exchange (hp : h.Preserve P) (staged : Staged) :
    (exchange h staged).Preserves P := by
  unfold exchange
  refine Run.preserves_bind (Run.preserves_capture (preserves_transmit hp staged)) fun result => ?_
  split
  · exact Run.preserves_pure _
  · exact Run.preserves_bind Run.preserves_request fun r => Run.preserves_pure _

theorem preserves_announce (hp : h.Preserve P) (callbacks : Slot Callbacks) (n : Nat)
    (reason : Reason) (waited : R) (error : Option Fault) (status : Option Int) :
    (announce h callbacks n reason waited error status).Preserves P := by
  unfold announce
  refine Run.preserves_bind Run.preserves_request fun r => ?_
  exact Run.preserves_bind (preserves_logRequest h _) fun _ =>
    preserves_tell fun id => hp.onRetry id _

theorem preserves_resetPolicy (hp : h.Preserve P) : (resetPolicy h).Preserves P := by
  unfold resetPolicy
  refine Run.preserves_bind Run.preserves_request fun r => ?_
  split
  · exact Run.preserves_pure ()
  · exact Run.preserves_throw _
  · exact Run.preserves_bind (Run.preserves_emit _) fun _ =>
      Run.preserves_ofHook (hp.resetPolicy _)

variable [Arith R] {start : R} {n : Nat}

theorem preserves_report (hp : h.Preserve P) (callbacks : Slot Callbacks) (start : R) (n : Nat)
    (error : Fault) (status : Option Int) :
    (report h callbacks start n error status).Preserves P := by
  unfold report
  refine Run.preserves_bind (preserves_logRequest h _) fun _ => ?_
  refine Run.preserves_bind Run.preserves_request fun r => ?_
  refine Run.preserves_bind Run.preserves_state fun s => ?_
  exact preserves_tell fun id => hp.onFailure id _

theorem preserves_succeed (hp : h.Preserve P) (callbacks : Slot Callbacks) (start : R) (n : Nat)
    (response : Response) : (succeed h callbacks start n response).Preserves P := by
  unfold succeed
  refine Run.preserves_bind (preserves_logRequest h _) fun _ => ?_
  refine Run.preserves_bind Run.preserves_request fun r => ?_
  refine Run.preserves_bind Run.preserves_state fun s => ?_
  exact preserves_tell fun id => hp.onSuccess id _

/-! ## Section 2: Questions -/

omit [Arith R] in
theorem HandlerAsked.preserved (hp : h.Preserve P) {response : Response} {r : Request} {s : σ}
    {cs : List (Consult R)} {o : Outcome (Event R) σ Bool}
    (ha : HandlerAsked h response r s cs o) (hr : P r) : P o.request := by
  cases ha with
  | absent => exact hr
  | misplaced => exact hr
  | asked hook call => exact (preserves_ask hp response true _).left call hr

theorem PolicyAsked.preserved (hp : h.Preserve P) {status : Int} {r : Request} {s : σ}
    {cs : List (Consult R)} {o : Outcome (Event R) σ (Option R)}
    (ha : PolicyAsked h cancellable status r s cs o) (hr : P r) : P o.request := by
  cases ha with
  | absent => exact hr
  | misplaced => exact hr
  | requiredFailed _ call | unneeded _ call => exact (hp.isBackoffRequired _ status).left call hr
  | nextFailed _ call next | stopped _ call next =>
    exact (hp.nextBackoff _).left next ((hp.isBackoffRequired _ status).left call hr)
  | unpaused _ call next _ _ paused | cut _ call next _ _ _ paused | paused _ call next _ _ paused =>
    have hnext := (hp.nextBackoff _).left next ((hp.isBackoffRequired _ status).left call hr)
    exact (preserves_pause cancellable _).left paused hnext

/-- Without an accepted redirect the questions change only what the surroundings
    change. -/
theorem Offered.unmoved (hp : h.Preserve P) {response : Response} {r : Request} {s : σ}
    {cs : List (Consult R)} {o : Outcome (Event R) σ (Option (Reason × R))}
    (ho : Offered h cancellable response r s cs o)
    (hstay : ∀ target, .redirect (.ok (some target)) ∉ cs) (hr : P r) : P o.request := by
  cases ho with
  | handlerFailed handler | claimed handler => exact handler.preserved hp hr
  | policyFailed handler policy | paused handler policy =>
    exact policy.preserved hp (handler.preserved hp hr)
  | redirectFailed handler policy | stayed handler policy =>
    exact policy.preserved hp (handler.preserved hp hr)
  | @moved _ _ target => exact absurd (by simp) (hstay target)

/-! ## Section 3: Accounts -/

theorem Settled.preserved (hp : h.Preserve P)
    (hmoved : ∀ r status target, P r → P (Request.redirected r status target)) {t : Turn R σ}
    {trigger : Except Fault (Option (Reason × R))} {e : List (Event R)}
    (hs : Settled h cancellable t trigger e) (hr : P t.answered) : P t.settled := by
  cases hs with
  | lost _ _ unasked | resent _ _ unasked | success _ _ unasked => rwa [unasked.2.1]
  | unfunded _ _ _ unasked => rwa [unasked.2.1]
  | @offered response _ _ _ _ _ run _ =>
    exact (preserves_offer hp hmoved cancellable response).left run hr

/-- What the surroundings preserve holds after the questions of an answer, if they accept no
    redirect. -/
theorem Settled.unmoved (hp : h.Preserve P) {t : Turn R σ}
    {trigger : Except Fault (Option (Reason × R))} {e : List (Event R)}
    (hs : Settled h cancellable t trigger e)
    (hstay : ∀ target, .redirect (.ok (some target)) ∉ t.consults) (hr : P t.answered) :
    P t.settled := by
  cases hs with
  | lost _ _ unasked | resent _ _ unasked | success _ _ unasked => rwa [unasked.2.1]
  | unfunded _ _ _ unasked => rwa [unasked.2.1]
  | offered _ _ _ _ questions => exact questions.unmoved hp hstay hr

/-- An attempt that is closed by a retry leaves a request with one retry less, and every
    other ending the request as the questions left it, up to what the callbacks
    change. -/
theorem Closed.preserved {t : Turn R σ} {trigger : Except Fault (Option (Reason × R))}
    {ending : Option Ending} {o : Outcome (Event R) σ (Option Response)}
    (hc : Closed h callbacks start n t trigger ending o) :
    (∃ reason waited r₁, trigger = .ok (some (reason, waited)) ∧ spent? t.settled = .ok r₁ ∧
        (ending = none ∨ ending = some .unretried) ∧
        ∀ P, h.Preserve P → P r₁ → P o.request) ∨
      (∃ e, ending = some e ∧ e.free = 1) ∧
        ∀ P, h.Preserve P → P t.settled → P o.request := by
  cases hc with
  | halted | cancelledPausing | overdrawn | returned | undescribed =>
    exact .inr ⟨⟨_, rfl, rfl⟩, fun _ _ hr => hr⟩
  | @unretried reason waited _ r₁ _ _ _ spend run =>
    exact .inl ⟨reason, waited, r₁, rfl, spend, .inr rfl, fun _ hp hr =>
      (preserves_announce hp callbacks n reason waited t.error t.status).left run hr⟩
  | @retried reason waited r₁ _ _ _ spend run =>
    exact .inl ⟨reason, waited, r₁, rfl, spend, .inl rfl, fun _ hp hr =>
      (preserves_announce hp callbacks n reason waited t.error t.status).left run hr⟩
  | @lost f _ _ _ _ run | @lostUntold f _ _ _ _ _ run =>
    exact .inr ⟨⟨_, rfl, rfl⟩, fun _ hp hr =>
      (preserves_report hp callbacks start n f none).left run hr⟩
  | @succeeded response _ _ _ _ _ run | @succeededUntold response _ _ _ _ _ _ run =>
    exact .inr ⟨⟨_, rfl, rfl⟩, fun _ hp hr =>
      (preserves_succeed hp callbacks start n response).left run hr⟩
  | @rejected response error _ _ _ _ _ _ _ run
  | @rejectedUntold response error _ _ _ _ _ _ _ _ run =>
    exact .inr ⟨⟨_, rfl, rfl⟩, fun _ hp hr =>
      (preserves_report hp callbacks start n (.response error) (some response.status)).left run hr⟩

/-! ## Section 4: Courses -/

/-- Spending a retry changes the budget alone. -/
theorem spent_eq {r r' : Request} (hs : spent? r = .ok r') :
    ∃ left, r' = { r with retries := left } := by
  unfold spent? Request.setRetries at hs
  cases hsub : (r.retries.sub (.whole 1)).mapError Fault.arithmetic with
  | error f =>
    rw [hsub] at hs
    cases hs
  | ok n =>
    rw [hsub] at hs
    cases hcheck : checkNonNegative Setting.retries.name (.number n) with
    | error f =>
      simp only [bind, Except.bind, hcheck] at hs
      cases hs
    | ok left =>
      simp only [bind, Except.bind, hcheck] at hs
      cases hs
      exact ⟨left, rfl⟩

/-- The request when the answer of an attempt is there. -/
theorem Attempted.answered (hp : h.Preserve P) {r : Request} {s : σ} {t : Turn R σ}
    {ending : Option Ending} {o : Outcome (Event R) σ (Option Response)}
    (ha : Attempted h cancellable callbacks start n r s (some t) ending o) (hr : P r) :
    P t.answered := by
  cases ha with
  | broken _ _ run₁ run₂ | taken _ _ run₁ run₂ =>
    have hopened := (preserves_opening hp cancellable callbacks n).left run₁ hr
    exact (preserves_exchange hp t.staged).left run₂ hopened

/-- What the surroundings preserve, and neither a redirect nor a spent retry breaks,
    holds at every point of an attempt. -/
theorem Attempted.preserved (hp : h.Preserve P)
    (hmoved : ∀ r status target, P r → P (Request.redirected r status target))
    (hspent : ∀ (r : Request) left, P r → P { r with retries := left }) {r : Request} {s : σ}
    {t : Option (Turn R σ)} {ending : Option Ending} {o : Outcome (Event R) σ (Option Response)}
    (ha : Attempted h cancellable callbacks start n r s t ending o) (hr : P r) :
    P o.request ∧ ∀ turn ∈ t, P turn.opened ∧ P turn.answered ∧ P turn.settled := by
  have hanswered : ∀ turn, t = some turn → P turn.answered := by
    rintro turn rfl
    exact ha.answered hp hr
  cases ha with
  | cancelled => exact ⟨hr, by simp⟩
  | unsent clear run => exact ⟨(preserves_opening hp cancellable callbacks n).left run hr, by simp⟩
  | @broken t f r₁ s₁ e₁ e₂ clear opened run₁ run₂ answer unasked closing =>
    have hanswer : P t.answered := hanswered t rfl
    refine ⟨hanswer, ?_⟩
    intro turn hturn
    cases Option.mem_some.mp hturn
    exact ⟨by rwa [opened.1], hanswer, by rwa [unasked.2.1]⟩
  | @taken t r₁ s₁ e₁ e₂ e₃ trigger ending o clear opened run₁ run₂ settled closed =>
    have hanswer : P t.answered := hanswered t rfl
    have hsettled : P t.settled := settled.preserved hp hmoved hanswer
    constructor
    -- the engine itself changes the request twice: by a redirect, and by a spent retry
    · rcases closed.preserved with ⟨reason, waited, r', -, hr', -, hleft⟩ | ⟨-, hleft⟩
      · obtain ⟨left, rfl⟩ := spent_eq hr'
        exact hleft P hp (hspent t.settled left hsettled)
      · exact hleft P hp hsettled
    · intro turn hturn
      cases Option.mem_some.mp hturn
      exact ⟨by rwa [opened.1], hanswer, hsettled⟩

theorem Course.preserved (hp : h.Preserve P)
    (hmoved : ∀ r status target, P r → P (Request.redirected r status target))
    (hspent : ∀ (r : Request) left, P r → P { r with retries := left }) {r : Request} {s : σ}
    {turns : List (Turn R σ)} {ending : Option Ending}
    {o : Outcome (Event R) σ (Option Response)}
    (hc : Course h cancellable callbacks start n r s turns ending o) (hr : P r) :
    P o.request ∧ ∀ t ∈ turns, P t.opened ∧ P t.answered ∧ P t.settled := by
  induction hc with
  | cut => exact ⟨hr, by simp⟩
  | last attempt =>
    obtain ⟨hrequest, hturn⟩ := attempt.preserved hp hmoved hspent hr
    exact ⟨hrequest, fun t ht => hturn t (Option.mem_toList.mp ht)⟩
  | again attempt rest ih =>
    obtain ⟨hrequest, hturn⟩ := attempt.preserved hp hmoved hspent hr
    obtain ⟨hlast, hturns⟩ := ih hrequest
    refine ⟨hlast, fun t ht => ?_⟩
    rcases List.mem_cons.mp ht with rfl | hrest
    · exact hturn t rfl
    · exact hturns t hrest

theorem Executed.preserved (hp : h.Preserve P)
    (hmoved : ∀ r status target, P r → P (Request.redirected r status target))
    (hspent : ∀ (r : Request) left, P r → P { r with retries := left }) {r : Request} {s : σ}
    {turns : List (Turn R σ)} {ending : Option Ending}
    {o : Outcome (Event R) σ (Option Response)}
    (he : Executed h cancellable r s turns ending o) (hr : P r) :
    P o.request ∧ ∀ t ∈ turns, P t.opened ∧ P t.answered ∧ P t.settled := by
  cases he with
  | refused => exact ⟨hr, by simp⟩
  | unreset method reset => exact ⟨(preserves_resetPolicy hp).left reset hr, by simp⟩
  | run method reset course =>
    exact course.preserved hp hmoved hspent ((preserves_resetPolicy hp).left reset hr)

/-- What the surroundings keep, and neither a redirect nor a spent retry touches, is the same
    for every attempt. -/
theorem Executed.kept {γ : Type} {φ : Request → γ} (hk : h.Keep φ)
    (hmoved : ∀ (r : Request) status target, φ (r.redirected status target) = φ r)
    (hspent : ∀ (r : Request) left, φ { r with retries := left } = φ r) {r : Request} {s : σ}
    {turns : List (Turn R σ)} {ending : Option Ending}
    {o : Outcome (Event R) σ (Option Response)}
    (he : Executed h cancellable r s turns ending o) {t : Turn R σ} (ht : t ∈ turns) :
    φ t.opened = φ r := by
  obtain ⟨-, hturns⟩ := he.preserved (hk (φ r))
    (fun r' status target hr' => (hmoved r' status target).trans hr')
    (fun r' left hr' => (hspent r' left).trans hr') rfl
  exact (hturns t ht).1

end Redial.Engine
