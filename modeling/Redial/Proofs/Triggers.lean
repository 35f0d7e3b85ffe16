import Redial.Proofs.Account.Preserved
import Redial.Proofs.Playback

/-! # The order of the triggers

    An unsuccessful response passes the handler, the policy and the redirect rule in
    this order, and each is asked only if those before it did not accept.  What the
    questions of one response look like is `Consult.Ordered`; a `Turn` is `Orderly` if
    its questions are ordered in this way and nothing else is asked.  The hooks keep
    any state and change the request as they like, as long as the handler and the
    policy stay in their places. -/

namespace Redial.Engine

variable {R σ : Type}

/-! ## Section 1: The questions of one response -/

def Consult.isRequired : Consult R → Bool
  | .required _ _ => true
  | _ => false

def Consult.isNext : Consult R → Bool
  | .next _ => true
  | _ => false

def Consult.isHandler : Consult R → Bool
  | .handler _ => true
  | _ => false

/-- The questions did not end with a claim of the handler, or with a fault of it. -/
def Declined (cs : List (Consult R)) : Prop := ∀ answer, .handler answer ∈ cs → answer = .ok false

variable [Arith R] {h : Hooks R σ} {cancellable : Bool}

/-- The order of the questions that a response raises, for the handler and the policy
    of its request. -/
structure Consult.Ordered (handler : Slot Handler) (policy : Slot Nat) (status : Int)
    (cs : List (Consult R)) : Prop where
  /-- The handler is asked once. -/
  handler_once : (∃ x, handler = .hook x) → cs.countP Consult.isHandler = 1
  /-- If it accepts, then nothing else is asked. -/
  accepted : .handler (.ok true) ∈ cs → cs = [.handler (.ok true)]
  /-- Otherwise the policy is asked once whether the status requires a pause. -/
  required_once : (∃ x, policy = .hook x) → Declined cs →
    ∃ answer, cs.filter Consult.isRequired = [.required status answer]
  /-- It is asked for a pause once if it does, and not at all if it does not. -/
  next_once : cs.countP Consult.isNext ≤ 1
  next_iff : (∃ answer, .next answer ∈ cs) ↔ .required status (.ok true) ∈ cs
  /-- Unless the policy refuses it, a pause of exactly this length is made, or cannot
      begin. -/
  pause_once : cs.countP Consult.isPausing ≤ 1
  pause_iff : ∀ millis, ((∃ ended, .pause millis ended ∈ cs) ∨ ∃ why, .unpaused millis why ∈ cs) ↔
    .next (.ok millis) ∈ cs ∧ millis.eq Backoff.stop = false
  /-- The redirect rule is applied only if no pause was wanted. -/
  redirect_last : ∀ target, .redirect target ∈ cs → Declined cs ∧ cs.countP Consult.isPausing = 0

/-! ## Section 2: How a response passes the triggers -/

/-- What is asked of a handler that declines. -/
def declinedBy (handler : Slot Handler) : List (Consult R) :=
  match handler with
  | .empty => []
  | _ => [.handler (.ok false)]

/-- What is asked of a policy, up to the pause. -/
inductive PolicyPart (policy : Slot Nat) (status : Int) : List (Consult R) → Prop where
  | absent (empty : policy = .empty) : PolicyPart policy status []
  | required {answer : Except Fault Bool} (final : .ok true ≠ answer) :
      PolicyPart policy status [.required status answer]
  | next {answer : Except Fault (Number R)}
      (final : ∀ millis, answer = .ok millis → millis.eq Backoff.stop = true) :
      PolicyPart policy status [.required status (.ok true), .next answer]
  | unpaused {millis : Number R} {why : ArithFault} (go : millis.eq Backoff.stop = false) :
      PolicyPart policy status
        [.required status (.ok true), .next (.ok millis), .unpaused millis why]
  | pause {millis : Number R} {ended : Except Fault Unit}
      (go : millis.eq Backoff.stop = false) :
      PolicyPart policy status
        [.required status (.ok true), .next (.ok millis), .pause millis ended]

/-- How far a response can pass: the handler keeps it, or it goes on to the policy and
    from there, unless a pause was wanted, to the redirect rule. -/
inductive Passed (handler : Slot Handler) (policy : Slot Nat) (status : Int) :
    List (Consult R) → Prop where
  | kept {answer : Except Fault Bool} (final : answer ≠ .ok false) :
      Passed handler policy status [.handler answer]
  | policy {cs : List (Consult R)} (part : PolicyPart policy status cs) :
      Passed handler policy status (declinedBy handler ++ cs)
  | redirect {cs : List (Consult R)} {target : Except Fault (Option String)}
      (part : PolicyPart policy status cs) (unwanted : cs.countP Consult.isPausing = 0) :
      Passed handler policy status (declinedBy handler ++ cs ++ [.redirect target])

omit [Arith R] in
theorem HandlerAsked.declined {response : Response} {r r' : Request} {s s' : σ}
    {cs : List (Consult R)} {e : List (Event R)}
    (ha : HandlerAsked h response r s cs ⟨.ok false, r', s', e⟩) :
    cs = declinedBy r.handler := by
  cases ha with
  | absent empty => simp only [declinedBy, empty]
  | asked hook call => simp only [declinedBy, hook]

omit [Arith R] in
theorem HandlerAsked.kept_by {response : Response} {r r' : Request} {s s' : σ}
    {cs : List (Consult R)} {e : List (Event R)} {answer : Except Fault Bool}
    (ha : HandlerAsked h response r s cs ⟨answer, r', s', e⟩) (final : answer ≠ .ok false) :
    cs = [.handler answer] := by
  cases ha with
  | absent => exact absurd rfl final
  | misplaced => rfl
  | asked => rfl

theorem PolicyAsked.part {status : Int} {r : Request} {s : σ} {cs : List (Consult R)}
    {o : Outcome (Event R) σ (Option R)} (hp : PolicyAsked h cancellable status r s cs o) :
    PolicyPart r.policy status cs := by
  cases hp with
  | absent empty => exact .absent empty
  | misplaced => exact .required nofun
  | requiredFailed => exact .required nofun
  | unneeded => exact .required nofun
  | nextFailed => exact .next nofun
  | stopped _ _ _ stop => exact .next fun _ hm => by cases hm; exact stop
  | unpaused _ _ _ go => exact .unpaused go
  | cut _ _ _ go => exact .pause go
  | paused _ _ _ go => exact .pause go

/-- A policy that lets a response pass was asked for no pause, or refused it. -/
theorem PolicyAsked.unwanted {status : Int} {r r' : Request} {s s' : σ}
    {cs : List (Consult R)} {e : List (Event R)}
    (hp : PolicyAsked h cancellable status r s cs ⟨.ok none, r', s', e⟩) :
    cs.countP Consult.isPausing = 0 := by
  cases hp <;> rfl

/-- A response that a wanted pause keeps went no further than to the policy. -/
theorem Offered.of_pausing {response : Response} {r : Request} {s : σ} {cs : List (Consult R)}
    {o : Outcome (Event R) σ (Option (Reason × R))}
    (ho : Offered h cancellable response r s cs o) {c : Consult R} (hc : c ∈ cs)
    (hpausing : c.isPausing = true) :
    (∀ target, .redirect target ∉ cs) ∧ ∃ r₁ s₁ cs₂ result e, c ∈ cs₂ ∧
      PolicyAsked h cancellable response.status r₁ s₁ cs₂ ⟨result, o.request, o.state, e⟩ := by
  cases ho with
  | handlerFailed handler | claimed handler =>
    exact absurd hpausing (handler.not_pausing hc)
  | policyFailed handler policy | paused handler policy =>
    rcases List.mem_append.mp hc with hmem | hmem
    · exact absurd hpausing (handler.not_pausing hmem)
    · refine ⟨fun target hmoved => ?_, _, _, _, _, _, hmem, policy⟩
      rcases List.mem_append.mp hmoved with hm | hm
      · exact handler.no_redirect.2 _ hm
      · exact policy.no_redirect _ hm
  -- a response gets to the redirect rule only if no pause was wanted
  | redirectFailed handler policy | stayed handler policy | moved handler policy =>
    rcases List.mem_append.mp hc with hmem | hmem
    · rcases List.mem_append.mp hmem with hmem | hmem
      · exact absurd hpausing (handler.not_pausing hmem)
      · exact absurd hpausing (List.countP_eq_zero.mp policy.unwanted _ hmem)
    · cases List.mem_singleton.mp hmem
      cases hpausing

theorem Offered.passed (hk : h.Keep fun r => r.policy) {response : Response} {r : Request} {s : σ}
    {cs : List (Consult R)} {o : Outcome (Event R) σ (Option (Reason × R))}
    (ho : Offered h cancellable response r s cs o) :
    Passed r.handler r.policy response.status cs := by
  cases ho with
  | handlerFailed handler =>
    rw [handler.kept_by nofun]
    exact .kept nofun
  | claimed handler =>
    rw [handler.kept_by nofun]
    exact .kept nofun
  -- the handler may change the request, but the policy that is asked is still in its place
  | policyFailed handler policy | paused handler policy =>
    have hpolicy := handler.preserved (hk r.policy) rfl
    rw [handler.declined, ← hpolicy]
    exact .policy policy.part
  | redirectFailed handler policy | stayed handler policy | moved handler policy =>
    have hpolicy := handler.preserved (hk r.policy) rfl
    rw [handler.declined, ← hpolicy]
    exact .redirect policy.part policy.unwanted

/-- The questions of one response are in order. -/
theorem Passed.ordered {handler : Slot Handler} {policy : Slot Nat} {status : Int}
    {cs : List (Consult R)} (hp : Passed handler policy status cs) :
    Consult.Ordered handler policy status cs := by
  -- every shape is a list of at most five questions, on which each field is computed
  cases hp with
  | kept final =>
    constructor <;> simp_all [Declined, Consult.isHandler, Consult.isNext, Consult.isPausing]
  | policy part =>
    cases handler <;> cases part <;> constructor <;>
      simp_all [declinedBy, Declined, Consult.isHandler, Consult.isRequired, Consult.isNext,
        Consult.isPausing, List.countP_cons, List.filter_cons]
  | redirect part unwanted =>
    cases handler <;> cases part <;> constructor <;>
      simp_all [declinedBy, Declined, Consult.isHandler, Consult.isRequired, Consult.isNext,
        Consult.isPausing, List.countP_cons, List.filter_cons]

/-! ## Section 3: Which pauses are made -/

/-- A pause that a policy grants is made exactly if it can begin in the state that the
    policy leaves.  If it cannot, the fault that says why is in its place. -/
def Granted (h : Hooks R σ) (cancellable : Bool) (policy : Slot Nat) (millis : Number R)
    (cs : List (Consult R)) : Prop :=
  ∃ id r₁ s₁ r₂ s₂ notes, policy = .hook id ∧
    h.nextBackoff id r₁ s₁ = ⟨.ok millis, r₂, s₂, notes⟩ ∧
    ((∃ ended, .pause millis ended ∈ cs) ↔ ∃ span, Fit h cancellable millis s₂ span) ∧
    ∀ why, .unpaused millis why ∈ cs ↔ Unfit h cancellable millis s₂ why

/-- Only what is asked of the policy matters. -/
theorem Granted.congr {policy : Slot Nat} {millis : Number R} {cs cs' : List (Consult R)}
    (hb : Granted h cancellable policy millis cs)
    (hsame : ∀ c : Consult R, c.isPausing = true → (c ∈ cs' ↔ c ∈ cs)) :
    Granted h cancellable policy millis cs' := by
  obtain ⟨id, r₁, s₁, r₂, s₂, notes, hpolicy, hnext, hmade, hunmade⟩ := hb
  refine ⟨id, r₁, s₁, r₂, s₂, notes, hpolicy, hnext, Iff.trans ?_ hmade, fun why => ?_⟩
  · exact exists_congr fun ended => hsame _ rfl
  · exact (hsame _ rfl).trans (hunmade why)

/-- A policy that grants a pause answers it or its fault, and not nothing. -/
theorem PolicyAsked.grants {status : Int} {r : Request} {s : σ} {cs : List (Consult R)}
    {o : Outcome (Event R) σ (Option R)} (hp : PolicyAsked h cancellable status r s cs o)
    {millis : Number R} (hgranted : .next (.ok millis) ∈ cs)
    (hgo : millis.eq Backoff.stop = false) :
    o.result ≠ .ok none ∧ Granted h cancellable r.policy millis cs := by
  cases hp with
  | stopped _ _ _ stop =>
    obtain rfl : millis = _ := by simpa using hgranted
    rw [hgo] at stop
    cases stop
  | unpaused hook _ next _ unfit =>
    obtain rfl : millis = _ := by simpa using hgranted
    refine ⟨nofun, _, _, _, _, _, _, hook, next, ?_, fun why => ?_⟩
    · exact iff_of_false (by simp) fun ⟨_, fit⟩ => unfit.not_fit fit
    · exact ⟨fun hc => by simp at hc; exact hc ▸ unfit, fun hu => by simp [hu.unique unfit]⟩
  | cut hook _ next _ fit | paused hook _ next _ fit =>
    obtain rfl : millis = _ := by simpa using hgranted
    refine ⟨nofun, _, _, _, _, _, _, hook, next, ?_, fun why => ?_⟩
    · exact iff_of_true ⟨_, List.mem_cons_of_mem _ (List.mem_cons_of_mem _ (.head _))⟩ ⟨_, fit⟩
    · exact iff_of_false (by simp) fun hu => hu.not_fit fit
  | _ => simp at hgranted

theorem Offered.grants (hk : h.Keep fun r => r.policy) {response : Response} {r : Request} {s : σ}
    {cs : List (Consult R)} {o : Outcome (Event R) σ (Option (Reason × R))}
    (ho : Offered h cancellable response r s cs o) {millis : Number R}
    (hgranted : .next (.ok millis) ∈ cs) (hgo : millis.eq Backoff.stop = false) :
    Granted h cancellable r.policy millis cs := by
  cases ho with
  | handlerFailed handler | claimed handler =>
    exact absurd hgranted (handler.no_redirect.1 _)
  | policyFailed handler policy | paused handler policy =>
    have hpolicy := handler.preserved (hk r.policy) rfl
    have hasked := (List.mem_append.mp hgranted).resolve_left (handler.no_redirect.1 _)
    rw [← hpolicy]
    refine (policy.grants hasked hgo).2.congr fun c hc => ?_
    exact List.mem_append.trans (or_iff_right fun hmem => handler.not_pausing hmem hc)
  -- a response gets to the redirect rule only if no pause was granted
  | redirectFailed handler policy | stayed handler policy | moved handler policy =>
    rcases List.mem_append.mp hgranted with hmem | hmem
    · have hasked := (List.mem_append.mp hmem).resolve_left (handler.no_redirect.1 _)
      exact absurd rfl (policy.grants hasked hgo).1
    · cases List.mem_singleton.mp hmem

/-! ## Section 4: The questions of a run -/

/-- The answer of an attempt is a response that is offered to the triggers. -/
def Turn.Offers (t : Turn R σ) (response : Response) : Prop :=
  t.answer = .ok response ∧ response.isSuccess = false ∧ t.answered.retries.isPositive = true

/-- An attempt whose answer raises its questions in order, and no others, for the
    handler and the policy of a request. -/
structure Turn.Orderly (h : Hooks R σ) (cancellable : Bool) (handler : Slot Handler)
    (policy : Slot Nat) (t : Turn R σ) : Prop where
  /-- A success, a failed exchange and a response without budget raise no question. -/
  unasked : (∀ response, ¬ t.Offers response) → t.consults = []
  /-- The questions of a response come in the order of the triggers. -/
  passed : ∀ response, t.Offers response → Passed handler policy response.status t.consults
  ordered : ∀ response, t.Offers response →
    Consult.Ordered handler policy response.status t.consults
  /-- A pause that the policy grants is made exactly if it can begin. -/
  granted : ∀ millis, .next (.ok millis) ∈ t.consults → millis.eq Backoff.stop = false →
    Granted h cancellable policy millis t.consults
  /-- Without a redirect that is accepted only the hooks change the request. -/
  unmoved : (∀ target, .redirect (.ok (some target)) ∉ t.consults) →
    ∀ P, h.Preserve P → P t.answered → P t.settled

/-- An attempt without questions is in order if nothing is offered to the triggers. -/
theorem Turn.Unasked.orderly {t : Turn R σ} (hu : t.Unasked)
    (hnone : ∀ response, ¬ t.Offers response) (handler : Slot Handler) (policy : Slot Nat) :
    t.Orderly h cancellable handler policy where
  unasked _ := hu.1
  passed response hr := absurd hr (hnone response)
  ordered response hr := absurd hr (hnone response)
  granted millis hgranted := by
    rw [hu.1] at hgranted
    cases hgranted
  unmoved _ _ _ hr := by
    rwa [hu.2.1]

theorem Settled.orderly (hk : h.Keep fun r => r.policy) {t : Turn R σ}
    {trigger : Except Fault (Option (Reason × R))} {e : List (Event R)}
    (hs : Settled h cancellable t trigger e) :
    t.Orderly h cancellable t.answered.handler t.answered.policy := by
  -- an answer offers a response exactly if it is put to the triggers
  cases hs with
  | lost answer _ unasked | resent answer _ unasked =>
    exact unasked.orderly (fun _ ⟨answer', _⟩ => by cases answer.symm.trans answer') _ _
  | success answer good unasked =>
    refine unasked.orderly (fun _ ⟨answer', bad, _⟩ => ?_) _ _
    cases answer.symm.trans answer'
    rw [good] at bad
    cases bad
  | unfunded answer bad spent unasked =>
    refine unasked.orderly (fun _ ⟨_, _, funded⟩ => ?_) _ _
    rw [spent] at funded
    cases funded
  | @offered response _ _ answer bad funded _ questions =>
    have hpassed : ∀ response', t.Offers response' →
        Passed t.answered.handler t.answered.policy response'.status t.consults := by
      rintro response' ⟨answer', -, -⟩
      cases answer.symm.trans answer'
      exact questions.passed hk
    exact {
      unasked := fun hnone => absurd ⟨answer, bad, funded⟩ (hnone response)
      passed := hpassed
      ordered := fun response' hoffers => (hpassed response' hoffers).ordered
      granted := fun _ hgranted hgo => questions.grants hk hgranted hgo
      unmoved := fun hstay P hp hr => questions.unmoved hp hstay hr }

theorem Attempted.orderly (hk : h.Keep fun r => r.policy) {callbacks : Slot Callbacks} {start : R}
    {n : Nat} {r : Request} {s : σ} {t : Turn R σ} {ending : Option Ending}
    {o : Outcome (Event R) σ (Option Response)}
    (ha : Attempted h cancellable callbacks start n r s (some t) ending o) :
    t.Orderly h cancellable t.answered.handler t.answered.policy := by
  cases ha with
  | taken _ _ _ _ settled => exact settled.orderly hk
  | broken _ _ _ _ answer unasked =>
    exact unasked.orderly (fun _ ⟨answer', _⟩ => by cases answer.symm.trans answer') _ _

theorem Executed.orderly (hk : h.Keep fun r => (r.handler, r.policy)) {r : Request} {s : σ}
    {turns : List (Turn R σ)} {ending : Option Ending}
    {o : Outcome (Event R) σ (Option Response)}
    (he : Executed h cancellable r s turns ending o) :
    ∀ t ∈ turns, t.Orderly h cancellable r.handler r.policy := by
  intro t ht
  obtain ⟨_, _, _, _, _, _, _, hattempted, -⟩ := he.attempted_of_mem ht
  have horderly : t.Orderly h cancellable t.answered.handler t.answered.policy :=
    hattempted.orderly (hk.map Prod.snd)
  -- the handler and the policy are those that the request had at first
  obtain ⟨-, hturn, -⟩ := (he.preserved (hk _) (fun _ _ _ hr => hr) (fun _ _ hr => hr) rfl).2 t ht
  obtain ⟨hhandler, hpolicy⟩ := Prod.mk.inj hturn
  rwa [hhandler, hpolicy] at horderly

theorem Attempted.stopped {callbacks : Slot Callbacks} {start : R} {n : Nat} {r : Request} {s : σ}
    {t : Turn R σ} {ending : Option Ending} {o : Outcome (Event R) σ (Option Response)}
    (ha : Attempted h cancellable callbacks start n r s (some t) ending o) {c : Consult R}
    (hc : c ∈ t.consults) {f : Fault} (hf : c.Stops f) :
    ending ≠ none ∧ o.result = .error f ∧ o.request = t.settled ∧ t.closing = [] := by
  cases ha with
  | broken _ _ _ _ _ unasked =>
    rw [unasked.1] at hc
    cases hc
  | taken _ _ _ _ settled closed =>
    cases settled with
    | lost _ _ unasked | resent _ _ unasked | success _ _ unasked | unfunded _ _ _ unasked =>
      rw [unasked.1] at hc
      cases hc
    | offered _ _ _ _ questions =>
      cases questions.stopped_by hc hf
      cases closed with
      | halted _ closing | cancelledPausing _ closing => exact ⟨nofun, rfl, rfl, closing⟩

/-- A question that stops an attempt is one of the last attempt, and the run ends with
    its fault. -/
theorem Executed.stopped {r : Request} {s : σ} {turns : List (Turn R σ)}
    {ending : Option Ending} {o : Outcome (Event R) σ (Option Response)}
    (he : Executed h cancellable r s turns ending o) {t : Turn R σ} (ht : t ∈ turns)
    {c : Consult R} (hc : c ∈ t.consults) {f : Fault} (hf : c.Stops f) :
    turns.getLast? = some t ∧ o.result = .error f ∧ o.request = t.settled ∧ t.closing = [] := by
  obtain ⟨callbacks, start, k, r', s', e, o', hattempted, hlast⟩ := he.attempted_of_mem ht
  obtain ⟨hnone, hresult, hrequest, hclosing⟩ := hattempted.stopped hc hf
  rcases hlast with rfl | ⟨-, hlast, earlier, rfl⟩
  · exact absurd rfl hnone
  · exact ⟨hlast, hresult, hrequest, hclosing⟩

/-- Every run asks in this order.  Its steps are one reset of the policy, after the
    method was checked and before anything is sent, and then for each attempt its
    transmission and what its questions report.  A pause that cannot begin ends the run
    with the fault that says why, and nothing is told after it. -/
theorem execute_asks_in_order (hk : h.Keep fun r => (r.handler, r.policy)) (cancellable : Bool)
    (limit : Nat) (r : Request) (s : σ) :
    ∃ turns ending, Executed h cancellable r s turns ending (execute h cancellable limit r s) ∧
      steps (execute h cancellable limit r s).events
        = (if ending = some .refused then [] else resetEvents r)
          ++ turns.flatMap (Turn.steps cancellable) ∧
      .policyReset ∉ turns.flatMap (Turn.steps cancellable) ∧
      (∀ t ∈ turns, t.Orderly h cancellable r.handler r.policy) ∧
      ∀ t ∈ turns, ∀ millis why, .unpaused millis why ∈ t.consults →
        turns.getLast? = some t ∧
          (execute h cancellable limit r s).result = .error (.arithmetic why) ∧
          (execute h cancellable limit r s).request = t.settled ∧ t.closing = [] := by
  obtain ⟨turns, ending, hexecuted, -⟩ := executed h cancellable limit r s
  refine ⟨turns, ending, hexecuted, hexecuted.steps_eq, ?_, hexecuted.orderly hk,
    fun t ht millis why hc => hexecuted.stopped ht hc rfl⟩
  simp only [List.mem_flatMap, Turn.steps, List.mem_cons, reduceCtorEq, false_or]
  rintro ⟨t, -, c, -, hreset⟩
  exact c.no_reset hreset

/-- A handler that declines and a policy that pauses. -/
theorem execute_asks_in_order_pausing :
    let h : Hooks Rat Nat := Playback.hooks ⟨fun _ => .ok ⟨503, "", [], []⟩,
      fun _ _ => false, fun _ _ => true, fun _ => .whole 250⟩
    let r : Request := { Request.make "GET" (.text "http://a/") none Headers.empty with
      handler := .hook (.leaf "Leaf" 0), policy := .hook 0 }
    (h.Keep fun r => (r.handler, r.policy)) ∧
      ∃ turns ending, Executed h false r 0 turns ending (execute h false 11 r 0) ∧
        ∀ t ∈ turns, t.Orderly h false (.hook (.leaf "Leaf" 0)) (.hook 0) := by
  intro h r
  have hk : h.Keep fun r => (r.handler, r.policy) := Playback.keep _
  obtain ⟨turns, ending, hexecuted, -, -, horderly, -⟩ := execute_asks_in_order hk false 11 r 0
  exact ⟨hk, turns, ending, hexecuted, horderly⟩

/-! ## Section 5: Pauses that cannot begin -/

/-- The policy wants a pause. -/
def wantsPause : Event R → Bool
  | .policyNext millis => !millis.eq Backoff.stop
  | _ => false

/-- A pause was made. -/
def isPause : Event R → Bool
  | .slept _ | .waited _ => true
  | _ => false

/-- Not every pause that a policy wants is made: milliseconds beyond the range of the
    reals are no length, and the run ends instead. -/
theorem wanted_pause_not_made :
    let h : Hooks Float Nat := Playback.hooks ⟨fun _ => .ok ⟨503, "", [], []⟩,
      fun _ _ => false, fun _ _ => true, fun _ => .whole (Nat.pow 10 400)⟩
    let r : Request := { Request.make "GET" (.text "http://a/") none Headers.empty with
      policy := .hook 0 }
    (h.Keep fun r => (r.handler, r.policy)) ∧
      (execute h false 11 r 0).events.any wantsPause = true ∧
      (execute h false 11 r 0).events.any isPause = false ∧
      (sent (execute h false 11 r 0).events).length = 1 := by
  intro h r
  exact ⟨Playback.keep _, by decide +kernel, by decide +kernel, by decide +kernel⟩

end Redial.Engine
