import Redial.Proofs.Stripped

/-! # What leads to the next attempt

    With surroundings that leave the request alone, the request of an attempt is known
    from the one before: it is the same, or moved by an accepted redirect, and has one
    retry less.  `Accepted` lists how the questions of a response accept it, and
    `Turn.Leads` how an attempt leads to the next one: for which reason, after which
    pause in seconds, and with which request, before a retry is taken from it.

    The parts of an attempt that leave the request as they found it are those before
    the questions and those after the retry is spent. -/

namespace Redial.Engine

variable {R σ : Type} [Arith R] {h : Hooks R σ} {cancellable : Bool} {callbacks : Slot Callbacks}
  {start : R} {n : Nat}

/-! ## Section 1: Accepted responses -/

/-- How the questions that a response to a request raised accept it. -/
inductive Accepted (response : Response) (r : Request) (cs : List (Consult R)) :
    Reason → R → Request → Prop where
  /-- The handler claimed the response. -/
  | handler (claimed : .handler (.ok true) ∈ cs) :
      Accepted response r cs .handler Arith.zero r
  /-- The policy granted a pause, and it was made. -/
  | backoff {millis : Number R} {waited : R} (granted : .next (.ok millis) ∈ cs)
      (go : millis.eq Backoff.stop = false) (paused : .pause millis (.ok ()) ∈ cs)
      (span : seconds millis = .ok waited) : Accepted response r cs .backoff waited r
  /-- The redirect rule moved the request. -/
  | redirect {target : String}
      (rule : r.redirectTarget response.status response.headers = .ok (some target))
      (moved : .redirect (.ok (some target)) ∈ cs) :
      Accepted response r cs .redirect Arith.zero (r.redirected response.status target)

/-- How an attempt leads to the next one. -/
inductive Turn.Leads (t : Turn R σ) : Reason → R → Request → Prop where
  | failure {f : Fault} (answer : t.answer = .error f) (again : t.resends = true) :
      t.Leads .failure Arith.zero t.opened
  | accepted {response : Response} {reason : Reason} {waited : R} {next : Request}
      (answer : t.answer = .ok response) (bad : response.isSuccess = false)
      (funded : t.opened.retries.isPositive = true)
      (accepted : Accepted response t.opened t.consults reason waited next) :
      t.Leads reason waited next

/-- Every reason but a redirect leads to the same request. -/
theorem Turn.Leads.unmoved {t : Turn R σ} {reason : Reason} {waited : R} {next : Request}
    (hl : t.Leads reason waited next) (hreason : reason ≠ .redirect) : next = t.opened := by
  cases hl with
  | failure => rfl
  | accepted answer bad funded accepted =>
    cases accepted with
    | handler | backoff => rfl
    | redirect => exact absurd rfl hreason

/-- The next attempt may begin with this request: the one that the attempt led to, up to
    the budget. -/
def Turn.FollowedBy (t : Turn R σ) (r : Request) : Prop :=
  ∃ reason waited next left, t.Leads reason waited next ∧
    (reason ≠ .redirect → next = t.opened) ∧ r = { next with retries := left }

theorem Turn.Leads.followedBy {t : Turn R σ} {reason : Reason} {waited : R} {next r : Request}
    (hl : t.Leads reason waited next) (hspent : spent? next = .ok r) : t.FollowedBy r := by
  obtain ⟨left, rfl⟩ := spent_eq hspent
  exact ⟨reason, waited, next, left, hl, hl.unmoved, rfl⟩

/-- The run ended after a retry was decided on, and before the next transmission. -/
def Ending.midway : Ending → Bool
  | .cancelled | .unsent | .overdrawn | .unretried => true
  | _ => false

/-! ## Section 2: Questions -/

omit [Arith R] in
theorem HandlerAsked.claimed_mem {response : Response} {r r' : Request} {s s' : σ}
    {cs : List (Consult R)} {e : List (Event R)}
    (ha : HandlerAsked h response r s cs ⟨.ok true, r', s', e⟩) : .handler (.ok true) ∈ cs := by
  cases ha with
  | asked => exact List.mem_singleton_self _

/-- A policy that answers a pause has granted it, and it was made. -/
theorem PolicyAsked.granted {status : Int} {r r' : Request} {s s' : σ} {cs : List (Consult R)}
    {waited : R} {e : List (Event R)}
    (ha : PolicyAsked h cancellable status r s cs ⟨.ok (some waited), r', s', e⟩) :
    ∃ millis, .next (.ok millis) ∈ cs ∧ millis.eq Backoff.stop = false ∧
      .pause millis (.ok ()) ∈ cs ∧ seconds millis = .ok waited := by
  cases ha with
  | paused hook call next go fit paused => exact ⟨_, by simp, go, by simp, fit.length⟩

/-- What the questions of a response come to, if the surroundings leave the request
    alone: they accept it, or the request stays as it is and no redirect was accepted. -/
theorem Offered.settles (hk : h.Keep fun r => r) {response : Response} {r : Request} {s : σ}
    {cs : List (Consult R)} {o : Outcome (Event R) σ (Option (Reason × R))}
    (ho : Offered h cancellable response r s cs o) :
    (∃ reason waited, o.result = .ok (some (reason, waited)) ∧
        Accepted response r cs reason waited o.request) ∨
      (∀ accepted, o.result ≠ .ok (some accepted)) ∧ o.request = r ∧
        ∀ target, .redirect (.ok (some target)) ∉ cs := by
  have hp : h.Preserve fun r' => r' = r := hk.preserve fun r' => r' = r
  -- only the last question, and only if it moves the request, is an accepted redirect
  cases ho with
  | handlerFailed handler =>
    exact .inr ⟨nofun, handler.preserved hp rfl, fun _ => handler.no_redirect.2 _⟩
  | claimed handler =>
    obtain rfl := handler.preserved hp rfl
    exact .inl ⟨_, _, rfl, .handler handler.claimed_mem⟩
  | policyFailed handler policy =>
    obtain rfl := handler.preserved hp rfl
    refine .inr ⟨nofun, policy.preserved hp rfl, fun target hmoved => ?_⟩
    rcases List.mem_append.mp hmoved with hc | hc
    · exact handler.no_redirect.2 _ hc
    · exact policy.no_redirect _ hc
  | paused handler policy =>
    obtain rfl := handler.preserved hp rfl
    obtain rfl := policy.preserved hp rfl
    obtain ⟨millis, hgranted, hgo, hpaused, hspan⟩ := policy.granted
    exact .inl ⟨_, _, rfl, .backoff (List.mem_append_right _ hgranted) hgo
      (List.mem_append_right _ hpaused) hspan⟩
  | redirectFailed handler policy | stayed handler policy =>
    obtain rfl := handler.preserved hp rfl
    refine .inr ⟨nofun, policy.preserved hp rfl, fun target hmoved => ?_⟩
    simp only [List.mem_append, List.mem_singleton, Consult.redirect.injEq, reduceCtorEq,
      Except.ok.injEq, or_false] at hmoved
    rcases hmoved with hc | hc
    · exact handler.no_redirect.2 _ hc
    · exact policy.no_redirect _ hc
  | moved handler policy rule =>
    obtain rfl := handler.preserved hp rfl
    obtain rfl := policy.preserved hp rfl
    exact .inl ⟨_, _, rfl, .redirect rule (by simp)⟩

/-- An answer that leads to a retry. -/
theorem Settled.leads (hk : h.Keep fun r => r) {t : Turn R σ} {reason : Reason} {waited : R}
    {e : List (Event R)} (hs : Settled h cancellable t (.ok (some (reason, waited))) e)
    (hsame : t.answered = t.opened) : t.Leads reason waited t.settled := by
  cases hs with
  | resent answer again unasked =>
    obtain ⟨-, hsettled, -⟩ := unasked
    rw [hsettled, hsame]
    exact .failure answer again
  | offered answer bad funded run questions =>
    rcases questions.settles hk with ⟨_, _, hresult, haccepted⟩ | ⟨hnone, -⟩
    · cases hresult
      rw [hsame] at haccepted funded
      exact .accepted answer bad funded haccepted
    · exact absurd rfl (hnone _)

/-- An answer that leads to no retry leaves the request as it was. -/
theorem Settled.stays (hk : h.Keep fun r => r) {t : Turn R σ}
    {trigger : Except Fault (Option (Reason × R))} {e : List (Event R)}
    (hs : Settled h cancellable t trigger e) (hnone : ∀ accepted, trigger ≠ .ok (some accepted)) :
    t.settled = t.answered ∧ ¬ t.Moved := by
  have hunasked : t.Unasked → t.settled = t.answered ∧ ¬ t.Moved := by
    rintro ⟨hconsults, hsettled, -⟩
    refine ⟨hsettled, fun ⟨_, hmoved⟩ => ?_⟩
    rw [hconsults] at hmoved
    cases hmoved
  cases hs with
  | lost _ _ unasked | success _ _ unasked | unfunded _ _ _ unasked => exact hunasked unasked
  | resent => exact absurd rfl (hnone _)
  | offered answer bad funded run questions =>
    rcases questions.settles hk with ⟨_, _, hresult, -⟩ | ⟨-, hrequest, hstay⟩
    · exact absurd hresult (hnone _)
    · exact ⟨hrequest, fun ⟨target, hmoved⟩ => hstay target hmoved⟩

/-! ## Section 3: Attempts -/

omit [Arith R] in
/-- A part that preserves whatever the surroundings preserve leaves the request alone if they
    do. -/
theorem kept_eq {α : Type} {x : Run (Event R) σ α} (hx : ∀ P, h.Preserve P → x.Preserves P)
    (hk : h.Keep fun r => r) {r r' : Request} {s s' : σ} {y : Except Fault α}
    {e : List (Event R)} (run : x r s = ⟨y, r', s', e⟩) : r' = r :=
  (hx _ (hk.preserve fun r' => r' = r)).left run rfl

/-- An attempt begins with the request that it finds, is staged from it, and leaves it
    alone until its answer is there. -/
theorem Attempted.begins (hk : h.Keep fun r => r) {r : Request} {s : σ} {t : Turn R σ}
    {ending : Option Ending} {o : Outcome (Event R) σ (Option Response)}
    (ha : Attempted h cancellable callbacks start n r s (some t) ending o) :
    t.opened = r ∧ t.openedAt = s ∧ t.staged = stagedOf h.debug r ∧ t.answered = r := by
  obtain ⟨-, hopened, hopenedAt, hstaged⟩ := ha.opens
  exact ⟨hopened, hopenedAt, hstaged, ha.answered (hk.preserve fun r' => r' = r) rfl⟩

/-- An attempt that is retried: it leaves the request that it leads to, with one retry
    less, and tells of it the callback for retries. -/
theorem Attempted.retried (hk : h.Keep fun r => r) {r : Request} {s : σ} {t : Turn R σ}
    {o : Outcome (Event R) σ (Option Response)}
    (ha : Attempted h cancellable callbacks start n r s (some t) none o) :
    ∃ reason waited next, t.Leads reason waited next ∧ spent? next = .ok o.request ∧
      t.closing = told callbacks Callbacks.onRetry
        (.retried (retryInfo o.request n reason waited t.error t.status)) := by
  obtain ⟨hopened, -, -, hanswered⟩ := ha.begins hk
  cases ha with
  | taken clear opened run₁ run₂ settled closed =>
    cases closed with
    | @retried reason waited _ _ _ _ spend run closing =>
      have hleads := settled.leads hk (hanswered.trans hopened.symm)
      obtain rfl := kept_eq (fun _ hp => preserves_announce hp callbacks n reason waited t.error
        t.status) hk run
      exact ⟨reason, waited, t.settled, hleads, spend, closing⟩

/-- An attempt that ends a run leaves the request as it found it, and no redirect was
    accepted, unless the run ended midway to another attempt. -/
theorem Attempted.ends (hk : h.Keep fun r => r) {r : Request} {s : σ} {t : Turn R σ}
    {ending : Ending} {o : Outcome (Event R) σ (Option Response)}
    (ha : Attempted h cancellable callbacks start n r s (some t) (some ending) o) :
    ending.midway = false ∧ o.request = r ∧ ¬ t.Moved ∨
      ending.midway = true ∧ t.FollowedBy o.request := by
  obtain ⟨hopened, -, -, hanswered⟩ := ha.begins hk
  have hsame : t.answered = t.opened := hanswered.trans hopened.symm
  -- midway are the two endings after a trigger accepted and before the next attempt begins
  cases ha with
  | broken clear opened run₁ run₂ answer unasked closing =>
    refine .inl ⟨rfl, hanswered, fun ⟨_, hmoved⟩ => ?_⟩
    rw [unasked.1] at hmoved
    cases hmoved
  | @taken _ _ _ _ _ _ trigger _ _ clear opened run₁ run₂ settled closed =>
    have hstays : (∀ accepted, trigger ≠ .ok (some accepted)) → t.settled = r ∧ ¬ t.Moved :=
      fun hnone => (settled.stays hk hnone).imp_left fun hsettled => hsettled.trans hanswered
    cases closed with
    | halted | cancelledPausing | returned | undescribed => exact .inl ⟨rfl, hstays nofun⟩
    | overdrawn =>
      have hleads := settled.leads hk hsame
      exact .inr ⟨rfl, _, _, t.settled, t.settled.retries, hleads, hleads.unmoved, rfl⟩
    | @unretried reason waited _ _ _ _ _ spend run =>
      obtain rfl := kept_eq (fun _ hp => preserves_announce hp callbacks n reason waited t.error
        t.status) hk run
      exact .inr ⟨rfl, (settled.leads hk hsame).followedBy spend⟩
    | @lost f _ _ _ _ run | @lostUntold f _ _ _ _ _ run =>
      obtain rfl := kept_eq (fun _ hp => preserves_report hp callbacks start n f none) hk run
      exact .inl ⟨rfl, hstays nofun⟩
    | @succeeded response _ _ _ _ _ run | @succeededUntold response _ _ _ _ _ _ run =>
      obtain rfl := kept_eq (fun _ hp => preserves_succeed hp callbacks start n response) hk run
      exact .inl ⟨rfl, hstays nofun⟩
    | @rejected response error _ _ _ _ _ _ _ run
    | @rejectedUntold response error _ _ _ _ _ _ _ _ run =>
      obtain rfl := kept_eq (fun _ hp => preserves_report hp callbacks start n (.response error)
        (some response.status)) hk run
      exact .inl ⟨rfl, hstays nofun⟩

/-- An attempt that was not sent ends the run, and leaves the request as it found it. -/
theorem Attempted.unsent_eq (hk : h.Keep fun r => r) {r : Request} {s : σ}
    {ending : Option Ending} {o : Outcome (Event R) σ (Option Response)}
    (ha : Attempted h cancellable callbacks start n r s none ending o) :
    ending.all Ending.midway = true ∧ o.request = r := by
  cases ha with
  | cancelled => exact ⟨rfl, rfl⟩
  | unsent clear run =>
    exact ⟨rfl, kept_eq (fun _ hp => preserves_opening hp cancellable callbacks n) hk run⟩

end Redial.Engine
