import Redial.Proofs.ClosedForm.Memoryless

/-! # Attempts without memory

    With hooks that have no memory an attempt sends the request as it is and plays the
    next outcome of the script.  The three triggers decide as the outcome says, and so
    the attempt leads to another one exactly if the outcome is retriable and there is a
    budget left. -/

namespace Redial

namespace Engine

variable {R σ : Type} [Arith R] {h : Hooks R σ} {d : Decisions} {place : σ → Nat}
  {script : Nat → Except Fault RawResponse}

/-! ## Section 1: The triggers -/

mutual

/-- A handler answers what its parts decide. -/
theorem ask_answers (hm : Memoryless h d place script) (response : Response)
    (supportsRetry : Bool) :
    ∀ handler, (ask h response supportsRetry handler).Answers place
      (d.acceptedBy response.status handler)
  | .leaf _ id => by
    unfold ask Decisions.acceptedBy
    exact hm.handle id response supportsRetry
  | .composite parts => by
    unfold ask Decisions.acceptedBy
    exact askInOrder_answers hm response supportsRetry parts

theorem askInOrder_answers (hm : Memoryless h d place script) (response : Response)
    (supportsRetry : Bool) :
    ∀ parts, (askInOrder h response supportsRetry parts).Answers place
      (d.acceptedByAny response.status parts)
  | [] => fun r s => by
    unfold askInOrder Decisions.acceptedByAny
    exact ⟨s, [], rfl, rfl⟩
  | part :: parts => fun r s => by
    unfold askInOrder Decisions.acceptedByAny
    obtain ⟨s₁, e₁, hpart, hplace₁⟩ := ask_answers hm response supportsRetry part r s
    rw [Run.bind_ok hpart]
    cases d.acceptedBy response.status part with
    | true =>
      simp only [if_true, Run.bind_ok (Run.log_apply _ _ _ r s₁), Run.pure_apply,
        Outcome.after_mk, Bool.true_or]
      exact ⟨s₁, _, rfl, hplace₁⟩
    | false =>
      obtain ⟨s₂, e₂, hparts, hplace₂⟩ :=
        askInOrder_answers hm response supportsRetry parts r s₁
      simp only [Bool.false_eq_true, if_false, hparts, Outcome.after_mk, Bool.false_or]
      exact ⟨s₂, _, rfl, hplace₂.trans hplace₁⟩

end

theorem HandlerAsked.decides (hm : Memoryless h d place script) {response : Response}
    {r : Request} {s : σ} {cs : List (Consult R)} {o : Outcome (Event R) σ Bool}
    (hr : r.Placed) (ha : HandlerAsked h response r s cs o) :
    o.result = .ok (d.claims r response.status) ∧ o.request = r ∧ place o.state = place s := by
  unfold Decisions.claims
  cases ha with
  | absent empty =>
    rw [empty]
    exact ⟨rfl, rfl, rfl⟩
  | misplaced other => exact absurd other (hr.handler _)
  | @asked handler _ _ _ _ hook call =>
    obtain ⟨s', e, hask, hplace⟩ := ask_answers hm response true handler r s
    rw [hask] at call
    cases call
    rw [hook]
    exact ⟨rfl, rfl, hplace⟩

/-- A pause without a cancel event passes. -/
theorem Fit.passes (hm : Memoryless h d place script) {millis : Number R} {span : R} {s : σ}
    (hfit : Fit h false millis s span) (r : Request) :
    ∃ s' e, pause h false millis r s = ⟨.ok (), r, s', e⟩ ∧ place s' = place s :=
  ⟨h.sleep span s, _, pause_apply hfit r, hm.sleep span s⟩

theorem PolicyAsked.decides (hm : Memoryless h d place script) {status : Int} {r : Request}
    {s : σ} {cs : List (Consult R)} {o : Outcome (Event R) σ (Option R)} (hr : r.Placed)
    (ha : PolicyAsked h false status r s cs o) :
    ∃ waited, o.result = .ok waited ∧ waited.isSome = d.pauses r status ∧ o.request = r ∧
      place o.state = place s := by
  have hrequired : ∀ {policy answer r₁ s₁ e₁},
      h.isBackoffRequired policy status r s = ⟨answer, r₁, s₁, e₁⟩ →
      answer = .ok (d.requires policy status) ∧ r₁ = r ∧ place s₁ = place s := by
    intro policy answer r₁ s₁ e₁ call
    obtain ⟨s', e, hanswer, hplace⟩ := hm.isBackoffRequired policy status r s
    rw [hanswer] at call
    cases call
    exact ⟨rfl, rfl, hplace⟩
  -- the pause that is wanted after an answer: it is no refusal, and it can be made
  have hnext : ∀ {policy answer r₁ r₂ s₁ s₂ e₂},
      h.nextBackoff policy r₁ s₁ = ⟨answer, r₂, s₂, e₂⟩ →
      ∃ millis span, answer = .ok millis ∧ r₂ = r₁ ∧ place s₂ = place s₁ ∧
        millis.eq Backoff.stop = false ∧ Fit h false millis s₂ span := by
    intro policy answer r₁ r₂ s₁ s₂ e₂ next
    obtain ⟨millis, s', e, hanswer, hplace, hgo, span, hspan, hcheck⟩ :=
      hm.nextBackoff policy r₁ s₁
    rw [hanswer] at next
    cases next
    exact ⟨millis, span, rfl, rfl, hplace, hgo, hspan, hm.checkPause span _ hcheck⟩
  unfold Decisions.pauses
  cases ha with
  | absent empty =>
    rw [empty]
    exact ⟨none, rfl, rfl, rfl, rfl⟩
  | misplaced other => exact absurd other (hr.policy _)
  | requiredFailed _ call =>
    obtain ⟨hanswer, -, -⟩ := hrequired call
    cases hanswer
  | unneeded hook call =>
    obtain ⟨hanswer, rfl, hplace⟩ := hrequired call
    rw [hook]
    exact ⟨none, rfl, Except.ok.inj hanswer, rfl, hplace⟩
  | nextFailed _ _ next =>
    obtain ⟨_, _, hanswer, -⟩ := hnext next
    cases hanswer
  | stopped _ _ next stop =>
    obtain ⟨_, _, hanswer, -, -, hgo, -⟩ := hnext next
    cases hanswer
    rw [stop] at hgo
    cases hgo
  | unpaused _ _ next _ unfit =>
    obtain ⟨_, _, hanswer, -, -, -, hfit⟩ := hnext next
    cases hanswer
    exact absurd hfit unfit.not_fit
  | cut _ _ _ _ _ woken => cases woken.1
  | paused hook call next _ fit paused =>
    obtain ⟨hrequires, rfl, hplace₁⟩ := hrequired call
    obtain ⟨_, _, hanswer, rfl, hplace₂, -⟩ := hnext next
    cases hanswer
    obtain ⟨_, _, hpause, hplace₃⟩ := fit.passes hm _
    rw [hpause] at paused
    cases paused
    rw [hook]
    exact ⟨_, rfl, Except.ok.inj hrequires, rfl, hplace₃.trans (hplace₂.trans hplace₁)⟩

/-- A location that a script gives is taken as it is written. -/
theorem directed_target {decode : Decoder} (hs : PlainScript decode script) {k : Nat}
    {raw : RawResponse} (hraw : script k = .ok raw) (r : Request) :
    r.redirectTarget raw.status (Headers.ofWire raw.headers) = .ok (r.directed raw) := by
  unfold Request.redirectTarget Request.directed
  cases hlocation : (Headers.ofWire raw.headers).field? .location with
  | none => simp
  | some location =>
    cases hfollow : (r.followRedirects.isSet && Status.isRedirect raw.status) with
    | false => simp
    | true =>
      obtain ⟨-, hcode⟩ := Bool.and_eq_true_iff.mp hfollow
      obtain ⟨l, hparse, habsolute⟩ := hs.locations hraw hcode hlocation
      have hresolve : resolveFrom r.url location = .ok location := by
        unfold resolveFrom resolveLocation
        split
        · simp [hparse, habsolute, bind, Except.bind, pure, Except.pure]
        · simp [hparse, habsolute, bind, Except.bind, pure, Except.pure]
      simp only [if_true, hresolve, Except.map]

/-- The triggers decide by the status, and move the request if they accept. -/
theorem Offered.decides (hm : Memoryless h d place script) (hs : PlainScript h.decode script)
    {k : Nat} {raw : RawResponse} (hraw : script k = .ok raw) {method : String}
    {target : Value} {r : Request} {s : σ} {cs : List (Consult R)}
    {o : Outcome (Event R) σ (Option (Reason × R))} (hr : r.Placed)
    (ho : Offered h false (.ofRaw raw method target) r s cs o) :
    ∃ trigger, o.result = .ok trigger ∧ trigger.isSome = d.triggers r raw ∧
      o.request = d.moved r raw ∧ place o.state = place s := by
  have hstatus : (Response.ofRaw raw method target).status = raw.status := rfl
  have hheaders : (Response.ofRaw raw method target).headers = Headers.ofWire raw.headers := rfl
  -- what is known once the handler has declined, up to the answer of the policy
  have hdeclined : ∀ {cs₁ cs₂ r₁ r₂ s₁ s₂ e₁ e₂ answer},
      HandlerAsked h (.ofRaw raw method target) r s cs₁ ⟨.ok false, r₁, s₁, e₁⟩ →
      PolicyAsked h false raw.status r₁ s₁ cs₂ ⟨answer, r₂, s₂, e₂⟩ →
      ∃ waited, answer = .ok waited ∧ waited.isSome = d.pauses r raw.status ∧ r₂ = r ∧
        place s₂ = place s ∧ d.claims r raw.status = false := by
    intro cs₁ cs₂ r₁ r₂ s₁ s₂ e₁ e₂ answer handler policy
    obtain ⟨hclaims, hsame, hplace₁⟩ := handler.decides hm hr
    cases hsame
    obtain ⟨waited, hanswer, hwaited, hsame, hplace₂⟩ := policy.decides hm hr
    exact ⟨waited, hanswer, hwaited, hsame, hplace₂.trans hplace₁, (Except.ok.inj hclaims).symm⟩
  unfold Decisions.moved Decisions.triggers
  cases ho with
  | handlerFailed handler => cases (handler.decides hm hr).1
  | claimed handler =>
    obtain ⟨hclaims, hsame, hplace⟩ := handler.decides hm hr
    rw [← hstatus, ← Except.ok.inj hclaims]
    exact ⟨_, rfl, rfl, hsame, hplace⟩
  | policyFailed handler policy =>
    obtain ⟨_, hfault, -⟩ := hdeclined handler policy
    cases hfault
  | paused handler policy =>
    obtain ⟨_, hpause, hpauses, hsame, hplace, hclaims⟩ := hdeclined handler policy
    cases hpause
    rw [hclaims, ← hpauses]
    exact ⟨_, rfl, rfl, hsame, hplace⟩
  | redirectFailed handler policy rule =>
    obtain ⟨_, -, -, rfl, -⟩ := hdeclined handler policy
    rw [hstatus, hheaders, directed_target hs hraw] at rule
    cases rule
  | stayed handler policy rule | moved handler policy rule =>
    obtain ⟨_, hpause, hpauses, rfl, hplace, hclaims⟩ := hdeclined handler policy
    cases hpause
    rw [hstatus, hheaders, directed_target hs hraw] at rule
    rw [hclaims, ← hpauses, Except.ok.inj rule]
    exact ⟨_, rfl, rfl, rfl, hplace⟩

/-! ## Section 2: Attempts -/

omit [Arith R] in
theorem Funded.isPositive_eq {b : Nat} {r : Request} (hb : Funded b r) :
    r.retries.isPositive = decide (0 < b) := by
  rw [Bool.eq_iff_iff, Number.isPositive_of_int? hb, decide_eq_true_iff]
  exact Int.natCast_pos

omit [Arith R] in
theorem Funded.isZero_eq {b : Nat} {r : Request} (hb : Funded b r) :
    (!r.retries.isZero) = decide (0 < b) := by
  rw [Bool.eq_iff_iff, Bool.not_eq_true', Bool.eq_false_iff, Ne, Number.isZero_of_int? hb,
    decide_eq_true_iff]
  omega

theorem writeContent_returns (hm : Memoryless h d place script) :
    ∀ {c : Content}, c.Unlogged → (writeContent h c).Returns fun r s => (r, place s)
  | .bytes _ data, _ => Run.returns_pure data
  | .source source, _ => hm.writeSource source.id
  | .gzip inner, hc => by
    unfold writeContent
    exact Run.returns_bind (writeContent_returns hm (c := inner) hc) fun _ => Run.returns_pure _

/-- A transmission plays one entry of the script. -/
theorem transmit_plays (hm : Memoryless h d place script) {staged : Staged}
    (hc : ∀ c ∈ staged.content, c.Unlogged) (r : Request) (s : σ) :
    ∃ s' e, transmit h staged r s = ⟨script (place s), r, s', e⟩ ∧ place s' = place s + 1 := by
  have hread : (readBody h staged).Returns fun r s => (r, place s) := by
    unfold readBody
    split
    · rename_i hcontent
      exact writeContent_returns hm (hc _ hcontent)
    · exact Run.returns_pure []
  obtain ⟨s₁, e₁, hannounce, hplace₁⟩ := hm.announce staged r s
  obtain ⟨body, r₂, s₂, e₂, hbody, hkept⟩ := hread r s₁
  obtain ⟨rfl, hplace₂⟩ := Prod.mk.inj hkept
  obtain ⟨s₃, e₃, hexchange, hplace₃⟩ := hm.exchange staged body r₂ s₂
  unfold transmit
  rw [Run.emit_bind, Run.bind_ok (Run.ofHook_eq hannounce), Run.bind_ok (Run.ofHook_eq hbody),
    Run.ofHook_eq hexchange, hplace₂, hplace₁]
  exact ⟨s₃, _, rfl, by rw [hplace₃, hplace₂, hplace₁]⟩

/-- What a request takes from an outcome. -/
def answerOf (r : Request) (outcome : Except Fault RawResponse) : Except Fault Response :=
  outcome.map fun raw => .ofRaw raw r.method r.url

theorem exchange_plays (hm : Memoryless h d place script) (hs : PlainScript h.decode script)
    {staged : Staged} (hc : ∀ c ∈ staged.content, c.Unlogged) (r : Request) (s : σ) :
    ∃ s' e, exchange h staged r s = ⟨.ok (answerOf r (script (place s))), r, s', e⟩ ∧
      place s' = place s + 1 := by
  obtain ⟨s', e, hrun, hplace⟩ := transmit_plays hm hc r s
  refine ⟨s', e, ?_, hplace⟩
  rw [exchange_apply, hrun]
  cases houtcome : script (place s) with
  | error f =>
    simp only [hs.failures houtcome, if_true]
    rfl
  | ok raw => rfl

/-- An answer leads to another attempt exactly if its outcome is retriable and there is a
    budget left, and then the request turns as the outcome says. -/
theorem Settled.decides (hm : Memoryless h d place script) (hs : PlainScript h.decode script)
    {t : Turn R σ} {trigger : Except Fault (Option (Reason × R))} {e : List (Event R)}
    (hr : t.answered.Placed) {b k : Nat} (hb : Funded b t.answered)
    (hanswer : t.answer = answerOf t.answered (script k)) (hst : Settled h false t trigger e) :
    ∃ decision, trigger = .ok decision ∧ place t.settledAt = place t.answeredAt ∧
      decision.isSome = (d.retriable t.answered (script k) && decide (0 < b)) ∧
      t.settled = if decision.isSome then d.turned t.answered (script k) else t.answered := by
  -- an answer that is offered to no trigger leaves everything as it is
  have hunasked : t.Unasked → place t.settledAt = place t.answeredAt ∧ t.settled = t.answered :=
    fun hnone => ⟨by rw [hnone.2.2], hnone.2.1⟩
  cases houtcome : script k with
  | error f =>
    rw [houtcome] at hanswer
    have hresends : t.resends = (t.answered.retryOnFailure.isSet && decide (0 < b)) := by
      rw [← hb.isZero_eq]
      rfl
    cases hst with
    | lost _ final unasked =>
      obtain ⟨hplace, hsettled⟩ := hunasked unasked
      exact ⟨none, rfl, hplace, final.symm.trans hresends, hsettled⟩
    | resent _ again unasked =>
      obtain ⟨hplace, hsettled⟩ := hunasked unasked
      exact ⟨some _, rfl, hplace, again.symm.trans hresends, hsettled⟩
    | success answer | unfunded answer | offered answer =>
      rw [answer] at hanswer
      cases hanswer
  | ok raw =>
    rw [houtcome] at hanswer
    have hresponse : ∀ {response}, t.answer = .ok response →
        response = .ofRaw raw t.answered.method t.answered.url := by
      intro response answer
      rw [answer] at hanswer
      exact Except.ok.inj hanswer
    cases hst with
    | lost answer | resent answer =>
      rw [answer] at hanswer
      cases hanswer
    | success answer good unasked =>
      obtain ⟨hplace, hsettled⟩ := hunasked unasked
      rw [hresponse answer] at good
      have hgood : Status.isSuccess raw.status = true := good
      exact ⟨none, rfl, hplace, by simp [Decisions.retriable, hgood], hsettled⟩
    | unfunded answer bad spent unasked =>
      obtain ⟨hplace, hsettled⟩ := hunasked unasked
      rw [hb.isPositive_eq] at spent
      exact ⟨none, rfl, hplace, by rw [spent, Bool.and_false]; rfl, hsettled⟩
    | offered answer bad funded run questions =>
      obtain rfl := hresponse answer
      have hbad : Status.isSuccess raw.status = false := bad
      rw [hb.isPositive_eq] at funded
      obtain ⟨decision, htrigger, hdecision, hsettled, hplace⟩ :=
        questions.decides hm hs houtcome hr
      refine ⟨decision, htrigger, hplace, ?_, ?_⟩
      · rw [hdecision, funded, Decisions.retriable, hbad, Bool.and_true]
        rfl
      · have hmoved : t.settled = d.moved t.answered raw := hsettled
        rw [hmoved]
        cases hnone : decision.isSome with
        | true => rfl
        | false => exact d.moved_untriggered (hdecision.symm.trans hnone)

/-- What a run ends with after an outcome that is not retried. -/
inductive Ends (decode : Decoder) (r : Request) :
    Except Fault RawResponse → Except Fault (Option Response) → Prop where
  /-- A failure of the exchange is raised again. -/
  | lost (f : Fault) : Ends decode r (.error f) (.error f)
  /-- A success is returned, and an unsuccessful response if the request wants that. -/
  | returned {raw : RawResponse}
      (plain : Status.isSuccess raw.status = true ∨ r.raiseOnError.isSet = false) :
      Ends decode r (.ok raw) (.ok (some (.ofRaw raw r.method r.url)))
  /-- An unsuccessful response is raised as an error. -/
  | rejected {raw : RawResponse} {error : ResponseError}
      (bad : Status.isSuccess raw.status = false) (raise : r.raiseOnError.isSet = true)
      (described : ResponseError.ofResponseBy decode (.ofRaw raw r.method r.url) none = .ok error) :
      Ends decode r (.ok raw) (.error (.response error))

variable {callbacks : Slot Callbacks} {start : R} {n : Nat}

/-- An attempt is closed by a retry if there is a decision for one, and otherwise as its
    outcome says. -/
theorem Closed.decides (hm : Memoryless h d place script) (hs : PlainScript h.decode script)
    (hcallbacks : callbacks.Harmless) {t : Turn R σ} {k : Nat}
    (hanswer : t.answer = answerOf t.answered (script k))
    {decision : Option (Reason × R)} {ending : Option Ending}
    {o : Outcome (Event R) σ (Option Response)}
    (hc : Closed h callbacks start n t (.ok decision) ending o) :
    place o.state = place t.settledAt ∧
      (∀ {b}, Funded (b + 1) t.settled → decision.isSome = true →
        ending = none ∧ o.request = { t.settled with retries := .whole (b : Int) }) ∧
      (t.settled = t.answered → decision = none →
        (∃ e, ending = some e) ∧ o.request = t.answered ∧
          Ends h.decode t.answered (script k) o.result) := by
  have hannounce := returns_announce (R := R) hm.returning hcallbacks n
  have hreport := returns_report hm.returning hcallbacks start n
  have hsucceed := returns_succeed hm.returning hcallbacks start n
  -- the response that is closed is the one that the script gave
  have hraw : ∀ {response}, t.answer = .ok response → ∃ raw, script k = .ok raw ∧
      response = .ofRaw raw t.answered.method t.answered.url := by
    intro response answer
    rw [answer] at hanswer
    cases houtcome : script k with
    | error f =>
      rw [houtcome] at hanswer
      cases hanswer
    | ok raw =>
      rw [houtcome] at hanswer
      exact ⟨raw, rfl, Except.ok.inj hanswer⟩
  cases hc with
  | overdrawn spend =>
    refine ⟨rfl, fun hb _ => ?_, nofun⟩
    rw [hb.spent_eq] at spend
    cases spend
  | unretried _ run => exact ((hannounce _ _ _ _).not_error run).elim
  | lostUntold _ run => exact ((hreport _ _).not_error run).elim
  | succeededUntold _ _ run => exact ((hsucceed _).not_error run).elim
  | rejectedUntold _ _ _ _ run => exact ((hreport _ _).not_error run).elim
  | retried spend run =>
    obtain ⟨rfl, hplace⟩ := (hannounce _ _ _ _).left run
    refine ⟨hplace, fun hb _ => ⟨rfl, ?_⟩, nofun⟩
    rw [hb.spent_eq] at spend
    cases spend
    rfl
  | @lost f _ _ _ answer run =>
    obtain ⟨rfl, hplace⟩ := (hreport _ _).left run
    refine ⟨hplace, nofun, fun hsettled _ => ⟨⟨_, rfl⟩, hsettled, ?_⟩⟩
    rw [answer] at hanswer
    cases houtcome : script k with
    | error g =>
      rw [houtcome] at hanswer
      cases hanswer
      exact .lost f
    | ok raw =>
      rw [houtcome] at hanswer
      cases hanswer
  | succeeded answer good run =>
    obtain ⟨rfl, hplace⟩ := (hsucceed _).left run
    obtain ⟨raw, houtcome, rfl⟩ := hraw answer
    rw [houtcome]
    exact ⟨hplace, nofun, fun hsettled _ => ⟨⟨_, rfl⟩, hsettled, .returned (.inl good)⟩⟩
  | returned answer bad quiet =>
    obtain ⟨raw, houtcome, rfl⟩ := hraw answer
    rw [houtcome]
    refine ⟨rfl, nofun, fun hsettled _ => ⟨⟨_, rfl⟩, hsettled, ?_⟩⟩
    rw [hsettled] at quiet
    exact .returned (.inr quiet)
  | undescribed answer bad raise described =>
    obtain ⟨raw, houtcome, rfl⟩ := hraw answer
    obtain ⟨text, htext⟩ := hs.charsets t.answered.method t.answered.url houtcome
    rw [ResponseError.ofResponseBy_error_iff, ← Response.textBy_error_iff, htext] at described
    cases described
  | rejected answer bad raise described run =>
    obtain ⟨rfl, hplace⟩ := (hreport _ _).left run
    obtain ⟨raw, houtcome, rfl⟩ := hraw answer
    rw [houtcome]
    refine ⟨hplace, nofun, fun hsettled _ => ⟨⟨_, rfl⟩, hsettled, ?_⟩⟩
    rw [hsettled] at raise
    exact .rejected bad raise described

/-- An attempt sends the request as it is and plays one outcome.  It leads to another one
    exactly if the outcome is retriable and there is a budget left. -/
theorem Attempted.decides (hm : Memoryless h d place script) (hs : PlainScript h.decode script)
    (hcallbacks : callbacks.Harmless) {b : Nat} {r : Request} {s : σ}
    (hr : r.Placed) (hb : Funded b r) {t : Option (Turn R σ)} {ending : Option Ending}
    {o : Outcome (Event R) σ (Option Response)}
    (ha : Attempted h false callbacks start n r s t ending o) :
    sent o.events = [stagedOf false r] ∧ place o.state = place s + 1 ∧
      if d.retriable r (script (place s)) && decide (0 < b) then
        ending = none ∧ o.request = d.next r (script (place s)) (b - 1)
      else
        (∃ e, ending = some e) ∧ o.request = r ∧ Ends h.decode r (script (place s)) o.result := by
  have hsent := ha.sent_eq
  obtain ⟨r₁, s₁, e₁, hopening, hkept⟩ :=
    opening_returns hm.returning hcallbacks (Bool.false_and (h.isCancelled s)) n hr.transport
  obtain ⟨rfl, hplace₁⟩ := Prod.mk.inj hkept
  rw [hm.debug] at hopening
  -- the opening sends the request as it is, and the exchange plays the next outcome
  obtain ⟨s₂, e₂, hexchange, hplace₂⟩ := exchange_plays hm hs (stagedOf_unlogged hr) r₁ s₁
  rw [hplace₁] at hexchange hplace₂
  cases ha with
  | cancelled set => cases set
  | unsent clear run =>
    rw [hopening] at run
    cases run
  | broken clear opened run₁ run₂ =>
    obtain ⟨hstaged, rfl, rfl, rfl⟩ := Outcome.mk.inj (hopening.symm.trans run₁)
    rw [← Except.ok.inj hstaged, hexchange] at run₂
    cases run₂
  | @taken t _ _ _ _ _ _ _ o clear opened run₁ run₂ settled closed =>
    obtain ⟨hstaged, rfl, rfl, rfl⟩ := Outcome.mk.inj (hopening.symm.trans run₁)
    rw [← Except.ok.inj hstaged, hexchange] at run₂
    obtain ⟨hanswer, hanswered, hstate, -⟩ := Outcome.mk.inj run₂
    have hanswer' : t.answer = answerOf t.answered (script (place s)) := by
      rw [← hanswered]
      exact (Except.ok.inj hanswer).symm
    obtain ⟨decision, rfl, hplace₃, hagain, hsettled⟩ :=
      settled.decides hm hs (hanswered ▸ hr) (hanswered ▸ hb) hanswer'
    obtain ⟨hplace₄, hretried, hended⟩ := closed.decides hm hs hcallbacks hanswer'
    rw [← hanswered] at hagain hsettled hended
    rw [Outcome.after_request, Outcome.after_result, Outcome.after_state, hsent, ← hagain]
    refine ⟨congrArg (fun staged => [staged]) (Except.ok.inj hstaged).symm, ?_, ?_⟩
    · rw [hplace₄, hplace₃, ← hstate, hplace₂]
    cases decision with
    | none => exact hended hsettled rfl
    | some reason =>
      have hturned : t.settled = d.turned r₁ (script (place s)) := hsettled
      obtain ⟨-, hpositive⟩ := Bool.and_eq_true_iff.mp hagain.symm
      obtain ⟨left, rfl⟩ : ∃ left, b = left + 1 :=
        ⟨b - 1, by have := of_decide_eq_true hpositive; omega⟩
      have hleft : Funded (left + 1) t.settled := by
        rw [hturned]
        exact d.turned_funded hb _
      obtain ⟨hending, hrequest⟩ := hretried hleft rfl
      refine ⟨hending, ?_⟩
      rw [hrequest, hturned]
      rfl

end Engine

end Redial
