import Redial.Proofs.Account.Attempt

/-! # What an attempt reports

    The engine reports what the account of an attempt says, in order, and nothing else:
    its opening, its transmission, the answers to its questions and what callbacks are
    told at its end.  So what an attempt sends, and the steps that it takes, can be read
    off the account. -/

namespace Redial.Engine

variable {R σ : Type} [Arith R] {h : Hooks R σ} {cancellable : Bool} {callbacks : Slot Callbacks}
  {start : R} {n : Nat}

/-! ## Section 1: What an attempt reports -/

omit [Arith R] in
theorem announce_own_events (h : Hooks R σ) (callbacks : Slot Callbacks) (n : Nat)
    (reason : Reason) (waited : R) (error : Option Fault) (status : Option Int) (r : Request)
    (s : σ) :
    own (announce h callbacks n reason waited error status r s).events
      = told callbacks Callbacks.onRetry (.retried (retryInfo r n reason waited error status)) := by
  unfold announce
  rw [Run.request_bind]
  obtain ⟨notes, hlog⟩ := logRequest_apply h
    ("retried (" ++ reason.text ++ ", " ++ r.retries.text ++ " retries left)") r s
  rw [Run.bind_ok hlog, Outcome.after_events, own_append, own_notes, List.nil_append]
  exact tell_own_events _ _ _ _ _ rfl r s

theorem report_own_events (h : Hooks R σ) (callbacks : Slot Callbacks) (start : R) (n : Nat)
    (error : Fault) (status : Option Int) (r : Request) (s : σ) :
    own (report h callbacks start n error status r s).events
      = told callbacks Callbacks.onFailure
        (.failed (failureInfo h start n error status r s)) := by
  unfold report
  obtain ⟨notes, hlog⟩ := logRequest_apply h ("failed: " ++ error.message) r s
  rw [Run.bind_ok hlog, Run.request_bind, Run.state_bind, Outcome.after_events, own_append,
    own_notes, List.nil_append]
  exact tell_own_events _ _ _ _ _ rfl r s

theorem succeed_own_events (h : Hooks R σ) (callbacks : Slot Callbacks) (start : R) (n : Nat)
    (response : Response) (r : Request) (s : σ) :
    own (succeed h callbacks start n response r s).events
      = told callbacks Callbacks.onSuccess
        (.succeeded (successInfo h start n response r s)) := by
  unfold succeed
  obtain ⟨notes, hlog⟩ :=
    logRequest_apply h ("succeeded with status " ++ toString response.status) r s
  rw [Run.bind_ok hlog, Run.request_bind, Run.state_bind, Outcome.after_events, own_append,
    own_notes, List.nil_append]
  exact tell_own_events _ _ _ _ _ rfl r s

theorem Closed.own_events {t : Turn R σ} {trigger : Except Fault (Option (Reason × R))}
    {ending : Option Ending} {o : Outcome (Event R) σ (Option Response)}
    (hc : Closed h callbacks start n t trigger ending o) : own o.events = t.closing := by
  cases hc with
  | halted uncut closing => exact closing.symm
  | cancelledPausing cut closing => exact closing.symm
  | overdrawn spend closing => exact closing.symm
  | returned answer bad quiet closing => exact closing.symm
  | undescribed answer bad raise described closing => exact closing.symm
  | @unretried reason waited _ r₁ _ _ _ spend run closing =>
    have htold := announce_own_events h callbacks n reason waited t.error t.status r₁ t.settledAt
    rw [run] at htold
    rw [closing, ← htold]
  | @retried reason waited r₁ _ _ _ spend run closing =>
    have htold := announce_own_events h callbacks n reason waited t.error t.status r₁ t.settledAt
    rw [run] at htold
    rw [closing, ← htold]
  | @lost f _ _ _ answer run closing | @lostUntold f _ _ _ _ answer run closing =>
    have htold := report_own_events h callbacks start n f none t.settled t.settledAt
    rw [run] at htold
    rw [closing, ← htold]
  | @succeeded response _ _ _ answer good run closing
  | @succeededUntold response _ _ _ _ answer good run closing =>
    have htold := succeed_own_events h callbacks start n response t.settled t.settledAt
    rw [run] at htold
    rw [closing, ← htold]
  | @rejected response error _ _ _ answer bad raise described run closing
  | @rejectedUntold response error _ _ _ _ answer bad raise described run closing =>
    have htold := report_own_events h callbacks start n (.response error) (some response.status)
      t.settled t.settledAt
    rw [run] at htold
    rw [closing, ← htold]

theorem Settled.own_events {t : Turn R σ} {trigger : Except Fault (Option (Reason × R))}
    {events : List (Event R)} (hs : Settled h cancellable t trigger events) :
    own events = t.consults.flatMap (Consult.events cancellable) := by
  cases hs with
  | lost _ _ unasked => rw [unasked.1]; rfl
  | resent _ _ unasked => rw [unasked.1]; rfl
  | success _ _ unasked => rw [unasked.1]; rfl
  | unfunded _ _ _ unasked => rw [unasked.1]; rfl
  | offered _ _ _ _ questions => exact questions.own_events

/-- What the engine reports of an attempt that was sent. -/
def Turn.events (debug cancellable : Bool) (callbacks : Slot Callbacks) (n : Nat)
    (t : Turn R σ) : List (Event R) :=
  openingEvents debug callbacks n t.opened ++ [.transmitted t.staged] ++
    t.consults.flatMap (Consult.events cancellable) ++ t.closing

theorem Attempted.own_events_sent {r : Request} {s : σ} {t : Turn R σ} {ending : Option Ending}
    {o : Outcome (Event R) σ (Option Response)}
    (ha : Attempted h cancellable callbacks start n r s (some t) ending o) :
    own o.events = t.events h.debug cancellable callbacks n := by
  cases ha with
  | @broken _ f r₁ s₁ e₁ e₂ clear opened run₁ run₂ answer unasked closing =>
    obtain ⟨rfl, rfl⟩ := opened
    obtain ⟨-, -, hopening⟩ := opening_sent clear run₁
    have hexchange := exchange_own_events h t.staged r₁ s₁
    rw [run₂] at hexchange
    simp only [Turn.events, own_append, hopening, hexchange, unasked.1, closing,
      List.flatMap_nil, List.append_nil]
  | @taken _ r₁ s₁ e₁ e₂ e₃ _ _ _ clear opened run₁ run₂ settled closed =>
    obtain ⟨rfl, rfl⟩ := opened
    obtain ⟨-, -, hopening⟩ := opening_sent clear run₁
    have hexchange := exchange_own_events h t.staged r₁ s₁
    rw [run₂] at hexchange
    simp only [Turn.events, Outcome.after_events, own_append, hopening, hexchange,
      settled.own_events, closed.own_events]

theorem Attempted.own_events_unsent {r : Request} {s : σ} {ending : Option Ending}
    {o : Outcome (Event R) σ (Option Response)}
    (ha : Attempted h cancellable callbacks start n r s none ending o) :
    own o.events = [] ∨ own o.events = openingEvents h.debug callbacks n r := by
  cases ha with
  | cancelled => exact .inl rfl
  | unsent clear run =>
    have hopening := opening_own_events clear callbacks n r
    rw [run] at hopening
    exact hopening

/-! ## Section 2: What an attempt sends -/

theorem Consult.sent_events (c : Consult R) : sent (c.events cancellable) = [] := by
  unfold Consult.events
  split
  · rfl
  · rfl
  · split
    · cases cancellable <;> rfl
    · rfl
  · rfl

/-- No question resets the policy. -/
theorem Consult.no_reset (c : Consult R) : .policyReset ∉ c.events cancellable := by
  unfold Consult.events
  split
  · simp
  · simp
  · split
    · cases cancellable <;> simp [pauseEvent]
    · simp
  · simp

theorem Consult.steps_events (c : Consult R) :
    steps (c.events cancellable) = c.events cancellable := by
  unfold Consult.events
  split
  · rfl
  · rfl
  · split
    · cases cancellable <;> rfl
    · rfl
  · rfl

/-- Apart from its steps an attempt reports its opening and its closing. -/
theorem Turn.filter_events {p : Event R → Bool} (hp : ∀ e, e.isStep = true → p e = false)
    (debug : Bool) (t : Turn R σ) :
    (t.events debug cancellable callbacks n).filter p
      = (openingEvents debug callbacks n t.opened).filter p ++ t.closing.filter p := by
  have hconsults : (t.consults.flatMap (Consult.events cancellable)).filter p = [] := by
    rw [List.filter_eq_nil_iff]
    intro e he
    obtain ⟨c, -, hec⟩ := List.mem_flatMap.mp he
    rw [← c.steps_events] at hec
    rw [hp e (List.mem_filter.mp hec).2]
    exact Bool.false_ne_true
  have hsent : [Event.transmitted t.staged].filter p = [] := by
    rw [List.filter_cons, hp _ rfl]
    rfl
  rw [Turn.events, List.filter_append, List.filter_append, List.filter_append, hconsults, hsent,
    List.append_nil, List.append_nil]

/-- An attempt is closed by telling one callback, or none. -/
theorem Closed.closing_told {t : Turn R σ} {trigger : Except Fault (Option (Reason × R))}
    {ending : Option Ending} {o : Outcome (Event R) σ (Option Response)}
    (hc : Closed h callbacks start n t trigger ending o) :
    t.closing = [] ∨ ∃ choose event, event.isTold = true ∧
      t.closing = told callbacks choose event := by
  cases hc with
  | halted _ closing | overdrawn _ closing | cancelledPausing _ closing => exact .inl closing
  | returned _ _ _ closing | undescribed _ _ _ _ closing => exact .inl closing
  | unretried _ _ closing | retried _ _ closing => exact .inr ⟨_, _, rfl, closing⟩
  | lost _ _ closing | lostUntold _ _ closing => exact .inr ⟨_, _, rfl, closing⟩
  | succeeded _ _ _ closing | succeededUntold _ _ _ closing => exact .inr ⟨_, _, rfl, closing⟩
  | rejected _ _ _ _ _ closing | rejectedUntold _ _ _ _ _ closing =>
    exact .inr ⟨_, _, rfl, closing⟩

theorem Attempted.closing_told {r : Request} {s : σ} {t : Turn R σ} {ending : Option Ending}
    {o : Outcome (Event R) σ (Option Response)}
    (ha : Attempted h cancellable callbacks start n r s (some t) ending o) :
    t.closing = [] ∨ ∃ choose event, event.isTold = true ∧
      t.closing = told callbacks choose event := by
  cases ha with
  | broken _ _ _ _ _ _ closing => exact .inl closing
  | taken _ _ _ _ _ closed => exact closed.closing_told

/-- An attempt hands to the transport what its account says, and this once. -/
theorem Attempted.sent_eq {r : Request} {s : σ} {t : Option (Turn R σ)} {ending : Option Ending}
    {o : Outcome (Event R) σ (Option Response)}
    (ha : Attempted h cancellable callbacks start n r s t ending o) :
    sent o.events = t.toList.map Turn.staged := by
  rw [← sent_own]
  cases t with
  | none =>
    rcases ha.own_events_unsent with hnil | hopening
    · rw [hnil]
      rfl
    · rw [hopening, sent_openingEvents]
      rfl
  | some t =>
    -- neither the callbacks nor the questions hand anything to the transport
    have hclosing : sent t.closing = [] := by
      rcases ha.closing_told with hnil | ⟨choose, event, htold, hone⟩
      · rw [hnil]
        rfl
      · rw [hone, sent_told _ _ htold]
    have hconsults : sent (t.consults.flatMap (Consult.events cancellable)) = [] := by
      induction t.consults with
      | nil => rfl
      | cons c cs ih => rw [List.flatMap_cons, sent_append, c.sent_events, ih]; rfl
    rw [ha.own_events_sent, Turn.events, sent_append, sent_append, sent_append,
      sent_openingEvents, hclosing, hconsults]
    rfl

/-- What an attempt that was sent adds to the steps of a run. -/
def Turn.steps (cancellable : Bool) (t : Turn R σ) : List (Event R) :=
  .transmitted t.staged :: t.consults.flatMap (Consult.events cancellable)

/-- The steps of an attempt are its transmission and what its questions report. -/
theorem Attempted.steps_eq {r : Request} {s : σ} {t : Option (Turn R σ)} {ending : Option Ending}
    {o : Outcome (Event R) σ (Option Response)}
    (ha : Attempted h cancellable callbacks start n r s t ending o) :
    Redial.steps o.events = t.toList.flatMap (Turn.steps cancellable) := by
  rw [← steps_own]
  cases t with
  | none =>
    rcases ha.own_events_unsent with hnil | hopening
    · rw [hnil]
      rfl
    · rw [hopening, steps_openingEvents]
      rfl
  | some t =>
    -- what callbacks are told is no step, and what questions report is nothing else
    have hclosing : Redial.steps t.closing = [] := by
      rcases ha.closing_told with hnil | ⟨choose, event, htold, hone⟩
      · rw [hnil]
        rfl
      · rw [hone, steps_told _ _ htold]
    have hconsults : Redial.steps (t.consults.flatMap (Consult.events cancellable))
        = t.consults.flatMap (Consult.events cancellable) := by
      induction t.consults with
      | nil => rfl
      | cons c cs ih => rw [List.flatMap_cons, steps_append, c.steps_events, ih]
    rw [ha.own_events_sent, Turn.events, steps_append, steps_append, steps_append,
      steps_openingEvents, hclosing, hconsults, List.append_nil, Option.toList_some,
      List.flatMap_singleton]
    rfl

end Redial.Engine
