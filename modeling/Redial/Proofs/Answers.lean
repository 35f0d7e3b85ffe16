import Redial.Proofs.Account.Preserved

/-! # What becomes of an answer

    What the engine does with an answer is known from the account of its attempt alone.
    A success ends the run, and so does a response that no trigger accepts; what the run
    then answers is subject to the callback that is told of it.

    A run builds the transmissions that its accounts say and at most one more, and a run
    that was cancelled tells no callback how it ended. -/

namespace Redial

variable {R σ : Type}

/-- A transmission was built. -/
def Event.isBuilt : Event R → Bool
  | .staged _ => true
  | _ => false

/-- A call of a callback that tells how the run ended. -/
def Event.isVerdict : Event R → Bool
  | .succeeded _ | .failed _ => true
  | _ => false

theorem Event.isOwn_of_isBuilt (e : Event R) (he : e.isBuilt = true) : e.isOwn = true := by
  cases e <;> first | rfl | cases he

theorem Event.isOwn_of_isVerdict (e : Event R) (he : e.isVerdict = true) : e.isOwn = true := by
  cases e <;> first | rfl | cases he

theorem Event.built_of_isStep (e : Event R) (he : e.isStep = true) : e.isBuilt = false := by
  cases e <;> first | rfl | cases he

theorem Event.verdict_of_isStep (e : Event R) (he : e.isStep = true) : e.isVerdict = false := by
  cases e <;> first | rfl | cases he

namespace Engine

/-! ## Section 1: What becomes of an answer -/

section answers

variable [Arith R] {h : Hooks R σ} {cancellable : Bool} {callbacks : Slot Callbacks} {start : R}
  {n : Nat}

/-- A response that is no success, and that no trigger accepts: the budget is used up, or
    the redirect rule was asked last and does not move the request. -/
def Turn.Final (t : Turn R σ) (response : Response) : Prop :=
  t.answer = .ok response ∧ response.isSuccess = false ∧
    (t.answered.retries.isPositive = false ∨ .redirect (.ok none) ∈ t.consults)

/-- A success is returned, whatever happened meanwhile, unless the callback that is told
    of it raises. -/
theorem Attempted.success {r : Request} {s : σ} {t : Turn R σ} {ending : Option Ending}
    {o : Outcome (Event R) σ (Option Response)}
    (ha : Attempted h cancellable callbacks start n r s (some t) ending o) {response : Response}
    (answer : t.answer = .ok response) (good : response.isSuccess = true) :
    ending = some .succeeded ∧ o.result = .ok (some response) ∨ ending = some .untold := by
  cases ha with
  | broken _ _ _ _ answer' => cases answer.symm.trans answer'
  | taken _ _ _ _ settled closed =>
    cases settled with
    | lost answer' | resent answer' => cases answer.symm.trans answer'
    | unfunded answer' bad | offered answer' bad =>
      cases answer.symm.trans answer'
      rw [good] at bad
      cases bad
    | success =>
      cases closed with
      | lost answer' => cases answer.symm.trans answer'
      | lostUntold | succeededUntold | rejectedUntold => exact .inr rfl
      | succeeded answer' =>
        cases answer.symm.trans answer'
        exact .inl ⟨rfl, rfl⟩
      | returned answer' bad | undescribed answer' bad | rejected answer' bad =>
        cases answer.symm.trans answer'
        rw [good] at bad
        cases bad

/-- The last question, whether the redirect rule moves the request, is asked only if no
    trigger accepts. -/
theorem Offered.refused {response : Response} {r : Request} {s : σ} {cs : List (Consult R)}
    {o : Outcome (Event R) σ (Option (Reason × R))}
    (ho : Offered h cancellable response r s cs o) (stayed : .redirect (.ok none) ∈ cs) :
    o.result = .ok none := by
  cases ho with
  | handlerFailed handler | claimed handler => exact absurd stayed (handler.no_redirect.2 _)
  | policyFailed handler policy | paused handler policy =>
    rcases List.mem_append.mp stayed with hc | hc
    · exact absurd hc (handler.no_redirect.2 _)
    · exact absurd hc (policy.no_redirect _)
  | stayed => rfl
  | redirectFailed handler policy | moved handler policy =>
    simp only [List.append_assoc, List.mem_append, List.mem_singleton, Consult.redirect.injEq,
      reduceCtorEq, Except.ok.injEq, or_false] at stayed
    rcases stayed with hc | hc
    · exact absurd hc (handler.no_redirect.2 _)
    · exact absurd hc (policy.no_redirect _)

theorem Settled.final {t : Turn R σ} {trigger : Except Fault (Option (Reason × R))}
    {e : List (Event R)} (hs : Settled h cancellable t trigger e) {response : Response}
    (hf : t.Final response) : trigger = .ok none := by
  obtain ⟨answer, bad, hrefused⟩ := hf
  cases hs with
  | lost | success | unfunded => rfl
  | resent answer' => cases answer.symm.trans answer'
  | offered answer' _ funded _ questions =>
    rcases hrefused with spent | stayed
    · rw [spent] at funded
      cases funded
    · exact questions.refused stayed

/-- A response that no trigger accepts ends the run: it is returned or raised as an error,
    as the request wants it. -/
theorem Attempted.final {r : Request} {s : σ} {t : Turn R σ} {ending : Option Ending}
    {o : Outcome (Event R) σ (Option Response)}
    (ha : Attempted h cancellable callbacks start n r s (some t) ending o) {response : Response}
    (hf : t.Final response) :
    ending ≠ none ∧
    (t.settled.raiseOnError.isSet = false →
      ending = some .returned ∧ o.result = .ok (some response)) ∧
    (t.settled.raiseOnError.isSet = true →
      ∀ error, ResponseError.ofResponseBy h.decode response none = .ok error →
        ending = some .rejected ∧ o.result = .error (.response error) ∨
          ending = some .untold) := by
  obtain ⟨answer, bad, -⟩ := id hf
  cases ha with
  | broken _ _ _ _ answer' => cases answer.symm.trans answer'
  | taken _ _ _ _ settled closed =>
    obtain rfl := settled.final hf
    cases closed with
    | lost answer' | lostUntold answer' => cases answer.symm.trans answer'
    | succeeded answer' good | succeededUntold answer' good =>
      cases answer.symm.trans answer'
      rw [bad] at good
      cases good
    | returned answer' _ quiet =>
      cases answer.symm.trans answer'
      refine ⟨nofun, fun _ => ⟨rfl, rfl⟩, fun raise => ?_⟩
      rw [quiet] at raise
      cases raise
    | undescribed answer' _ raise described =>
      cases answer.symm.trans answer'
      refine ⟨nofun, fun quiet => ?_, fun _ error herror => ?_⟩
      · rw [raise] at quiet
        cases quiet
      · rw [described] at herror
        cases herror
    | rejected answer' _ raise described =>
      cases answer.symm.trans answer'
      refine ⟨nofun, fun quiet => ?_, fun _ error herror => ?_⟩
      · rw [raise] at quiet
        cases quiet
      · cases described.symm.trans herror
        exact .inl ⟨rfl, rfl⟩
    | rejectedUntold answer' _ raise =>
      refine ⟨nofun, fun quiet => ?_, fun _ _ _ => .inr rfl⟩
      rw [raise] at quiet
      cases quiet

/-- An attempt whose answer raised a question was offered to the triggers, and closed as
    they decided. -/
theorem Attempted.asked {r : Request} {s : σ} {t : Turn R σ} {ending : Option Ending}
    {o : Outcome (Event R) σ (Option Response)}
    (ha : Attempted h cancellable callbacks start n r s (some t) ending o) {c : Consult R}
    (hc : c ∈ t.consults) :
    ∃ response trigger e earlier o', o = o'.after earlier ∧
      Offered h cancellable response t.answered t.answeredAt t.consults
        ⟨trigger, t.settled, t.settledAt, e⟩ ∧
      Closed h callbacks start n t trigger ending o' := by
  have hasked : ¬ t.Unasked := by
    rintro ⟨hconsults, -⟩
    rw [hconsults] at hc
    cases hc
  cases ha with
  | broken _ _ _ _ _ unasked => exact absurd unasked hasked
  | taken _ _ _ _ settled closed =>
    cases settled with
    | lost _ _ unasked | resent _ _ unasked | success _ _ unasked => exact absurd unasked hasked
    | unfunded _ _ _ unasked => exact absurd unasked hasked
    | offered _ _ _ _ questions => exact ⟨_, _, _, _, _, rfl, questions, closed⟩

end answers

/-! ## Section 2: What is built, and what is told of the end -/

section reports

variable {h : Hooks R σ} {cancellable : Bool} {callbacks : Slot Callbacks}

theorem built_openingEvents (debug : Bool) (n : Nat) (r : Request) :
    (openingEvents debug callbacks n r : List (Event R)).filter Event.isBuilt
      = [.staged (stagedOf debug r)] := by
  show Event.staged _ :: (told callbacks Callbacks.onRequest _).filter Event.isBuilt = _
  rw [filter_told _ _ rfl]

variable [Arith R] {start : R} {n : Nat}

theorem Attempted.built {r : Request} {s : σ} {t : Turn R σ} {ending : Option Ending}
    {o : Outcome (Event R) σ (Option Response)}
    (ha : Attempted h cancellable callbacks start n r s (some t) ending o) :
    o.events.filter Event.isBuilt = [.staged t.staged] := by
  obtain ⟨-, rfl, -, hstaged⟩ := ha.opens
  -- whatever is told last, it is the call of a callback
  have hclosing : t.closing.filter Event.isBuilt = [] := by
    rcases ha.closing_told with hnil | ⟨choose, event, htold, hone⟩
    · rw [hnil]
      rfl
    · rw [hone, filter_told]
      cases event <;> first | rfl | cases htold
  rw [← filter_own Event.isOwn_of_isBuilt, ha.own_events_sent,
    Turn.filter_events Event.built_of_isStep, hclosing, built_openingEvents, hstaged]
  rfl

/-- A run builds what the accounts say, and at most one transmission more, which is not
    sent. -/
def Built (turns : List (Turn R σ)) (ending : Option Ending) (events : List (Event R)) : Prop :=
  ∃ more : List (Event R),
    events.filter Event.isBuilt = turns.map (fun t => .staged t.staged) ++ more ∧
      (more = [] ∨ ending = some .unsent ∧ more.length = 1)

theorem Course.built {r : Request} {s : σ} {turns : List (Turn R σ)} {ending : Option Ending}
    {o : Outcome (Event R) σ (Option Response)}
    (hc : Course h cancellable callbacks start n r s turns ending o) :
    Built turns ending o.events := by
  induction hc with
  | cut => exact ⟨[], rfl, .inl rfl⟩
  | @last n r s t ending o attempt =>
    cases t with
    | some t => exact ⟨[], by rw [attempt.built]; rfl, .inl rfl⟩
    | none =>
      have hfilter := filter_own Event.isOwn_of_isBuilt o.events
      rcases attempt.own_events_unsent with hnil | hopening
      · rw [hnil] at hfilter
        exact ⟨[], hfilter.symm, .inl rfl⟩
      · rw [hopening, built_openingEvents] at hfilter
        cases attempt with
        | cancelled => cases hopening
        | unsent => exact ⟨_, hfilter.symm, .inr ⟨rfl, rfl⟩⟩
  | again attempt rest ih =>
    obtain ⟨more, hrest, hmore⟩ := ih
    refine ⟨more, ?_, hmore⟩
    rw [Outcome.after_events, List.filter_append, hrest]
    exact congrArg (· ++ _) attempt.built

/-- An attempt that is retried, or that the cancel event ends, tells nobody how the run
    ended. -/
theorem Attempted.untold {r : Request} {s : σ} {t : Option (Turn R σ)} {ending : Option Ending}
    {o : Outcome (Event R) σ (Option Response)}
    (ha : Attempted h cancellable callbacks start n r s t ending o)
    (hending : ending = none ∨ ending = some .cancelled ∨ ending = some .cancelledPausing) :
    o.events.filter Event.isVerdict = [] := by
  rw [← filter_own Event.isOwn_of_isVerdict]
  have hopening : ∀ r, (openingEvents h.debug callbacks n r : List (Event R)).filter
      Event.isVerdict = [] := fun r => filter_told _ _ rfl
  cases t with
  | none =>
    rcases ha.own_events_unsent with hnil | hone
    · rw [hnil]
      rfl
    · rw [hone, hopening]
  | some t =>
    have hclosing : t.closing.filter Event.isVerdict = [] := by
      cases ha with
      | broken => simp at hending
      | taken _ _ _ _ _ closed =>
        cases closed with
        | retried _ _ closing =>
          rw [closing]
          exact filter_told _ _ rfl
        | cancelledPausing _ closing =>
          rw [closing]
          rfl
        | _ => simp at hending
    rw [ha.own_events_sent, Turn.filter_events Event.verdict_of_isStep, hopening, hclosing]
    rfl

theorem Course.untold {r : Request} {s : σ} {turns : List (Turn R σ)} {ending : Option Ending}
    {o : Outcome (Event R) σ (Option Response)}
    (hc : Course h cancellable callbacks start n r s turns ending o)
    (hending : ending = some .cancelled ∨ ending = some .cancelledPausing) :
    o.events.filter Event.isVerdict = [] := by
  induction hc with
  | cut => rfl
  | last attempt => exact attempt.untold (.inr hending)
  | @again _ _ _ _ _ _ e _ _ _ attempt rest ih =>
    have hfirst : e.filter Event.isVerdict = [] := attempt.untold (.inl rfl)
    rw [Outcome.after_events, List.filter_append, hfirst, ih hending]
    rfl

theorem Executed.built {r : Request} {s : σ} {turns : List (Turn R σ)} {ending : Option Ending}
    {o : Outcome (Event R) σ (Option Response)}
    (he : Executed h cancellable r s turns ending o) : Built turns ending o.events := by
  cases he with
  | refused => exact ⟨[], rfl, .inl rfl⟩
  | unreset method reset =>
    have hreset := filter_reset Event.isOwn_of_isBuilt Event.built_of_isStep reset
    exact ⟨[], hreset, .inl rfl⟩
  | run method reset course =>
    obtain ⟨more, hcourse, hmore⟩ := course.built
    refine ⟨more, ?_, hmore⟩
    rw [Outcome.after_events, List.filter_append, hcourse,
      filter_reset Event.isOwn_of_isBuilt Event.built_of_isStep reset, List.nil_append]

theorem Executed.untold {r : Request} {s : σ} {turns : List (Turn R σ)} {ending : Option Ending}
    {o : Outcome (Event R) σ (Option Response)}
    (he : Executed h cancellable r s turns ending o)
    (hending : ending = some .cancelled ∨ ending = some .cancelledPausing) :
    o.events.filter Event.isVerdict = [] := by
  cases he with
  | refused | unreset => simp at hending
  | run method reset course =>
    rw [Outcome.after_events, List.filter_append, course.untold hending,
      filter_reset Event.isOwn_of_isVerdict Event.verdict_of_isStep reset, List.nil_append]

end reports

end Engine

end Redial
