import Redial.Proofs.Answers
import Redial.Proofs.Attribution.Attempts
import Redial.Proofs.Playback

/-! # Every response is attributed

    What a run returns is the answer of its last attempt, and the error of a response that
    it raises is made of that answer, unless the surroundings raised it.  So whatever a
    program is given as a response, during a run or at its end, answers the transmission
    that was handed over last. -/

namespace Redial.Engine

variable {R σ : Type} [Arith R] {h : Hooks R σ} {cancellable : Bool} {callbacks : Slot Callbacks}
  {minutes : σ → List Minute} {P : Fault → Prop} {start : R} {n : Nat}

/-! ## Section 1: The end of a run -/

/-- A run that ended by itself was ended by its last attempt, if that was sent. -/
theorem Course.last_attempt {r : Request} {s : σ} {turns : List (Turn R σ)}
    {ending : Option Ending} {o : Outcome (Event R) σ (Option Response)}
    (hc : Course h cancellable callbacks start n r s turns ending o) :
    o.result = .ok none ∨
      ∃ k r' s' t o', Attempted h cancellable callbacks start k r' s' t ending o' ∧
        o.result = o'.result ∧ ∀ turn, t = some turn → turns.getLast? = some turn := by
  induction hc with
  | cut => exact .inl rfl
  | @last n r s t ending o attempt =>
    refine .inr ⟨n, r, s, t, o, attempt, rfl, ?_⟩
    intro turn ht
    rw [ht]
    rfl
  | again attempt rest ih =>
    refine ih.imp_right ?_
    intro ⟨k, r', s', t, o', hattempted, hresult, hlast⟩
    refine ⟨k, r', s', t, o', hattempted, hresult, ?_⟩
    intro turn ht
    rw [List.getLast?_cons, hlast turn ht]
    rfl

/-- The response that an attempt returns is its answer. -/
theorem Attempted.returns {r : Request} {s : σ} {t : Option (Turn R σ)} {ending : Option Ending}
    {o : Outcome (Event R) σ (Option Response)}
    (ha : Attempted h cancellable callbacks start n r s t ending o) {response : Response}
    (hresult : o.result = .ok (some response)) :
    ∃ turn, t = some turn ∧ turn.answer = .ok response := by
  cases ha with
  | cancelled | unsent | broken => cases hresult
  | taken clear opened run₁ run₂ settled closed =>
    cases closed with
    | succeeded answer | returned answer =>
      cases hresult
      exact ⟨_, rfl, answer⟩
    | _ => cases hresult

/-- The fault is the error of the response that answered the attempt. -/
def Turn.Blames (t : Turn R σ) (f : Fault) : Prop :=
  ∃ response error, t.answer = .ok response ∧ error.response = response ∧ f = .response error

/-- What the triggers of a retry raise has no error of a response. -/
theorem Settled.raises (hm : h.Minuted minutes) (hr : h.RaiseOnly P) (hP : Spares P)
    {t : Turn R σ} {f : Fault} {e : List (Event R)}
    (hs : Settled h cancellable t (.error f) e) : P f := by
  cases hs with
  | @offered response _ _ _ _ _ run _ =>
    exact (leaves_offer hm hr hP cancellable response).2 _ _ _ (congrArg Outcome.result run)

/-- Only an ending by the error of a response raises what the surroundings do not. -/
theorem Closed.raises (hm : h.Minuted minutes) (hr : h.RaiseOnly P) (hP : Spares P)
    {t : Turn R σ} {trigger : Except Fault (Option (Reason × R))} {ending : Option Ending}
    {o : Outcome (Event R) σ (Option Response)}
    (hanswer : ∀ f, t.answer = .error f → P f) (htrigger : ∀ f, trigger = .error f → P f)
    (hc : Closed h callbacks start n t trigger ending o) {f : Fault} (hf : o.result = .error f) :
    P f ∨ t.Blames f := by
  cases hc with
  | halted | cancelledPausing =>
    cases hf
    exact .inl (htrigger _ rfl)
  | overdrawn spend =>
    cases hf
    exact .inl (hP.unmarked (spent_unmarked spend))
  | unretried _ run =>
    cases hf
    have hannounce := leaves_announce hm hr hP callbacks n
    exact .inl ((hannounce _ _ _ _).2 _ _ _ (congrArg Outcome.result run))
  | retried | succeeded | returned => cases hf
  | lost answer =>
    cases hf
    exact .inl (hanswer _ answer)
  | lostUntold _ run | rejectedUntold _ _ _ _ run =>
    cases hf
    have hreport := leaves_report hm hr hP callbacks start n
    exact .inl ((hreport _ _).2 _ _ _ (congrArg Outcome.result run))
  | @succeededUntold response _ _ _ _ _ _ run =>
    cases hf
    have hsucceed := leaves_succeed hm hr hP callbacks start n response
    exact .inl (hsucceed.2 _ _ _ (congrArg Outcome.result run))
  | undescribed =>
    cases hf
    exact .inl (hP.unmarked rfl)
  | rejected answer _ _ described =>
    cases hf
    exact .inr ⟨_, _, answer, ResponseError.response_ofResponseBy described, rfl⟩

theorem Attempted.raises (hm : h.Minuted minutes) (hr : h.RaiseOnly P) (hP : Spares P)
    {r : Request} {s : σ} {t : Option (Turn R σ)} {ending : Option Ending}
    {o : Outcome (Event R) σ (Option Response)}
    (ha : Attempted h cancellable callbacks start n r s t ending o) {f : Fault}
    (hf : o.result = .error f) : P f ∨ ∃ turn, t = some turn ∧ turn.Blames f := by
  have htransmit := transmit_failsOnly hm hr hP
  cases ha with
  | cancelled =>
    cases hf
    exact .inl (hP _ nofun)
  | unsent clear run =>
    cases hf
    have hopening := leaves_opening hm hr hP cancellable callbacks n
    exact .inl (hopening.2 _ _ _ (congrArg Outcome.result run))
  | @broken t _ _ _ _ _ _ _ _ run₂ =>
    cases hf
    have hrun := transmit_of_exchange_error run₂ (.inl rfl)
    exact .inl (htransmit t.staged _ _ _ (congrArg Outcome.result hrun))
  | @taken t _ _ _ _ _ trigger _ _ _ _ _ run₂ settled closed =>
    have hanswer : ∀ f, t.answer = .error f → P f := by
      intro f hanswer
      have hrun := transmit_of_exchange_error run₂ (.inr (congrArg _ hanswer))
      exact htransmit t.staged _ _ _ (congrArg Outcome.result hrun)
    have htrigger : ∀ f, trigger = .error f → P f := by
      intro f htrigger
      rw [htrigger] at settled
      exact settled.raises hm hr hP
    exact (closed.raises hm hr hP hanswer htrigger hf).imp_right fun hblames => ⟨t, rfl, hblames⟩

/-- The response that a run returns is the answer of its last attempt. -/
theorem Executed.returns {r : Request} {s : σ} {turns : List (Turn R σ)}
    {ending : Option Ending} {o : Outcome (Event R) σ (Option Response)}
    (he : Executed h cancellable r s turns ending o) {response : Response}
    (hresult : o.result = .ok (some response)) :
    ∃ t, turns.getLast? = some t ∧ t.answer = .ok response := by
  cases he with
  | refused | unreset => cases hresult
  | run method reset course =>
    rw [Outcome.after_result] at hresult
    rcases course.last_attempt with hnone | ⟨k, r', s', t, o', hattempted, hend, hlast⟩
    · rw [hnone] at hresult
      cases hresult
    · obtain ⟨turn, ht, answer⟩ := hattempted.returns (hend.symm.trans hresult)
      exact ⟨turn, hlast turn ht, answer⟩

/-- The error of a response that no call raised is made of the answer of the last attempt. -/
theorem Executed.raises (hm : h.Minuted minutes) (hr : h.RaiseOnly P) (hP : Spares P)
    {r : Request} {s : σ} {turns : List (Turn R σ)} {ending : Option Ending}
    {o : Outcome (Event R) σ (Option Response)}
    (he : Executed h cancellable r s turns ending o) {f : Fault} (hf : o.result = .error f) :
    P f ∨ ∃ t, turns.getLast? = some t ∧ t.Blames f := by
  cases he with
  | refused method =>
    cases hf
    exact .inl (hP.unmarked (checkMethod_unmarked _ _ _ (congrArg Outcome.result method)))
  | unreset method reset =>
    cases hf
    have hreset := leaves_resetPolicy hm hr hP
    exact .inl (hreset.2 _ _ _ (congrArg Outcome.result reset))
  | run method reset course =>
    rw [Outcome.after_result] at hf
    rcases course.last_attempt with hnone | ⟨k, r', s', t, o', hattempted, hend, hlast⟩
    · rw [hnone] at hf
      cases hf
    · refine (hattempted.raises hm hr hP (hend.symm.trans hf)).imp_right ?_
      intro ⟨turn, ht, hblames⟩
      exact ⟨turn, hlast turn ht, hblames⟩

/-- The answer of the last attempt is that of the last transmission. -/
theorem Executed.answeredBy {r : Request} {s : σ} {turns : List (Turn R σ)}
    {ending : Option Ending} {o : Outcome (Event R) σ (Option Response)}
    (he : Executed h cancellable r s turns ending o) {added : List (List Minute)}
    (hadds : List.Forall₂ Turn.Adds turns added) {t : Turn R σ} (hlast : turns.getLast? = some t)
    {response : Response} (answer : t.answer = .ok response) :
    ∃ staged, (sent o.events).getLast? = some staged ∧
      AnsweredBy added.flatten response staged := by
  refine ⟨t.staged, ?_, answeredBy_flatten hadds hlast answer⟩
  rw [he.sent_eq, List.getLast?_map, hlast]
  rfl

/-! ## Section 2: Every response -/

/-- An execution on surroundings that keep minutes is the one on the surroundings, with the
    minutes beside the state. -/
theorem execute_minuted (h : Hooks R σ) (cancellable : Bool) (limit : Nat) (r : Request) (s : σ) :
    let o := execute h cancellable limit r s
    ∃ passed, execute h.minuted cancellable limit r (s, [])
      = ⟨o.result, o.request, (o.state, passed), o.events⟩ := by
  intro o
  have hrun : (execute h.minuted cancellable limit r (s, [])).viewed Prod.fst = o :=
    widens_execute h.minuted_widens cancellable limit r (s, [])
  rw [← hrun]
  exact ⟨_, rfl⟩

/-- Responses are attributed to the transmissions that produced them, whatever handlers,
    policies and callbacks assign to the request.  The minutes that are kept beside the
    state hold the transmissions that were sent, which are those that were built, except
    one at most that was built last.  Every response that was given to a handler or a
    callback names the target of the transmission before it and reports what that
    transmission returned.  So does the response that the run returns, or carries in the
    error that it raises, and its transmission is the last one. -/
theorem execute_attributes_responses {h : Hooks R σ} (hk : h.LeaveTarget) (cancellable : Bool)
    (limit : Nat) (r : Request) (s : σ) :
    let o := execute h cancellable limit r s
    ∃ passed more, execute h.minuted cancellable limit r (s, [])
        = ⟨o.result, o.request, (o.state, passed), o.events⟩ ∧
      handed passed = sent o.events ∧
      o.events.filter Event.isBuilt = (sent o.events).map .staged ++ more ∧ more.length ≤ 1 ∧
      Attributed passed ∧
      (∀ response, o.result = .ok (some response) →
        ∃ staged, (sent o.events).getLast? = some staged ∧ AnsweredBy passed response staged) ∧
      ∀ error, h.RaiseOnly (· ≠ .response error) → o.result = .error (.response error) →
        ∃ staged, (sent o.events).getLast? = some staged ∧
          AnsweredBy passed error.response staged := by
  intro o
  obtain ⟨passed, hrun⟩ := execute_minuted h cancellable limit r s
  obtain ⟨turns, ending, hexecuted, -⟩ := executed h.minuted cancellable limit r (s, [])
  rw [hrun] at hexecuted
  obtain ⟨added, hadds, hpassed⟩ := hexecuted.adds h.minuted_snd hk.minuted
  obtain rfl : passed = added.flatten := hpassed
  obtain ⟨more, hbuilt, hmore⟩ := hexecuted.built
  have hsent : sent o.events = turns.map Turn.staged := hexecuted.sent_eq
  refine ⟨added.flatten, more, hrun, ?_, ?_, ?_, attributed_flatten hadds, ?_, ?_⟩
  · rw [handed_flatten hadds, hsent]
  · rw [hsent, List.map_map]
    exact hbuilt
  · rcases hmore with rfl | ⟨-, hone⟩
    · exact Nat.zero_le 1
    · exact Nat.le_of_eq hone
  · intro response hresult
    obtain ⟨t, hlast, answer⟩ := hexecuted.returns hresult
    exact hexecuted.answeredBy hadds hlast answer
  · intro error hr hresult
    -- no call raised the error, so the end of the run did
    have hspares : Spares (· ≠ .response error) := by
      intro f hf heq
      subst heq
      exact hf rfl
    rcases hexecuted.raises h.minuted_snd hr.minuted hspares hresult with hne | ⟨t, hlast, hblames⟩
    · exact absurd rfl hne
    · obtain ⟨response, made, answer, hresponse, heq⟩ := hblames
      cases heq
      rw [hresponse]
      exact hexecuted.answeredBy hadds hlast answer

/-- The status of the response with whose error a run ends. -/
def raisedStatus : Except Fault (Option Response) → Option Int
  | .error (.response error) => some error.response.status
  | _ => none

theorem error_of_raisedStatus {result : Except Fault (Option Response)} {status : Int}
    (hstatus : raisedStatus result = some status) :
    ∃ error, result = .error (.response error) ∧ error.response.status = status := by
  unfold raisedStatus at hstatus
  split at hstatus
  · next error => exact ⟨error, rfl, Option.some.inj hstatus⟩
  · cases hstatus

/-- A handler that sends the request elsewhere, by another method: the error carries the
    response of the second transmission, with the target that this one had. -/
theorem execute_attributes_responses_elsewhere :
    let p : Playback Rat :=
      ⟨fun k => if k = 0 then .ok ⟨503, "", [], []⟩ else .ok ⟨404, "", [("A", "1")], []⟩,
        fun _ _ => true, fun _ _ => false, fun _ => .whole 0⟩
    let elsewhere : Hook Nat Bool := fun r k =>
      ⟨.ok true, { r with method := "PUT", url := .text "http://b/" }, k, []⟩
    let h : Hooks Rat Nat := { p.hooks with handle := fun _ _ _ => elsewhere }
    let r : Request := { Request.make "GET" (.text "http://a/") none Headers.empty with
      retries := .whole 1, handler := .hook (.leaf "Elsewhere" 0) }
    h.LeaveTarget ∧
      (sent (execute h false 5 r 0).events).map (fun t => (t.method, t.url.plain))
        = [("GET", "http://a/"), ("PUT", "http://b/")] ∧
      ∃ error staged, (execute h false 5 r 0).result = .error (.response error) ∧
        h.RaiseOnly (· ≠ .response error) ∧ error.response.status = 404 ∧
        (sent (execute h false 5 r 0).events).getLast? = some staged ∧
        AnsweredBy (execute h.minuted false 5 r (0, [])).state.2 error.response staged := by
  intro p elsewhere h r
  have hk : h.LeaveTarget :=
    { onRequest := fun _ _ _ _ _ hr => hr
      announce := fun _ _ _ _ hr => hr
      writeSource := fun _ _ _ _ hr => hr
      exchange := fun _ _ _ _ _ hr => hr }
  obtain ⟨passed, more, hrun, -, -, -, -, -, hraised⟩ :=
    execute_attributes_responses hk false 5 r 0
  have hcomputed : raisedStatus (execute h false 5 r 0).result = some 404 := by decide +kernel
  obtain ⟨error, herror, hstatus⟩ := error_of_raisedStatus hcomputed
  have hr : h.RaiseOnly (· ≠ .response error) := by
    constructor
    case exchange =>
      intro staged body r s f hf
      have hscript : p.script s = .error f := hf
      dsimp only [p] at hscript
      split at hscript <;> cases hscript
    all_goals
      intros
      intro r s f hf
      cases hf
  refine ⟨hk, by decide +kernel, ?_⟩
  obtain ⟨staged, hlast, hanswered⟩ := hraised error hr herror
  refine ⟨error, staged, herror, hr, hstatus, hlast, ?_⟩
  rw [hrun]
  exact hanswered

end Redial.Engine
