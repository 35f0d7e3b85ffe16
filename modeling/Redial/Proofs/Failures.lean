import Redial.Proofs.Budget
import Redial.Proofs.Returns

/-! # How a run fails

    With hooks that raise nothing and a transport that raises nothing but failures of
    the exchange a run is meant to end in four ways.  The method is refused before
    anything is sent, or the last response is returned, or it is raised as an error,
    or the last failure of the exchange is raised again; and what is raised after a
    transmission was told to the callback for errors, once and as the last step.

    Three ways lead around this, all of them open to an answer from outside: a pause
    that cannot begin, a location that is no URL, and a body that is to be quoted under
    a character set which refuses to decode it.  A run fails as it is meant to exactly
    if its last answer takes none of them. -/

namespace Redial.Engine

variable {R σ : Type}

/-! ## Section 1: What is told of errors -/

theorem failures_told (callbacks : Slot Callbacks) (choose : Callbacks → Option Nat)
    {event : Event R} (hevent : failures [event] = []) :
    failures (told callbacks choose event) = [] := by
  rcases told_cases callbacks choose event with hnil | hone
  · rw [hnil]
    rfl
  · rw [hone, hevent]

/-- An error was told to the callback for errors, once and as the last step of the
    engine. -/
def FailureTold (callbacks : Slot Callbacks) (f : Fault) (events : List (Event R)) : Prop :=
  ∃ before info, info.error = f ∧ failures before = [] ∧
    own events = before ++ told callbacks Callbacks.onFailure (.failed info)

/-- A run that ended as it is meant to after its last attempt. -/
inductive Documented (h : Hooks R σ) (callbacks : Slot Callbacks) (t : Turn R σ) :
    Except Fault (Option Response) → List (Event R) → Prop where
  /-- The last response is returned. -/
  | returned {response : Response} {events : List (Event R)} (answer : t.answer = .ok response)
      (untold : failures events = []) : Documented h callbacks t (.ok (some response)) events
  /-- The last response is raised as an error. -/
  | rejected {response : Response} {error : ResponseError} {events : List (Event R)}
      (answer : t.answer = .ok response)
      (described : ResponseError.ofResponseBy h.decode response none = .ok error)
      (reported : FailureTold callbacks (.response error) events) :
      Documented h callbacks t (.error (.response error)) events
  /-- The last failure of the exchange is raised again. -/
  | lost {f : Fault} {events : List (Event R)} (answer : t.answer = .error f)
      (exchange : f.isExchange = true) (reported : FailureTold callbacks f events) :
      Documented h callbacks t (.error f) events

theorem FailureTold.after {callbacks : Slot Callbacks} {f : Fault} {earlier events : List (Event R)}
    (ht : FailureTold callbacks f events) (hearlier : failures earlier = []) :
    FailureTold callbacks f (earlier ++ events) := by
  obtain ⟨before, info, herror, hbefore, hown⟩ := ht
  refine ⟨own earlier ++ before, info, herror, ?_, ?_⟩
  · rw [failures_append, failures_own, hearlier, hbefore]
    rfl
  · rw [own_append, hown, List.append_assoc]

theorem Documented.after {h : Hooks R σ} {callbacks : Slot Callbacks} {t : Turn R σ}
    {result : Except Fault (Option Response)} {earlier events : List (Event R)}
    (hd : Documented h callbacks t result events) (hearlier : failures earlier = []) :
    Documented h callbacks t result (earlier ++ events) := by
  cases hd with
  | returned answer untold =>
    exact .returned answer (by rw [failures_append, hearlier, untold]; rfl)
  | rejected answer described reported =>
    exact .rejected answer described (reported.after hearlier)
  | lost answer exchange reported => exact .lost answer exchange (reported.after hearlier)

variable [Arith R] {h : Hooks R σ} {cancellable : Bool} {callbacks : Slot Callbacks} {start : R}
  {n : Nat}

theorem Consult.failures_events (c : Consult R) : failures (c.events cancellable) = [] := by
  unfold Consult.events
  split
  · rfl
  · rfl
  · split
    · cases cancellable <;> rfl
    · rfl
  · rfl

/-- What an attempt that was sent reports before it is closed. -/
def Turn.run (debug cancellable : Bool) (callbacks : Slot Callbacks) (n : Nat) (t : Turn R σ) :
    List (Event R) :=
  openingEvents debug callbacks n t.opened ++ [.transmitted t.staged] ++
    t.consults.flatMap (Consult.events cancellable)

theorem Turn.failures_run (debug : Bool) (t : Turn R σ) :
    failures (t.run debug cancellable callbacks n) = [] := by
  have hopening : failures (openingEvents debug callbacks n t.opened : List (Event R)) = [] :=
    failures_told callbacks Callbacks.onRequest rfl
  have hconsults : failures (t.consults.flatMap (Consult.events cancellable)) = [] := by
    induction t.consults with
    | nil => rfl
    | cons c cs ih => rw [List.flatMap_cons, failures_append, c.failures_events, ih]; rfl
  rw [Turn.run, failures_append, failures_append, hopening, hconsults]
  rfl

theorem Turn.failures_events (debug : Bool) (t : Turn R σ) :
    failures (t.events debug cancellable callbacks n) = failures t.closing := by
  show failures (t.run debug cancellable callbacks n ++ t.closing) = _
  rw [failures_append, t.failures_run, List.nil_append]

/-- An attempt that leads to another one reports no error. -/
theorem Attempted.again_untold {r : Request} {s : σ} {t : Turn R σ}
    {o : Outcome (Event R) σ (Option Response)}
    (ha : Attempted h cancellable callbacks start n r s (some t) none o) :
    failures o.events = [] := by
  rw [← failures_own, ha.own_events_sent, t.failures_events]
  cases ha with
  | taken _ _ _ _ _ closed =>
    cases closed with
    | retried _ _ closing =>
      rw [closing]
      exact failures_told callbacks Callbacks.onRetry rfl

/-! ## Section 2: The last attempt -/

/-- A course that ends by itself ends with an attempt, before which no error was told;
    what every retry preserves holds as that attempt begins. -/
theorem Course.ends {P : Request → Prop}
    (hagain : ∀ {k r s t o}, P r →
      Attempted h cancellable callbacks start k r s (some t) none o → P o.request)
    {r : Request} {s : σ} {turns : List (Turn R σ)} {ending : Ending}
    {o : Outcome (Event R) σ (Option Response)}
    (hc : Course h cancellable callbacks start n r s turns (some ending) o) (hr : P r) :
    ∃ init t k r' s' o' e, turns = init ++ Option.toList t ∧ P r' ∧ o = o'.after e ∧
      failures e = [] ∧ Attempted h cancellable callbacks start k r' s' t (some ending) o' := by
  -- the ending is an index of the relation, so it is held back during the induction
  generalize hending : some ending = e at hc
  induction hc with
  | cut => cases hending
  | @last n r s t ending' o attempt =>
    cases hending
    exact ⟨[], t, n, r, s, o, [], rfl, hr, (Outcome.after_nil o).symm, rfl, attempt⟩
  | @again n r r' s s' t e turns ending' o attempt rest ih =>
    obtain ⟨init, last, k, r₂, s₂, o₂, e₂, hturns, hr₂, ho, hfailures, hlast⟩ :=
      ih (hagain hr attempt) hending
    refine ⟨t :: init, last, k, r₂, s₂, o₂, e ++ e₂, ?_, hr₂, ?_, ?_, hlast⟩
    · rw [hturns, List.cons_append]
    · rw [ho, Outcome.after_after]
    · have hfirst : failures e = [] := attempt.again_untold
      rw [failures_append, hfirst, hfailures]
      rfl

/-- The faults by which the answer of an attempt ends a run past the callback for
    errors. -/
inductive Turn.Escapes (h : Hooks R σ) (t : Turn R σ) : Fault → Prop where
  /-- A question is stuck. -/
  | stuck {response : Response} {f : Fault} (answer : t.answer = .ok response)
      (stuck : Consult.Stuck h response t.settled t.settledAt t.consults f) : t.Escapes h f
  /-- The response is to be raised, and the decoder refuses its body otherwise than by not
      finding the declared set. -/
  | undescribed {response : Response} {f : CharsetFault} (answer : t.answer = .ok response)
      (bad : response.isSuccess = false) (raise : t.settled.raiseOnError.isSet = true)
      (free : ∀ g, ¬ Consult.Stuck h response t.settled t.settledAt t.consults g)
      (undecoded : h.decode response.declaredSet response.body = .error f)
      (refused : f.isLookup = false) : t.Escapes h (.charset f)

omit [Arith R] in
/-- A location fails to resolve if it is no URL, or if there is no URL to see it from. -/
theorem resolveFrom_fault {current : Value} {location : String} {f : Fault}
    (hf : resolveFrom current location = .error f) :
    (∃ g, f = .url g) ∨ ∃ v, f = .notAUrl v := by
  have hread : ∀ (x : Except UrlFault String), x.mapError Fault.url = .error f →
      ∃ g, f = .url g := by
    intro x hx
    cases x with
    | error g =>
      cases hx
      exact ⟨g, rfl⟩
    | ok target => cases hx
  unfold resolveFrom at hf
  split at hf
  · exact .inl (hread _ hf)
  · cases hparse : Url.parse location.toList with
    | error g =>
      rw [hparse] at hf
      cases hf
      exact .inl ⟨g, rfl⟩
    | ok l =>
      rw [hparse] at hf
      cases habsolute : l.isAbsolute with
      | true =>
        simp only [Run.mapError_ok, bind, Except.bind, habsolute, if_true] at hf
        cases hf
      | false =>
        simp only [Run.mapError_ok, bind, Except.bind, habsolute] at hf
        cases hf
        exact .inr ⟨_, rfl⟩

omit [Arith R] in
/-- A location that is no URL is never reported as a response. -/
theorem resolveFrom_error {current : Value} {location : String} {f : Fault}
    (hf : resolveFrom current location = .error f) (error : ResponseError) :
    f ≠ .response error := by
  rcases resolveFrom_fault hf with ⟨g, rfl⟩ | ⟨v, rfl⟩ <;> exact nofun

/-- An answer that escapes is a response, and what it ends the run with is not the
    error of a response. -/
theorem Turn.Escapes.answered {t : Turn R σ} {f : Fault} (he : t.Escapes h f) :
    (∃ response, t.answer = .ok response) ∧ ∀ error, f ≠ .response error := by
  cases he with
  | undescribed answer => exact ⟨⟨_, answer⟩, nofun⟩
  | stuck answer stuck =>
    refine ⟨⟨_, answer⟩, ?_⟩
    cases stuck with
    | pause => exact nofun
    | redirect _ _ _ _ unresolved => exact resolveFrom_error unresolved

/-- The last answer ends a run as documented unless it escapes, and an answer that
    escapes ends it with its fault, of which nothing is told. -/
def EndsWell (h : Hooks R σ) (callbacks : Slot Callbacks) (t : Turn R σ)
    (result : Except Fault (Option Response)) (events : List (Event R)) : Prop :=
  ((∀ f, ¬ t.Escapes h f) → Documented h callbacks t result events) ∧
    ∀ f, t.Escapes h f → result = .error f ∧ failures events = []

theorem EndsWell.after {t : Turn R σ} {result : Except Fault (Option Response)}
    {earlier events : List (Event R)} (hw : EndsWell h callbacks t result events)
    (hearlier : failures earlier = []) : EndsWell h callbacks t result (earlier ++ events) := by
  refine ⟨fun hnone => (hw.1 hnone).after hearlier, fun f hf => ⟨(hw.2 f hf).1, ?_⟩⟩
  rw [failures_append, hearlier, (hw.2 f hf).2]
  rfl

/-- An answer that ends a run as documented does not escape. -/
theorem EndsWell.iff {t : Turn R σ} {result : Except Fault (Option Response)}
    {events : List (Event R)} (hw : EndsWell h callbacks t result events) :
    Documented h callbacks t result events ↔ ∀ f, ¬ t.Escapes h f := by
  refine ⟨fun hd f he => ?_, hw.1⟩
  obtain ⟨⟨response, hanswer⟩, hother⟩ := he.answered
  have hresult : result = .error f := (hw.2 f he).1
  cases hd with
  | returned => cases hresult
  | rejected =>
    cases hresult
    exact hother _ rfl
  | lost answer =>
    rw [hanswer] at answer
    cases answer

/-! ## Section 3: What ends a run -/

/-- A question that is stuck is the fault that the triggers end with. -/
theorem Settled.stuck {t : Turn R σ} {trigger : Except Fault (Option (Reason × R))}
    {e : List (Event R)} (hs : Settled h cancellable t trigger e) {response : Response} {f : Fault}
    (answer : t.answer = .ok response)
    (stuck : Consult.Stuck h response t.settled t.settledAt t.consults f) :
    trigger = .error f := by
  -- something was asked, so the answer was offered to the triggers
  have hasked : t.consults ≠ [] := by
    intro hnil
    rw [hnil] at stuck
    cases stuck with
    | pause asked => cases asked
    | redirect asked => cases asked
  cases hs with
  | lost _ _ unasked | resent _ _ unasked | success _ _ unasked => exact absurd unasked.1 hasked
  | unfunded _ _ _ unasked => exact absurd unasked.1 hasked
  | offered answer' _ _ _ questions =>
    cases answer.symm.trans answer'
    exact questions.stuck stuck

/-- If no hook raises anything, the triggers end with a fault only if a question is
    stuck. -/
theorem Settled.fault (hh : h.RaiseNothing) (hp : h.Preserve Request.Placed) {t : Turn R σ}
    {f : Fault} {e : List (Event R)} (hs : Settled h false t (.error f) e)
    (hr : t.answered.Placed) :
    ∃ response, t.answer = .ok response ∧
      Consult.Stuck h response t.settled t.settledAt t.consults f := by
  cases hs with
  | @offered response _ _ answer _ _ _ questions =>
    exact ⟨response, answer, questions.fault hh hp hr⟩

/-- An answer without a stuck question escapes only if no error can be made from it. -/
theorem Turn.Escapes.charset {t : Turn R σ} {f : Fault} (he : t.Escapes h f)
    (free : ∀ response g, t.answer = .ok response →
      ¬ Consult.Stuck h response t.settled t.settledAt t.consults g) :
    ∃ response g, t.answer = .ok response ∧ response.isSuccess = false ∧
      t.settled.raiseOnError.isSet = true ∧ f = .charset g ∧
      ResponseError.ofResponseBy h.decode response none = .error g := by
  cases he with
  | stuck answer stuck => exact absurd stuck (free _ _ answer)
  | @undescribed response g answer bad raise _ undecoded refused =>
    exact ⟨response, g, answer, bad, raise, rfl,
      (ResponseError.ofResponseBy_error_iff response h.decode g).mpr ⟨undecoded, refused⟩⟩

/-- The way an attempt is closed fits its answer. -/
theorem Closed.endsWell (hh : h.RaiseNothing) (hp : h.Preserve Request.Placed)
    (hcallbacks : callbacks.Harmless) {b : Nat} {t : Turn R σ}
    {trigger : Except Fault (Option (Reason × R))} {ending : Ending} {e events : List (Event R)}
    {o : Outcome (Event R) σ (Option Response)} (hs : Settled h false t trigger e)
    (hr : t.answered.Placed) (hb : Funded b t.answered) (hleft : Funded b t.settled)
    (hlost : ∀ f, t.answer = .error f → f.isExchange = true)
    (hc : Closed h callbacks start n t trigger (some ending) o)
    (hown : own events = t.run h.debug false callbacks n ++ t.closing) :
    EndsWell h callbacks t o.result events := by
  have hfailures : failures events = failures t.closing := by
    rw [← failures_own, hown, failures_append, t.failures_run, List.nil_append]
  have htold : ∀ info : FailureInfo R,
      t.closing = told callbacks Callbacks.onFailure (.failed info) →
      FailureTold callbacks info.error events := by
    intro info hclosing
    exact ⟨_, info, rfl, t.failures_run h.debug, by rw [hown, hclosing]⟩
  have hfree : ∀ {decision}, trigger = .ok decision → ∀ response g, t.answer = .ok response →
      ¬ Consult.Stuck h response t.settled t.settledAt t.consults g := by
    intro decision htrigger response g hanswer hstuck
    rw [hs.stuck hanswer hstuck] at htrigger
    cases htrigger
  -- a trigger that ends with a fault is stuck with it, and with no other
  have hstuck : ∀ f, trigger = .error f → t.closing = [] →
      EndsWell h callbacks t (.error f) events := by
    rintro f rfl hclosing
    obtain ⟨response, hanswer, hfault⟩ := hs.fault hh hp hr
    refine ⟨fun hnone => absurd (.stuck hanswer hfault) (hnone f), fun g hg => ?_⟩
    rw [hfailures, hclosing]
    cases hg with
    | stuck answer stuck =>
      cases hs.stuck answer stuck
      exact ⟨rfl, rfl⟩
    | undescribed answer _ _ free =>
      cases hanswer.symm.trans answer
      exact absurd hfault (free f)
  cases hc with
  | @halted f _ closing => exact hstuck f rfl closing
  | cancelledPausing _ closing => exact hstuck _ rfl closing
  -- a retry that was decided on can be paid for
  | overdrawn spend =>
    have hpositive := hs.funded hb
    obtain ⟨left, rfl⟩ : ∃ left, b = left + 1 := ⟨b - 1, by omega⟩
    rw [hleft.spent_eq] at spend
    cases spend
  -- no callback raises anything
  | unretried _ run => exact ((returns_announce hh hcallbacks _ _ _ _ _).not_error run).elim
  | lostUntold _ run => exact ((returns_report hh hcallbacks _ _ _ _).not_error run).elim
  | succeededUntold _ _ run => exact ((returns_succeed hh hcallbacks _ _ _).not_error run).elim
  | rejectedUntold _ _ _ _ run => exact ((returns_report hh hcallbacks _ _ _ _).not_error run).elim
  -- the endings that are left are the documented ones and the missing description
  | @lost f _ _ _ answer run closing =>
    refine ⟨fun _ => .lost answer (hlost f answer) (htold _ closing), fun g hg => ?_⟩
    obtain ⟨⟨response, hanswer⟩, -⟩ := hg.answered
    rw [hanswer] at answer
    cases answer
  | succeeded answer good run closing =>
    refine ⟨fun _ => .returned answer ?_, fun g hg => ?_⟩
    · rw [hfailures, closing]
      exact failures_told callbacks Callbacks.onSuccess rfl
    · obtain ⟨response, -, hanswer, hbad, -⟩ := hg.charset (hfree rfl)
      cases hanswer.symm.trans answer
      rw [hbad] at good
      cases good
  | returned answer bad quiet closing =>
    refine ⟨fun _ => .returned answer (by rw [hfailures, closing]; rfl), fun g hg => ?_⟩
    obtain ⟨response, -, -, -, hraise, -⟩ := hg.charset (hfree rfl)
    rw [hraise] at quiet
    cases quiet
  | @undescribed response f answer bad raise described closing =>
    obtain ⟨hundecoded, hrefused⟩ :=
      (ResponseError.ofResponseBy_error_iff response h.decode f).mp described
    have hescapes : t.Escapes h (.charset f) :=
      .undescribed answer bad raise (fun g => hfree rfl response g answer) hundecoded hrefused
    refine ⟨fun hnone => absurd hescapes (hnone _), fun g hg => ?_⟩
    obtain ⟨response', g', hanswer, -, -, rfl, hsame⟩ := hg.charset (hfree rfl)
    cases hanswer.symm.trans answer
    cases hsame.symm.trans described
    exact ⟨rfl, by rw [hfailures, closing]; rfl⟩
  | @rejected response error _ _ _ answer bad raise described run closing =>
    refine ⟨fun _ => .rejected answer described (htold _ closing), fun g hg => ?_⟩
    obtain ⟨response', _, hanswer, -, -, -, hnone⟩ := hg.charset (hfree rfl)
    cases hanswer.symm.trans answer
    rw [hnone] at described
    cases described

/-- An attempt that ends a run was sent, and ends the run as its answer says. -/
theorem Attempted.endsWell (hh : h.RaiseNothing) (hp : h.Preserve Request.Placed)
    (hk : h.Keep fun r => r.retries) (hf : h.FailPlainly) (hdebug : h.debug = false)
    (hcallbacks : callbacks.Harmless) {b : Nat} {r : Request} {s : σ}
    (hr : r.Placed) (hb : Funded b r) {t : Option (Turn R σ)} {ending : Ending}
    {o : Outcome (Event R) σ (Option Response)}
    (ha : Attempted h false callbacks start n r s t (some ending) o) :
    ∃ turn, t = some turn ∧ EndsWell h callbacks turn o.result o.events := by
  have hfunded : h.Preserve (Funded b) := hk.preserve fun retries => retries.int? = some (b : Int)
  have hown : ∀ turn, t = some turn → own o.events = turn.events h.debug false callbacks n := by
    rintro turn rfl
    exact ha.own_events_sent
  have hplaced : ∀ turn, t = some turn → turn.answered.Placed ∧ Funded b turn.answered := by
    rintro turn rfl
    exact ⟨ha.answered hp hr, ha.answered hfunded hb⟩
  cases ha with
  | cancelled set => cases set
  | unsent clear run =>
    obtain ⟨r', s', e, hopening, -⟩ := opening_returns hh hcallbacks clear n hr.transport
    rw [hopening] at run
    cases run
  -- what is staged has no logging layer, so the transport can only fail plainly
  | @broken t f r₁ s₁ _ _ clear _ run₁ run₂ =>
    obtain ⟨-, hstaged, -⟩ := opening_sent clear run₁
    have hplain : ∀ c ∈ t.staged.content, c.Unlogged := by
      rw [hstaged, hdebug]
      exact stagedOf_unlogged hr
    obtain ⟨answer, _, _, _, htaken⟩ := exchange_taken hf hplain r₁ s₁
    rw [htaken] at run₂
    cases run₂
  | @taken t _ _ _ _ _ _ _ _ _ _ _ run₂ settled closed =>
    obtain ⟨hanswered, hbudget⟩ := hplaced t rfl
    have hleft : Funded b t.settled := settled.preserved hfunded (fun _ _ _ hb => hb) hbudget
    have hlost : ∀ f, t.answer = .error f → f.isExchange = true := by
      intro f hanswer
      rw [hanswer] at run₂
      exact exchange_failed run₂
    refine ⟨t, rfl, ?_⟩
    rw [Outcome.after_result]
    exact closed.endsWell hh hp hcallbacks settled hanswered hbudget hleft hlost (hown t rfl)

/-! ## Section 4: Runs -/

omit [Arith R] in
/-- A method is refused as unknown, or as one that the transport does not support. -/
theorem checkMethod_fault {r : Request} (hr : r.replacement = none) {s : σ} {f : Fault}
    (hm : (checkMethod h r s).result = .error f) :
    f = .unknownMethod r.method ∨ f = .unsupportedMethod r.method h.transportName := by
  have htransport : (checkTransport "supports_method" : Run (Event R) σ Unit) r s
      = ⟨.ok (), r, s, []⟩ := by
    unfold checkTransport
    rw [Run.request_bind, hr]
    rfl
  unfold checkMethod at hm
  rw [Run.request_bind] at hm
  cases hknown : knownMethods.contains r.method with
  | false =>
    simp only [hknown, Bool.not_false, if_true, Run.throw_bind, Run.throw_apply] at hm
    cases hm
    exact .inl rfl
  | true =>
    simp only [hknown, Bool.not_true, Bool.false_eq_true, if_false] at hm
    cases hoptional : optionalMethods.contains r.method with
    | false =>
      simp only [hoptional, Bool.false_eq_true, if_false] at hm
      cases hm
    | true =>
      simp only [hoptional, if_true, Run.bind_ok htransport, Outcome.after_nil] at hm
      cases hsupported : h.supports r.method with
      | false =>
        simp only [hsupported, Bool.not_false, if_true, Run.throw_apply] at hm
        cases hm
        exact .inr rfl
      | true =>
        simp only [hsupported, Bool.not_true, Bool.false_eq_true, if_false] at hm
        cases hm

/-- With hooks that raise nothing, and a transport that raises nothing but failures of
    the exchange, every run ends by itself: its method is refused before anything is
    done, or its last attempt ends it.  It ends as documented exactly if the last
    answer does not escape; if it escapes with a fault, this fault is what the run
    ends with, and no callback is told of it. -/
theorem execute_ends_documented_iff (hk : h.Keep fun r => r.retries) (hh : h.RaiseNothing)
    (hp : h.Preserve Request.Placed) (hf : h.FailPlainly) (hdebug : h.debug = false) {b : Nat}
    {r : Request} (hb : Funded b r) (hr : r.Placed) (s : σ) :
    ∃ o turns ending, (∀ limit, b < limit → execute h false limit r s = o) ∧
      Executed h false r s turns (some ending) o ∧ sent o.events = turns.map Turn.staged ∧
      ((turns = [] ∧ own o.events = [] ∧ (o.result = .error (.unknownMethod r.method) ∨
          o.result = .error (.unsupportedMethod r.method h.transportName))) ∨
        ∃ init t, turns = init ++ [t] ∧
          (Documented h (resetPolicy h r s).request.callbacks t o.result o.events ↔
            ∀ f, ¬ t.Escapes h f) ∧
          ∀ f, t.Escapes h f → o.result = .error f ∧ failures o.events = []) := by
  obtain ⟨o, turns, ending, hlimit, hexecuted⟩ := execute_ends hk hb false s
  have hfunded : h.Preserve (Funded b) := hk.preserve fun retries => retries.int? = some (b : Int)
  refine ⟨o, turns, ending, hlimit, hexecuted, hexecuted.sent_eq, ?_⟩
  cases hexecuted with
  | @refused f method =>
    refine .inl ⟨rfl, rfl, ?_⟩
    rcases checkMethod_fault (f := f) hr.transport (by rw [method]) with rfl | rfl
    · exact .inl rfl
    · exact .inr rfl
  | unreset method reset =>
    obtain ⟨r', s', e, hreset, -⟩ := returns_resetPolicy hh hr s
    rw [hreset] at reset
    cases reset
  | @run r' s' e turns ending o method reset course =>
    have hplaced : r'.Placed := (preserves_resetPolicy hp).left reset hr
    have hbudget : Funded b r' := (preserves_resetPolicy hfunded).left reset hb
    -- the invariant of the attempts: the request stays in place and has an integer budget
    have hagain : ∀ {k r₁ s₁ t o₁}, (r₁.Placed ∧ ∃ left, Funded left r₁) →
        Attempted h false r'.callbacks (h.now s') k r₁ s₁ (some t) none o₁ →
        o₁.request.Placed ∧ ∃ left, Funded left o₁.request := by
      rintro k r₁ s₁ t o₁ ⟨hr₁, left, hleft⟩ hattempt
      obtain ⟨left', hleft', -⟩ := hattempt.budget hk hleft
      refine ⟨?_, left', hleft'⟩
      exact (hattempt.preserved hp (fun _ _ _ hr => hr.redirected _ _)
        (fun _ left hr => hr.spent left) hr₁).1
    obtain ⟨init, t, k, r₂, s₂, o₂, e₂, hturns, ⟨hr₂, left, hleft⟩, rfl, huntold, hlast⟩ :=
      course.ends hagain ⟨hplaced, b, hbudget⟩
    obtain ⟨turn, rfl, hwell⟩ :=
      hlast.endsWell hh hp hk hf hdebug hplaced.callbacks hr₂ hleft
    refine .inr ⟨init, turn, hturns, ?_⟩
    have hreset : failures e = [] := by
      rw [← failures_own, resetPolicy_own reset, failures_resetEvents]
    have hcallbacks : (resetPolicy h r s).request.callbacks = r'.callbacks := by rw [reset]
    have hwhole : EndsWell h r'.callbacks turn o₂.result (e ++ (e₂ ++ o₂.events)) :=
      (hwell.after huntold).after hreset
    rw [hcallbacks]
    exact ⟨hwhole.iff, hwhole.2⟩

/-- Whether a run ended with a text that is no URL. -/
def endedAtUrl : Except Fault (Option Response) → Bool
  | .error (.url _) => true
  | _ => false

/-- A redirect to a location whose port is no number ends the run, and the callback
    for errors hears nothing of it. -/
theorem execute_ends_documented_iff_misdirected :
    let h : Hooks Rat Nat := Playback.hooks
      ⟨fun _ => .ok ⟨302, "", [("location", "http://h:bad/")], []⟩,
      fun _ _ => false, fun _ _ => false, fun _ => .whole 0⟩
    let r : Request := { Request.make "GET" (.text "http://a/") none Headers.empty with
      retries := .whole 1, callbacks := .hook { Callbacks.none with onFailure := some 0 } }
    (h.Keep fun r => r.retries) ∧ h.RaiseNothing ∧ h.Preserve Request.Placed ∧ h.FailPlainly ∧
      h.debug = false ∧ Funded 1 r ∧ r.Placed ∧
      ∃ o, (∀ limit, 1 < limit → execute h false limit r 0 = o) ∧
        (sent o.events).length = 1 ∧ endedAtUrl o.result = true ∧
        (failures o.events).length = 0 := by
  intro h r
  have hk : h.Keep fun r => r.retries := Playback.keep _
  have hh : h.RaiseNothing := Playback.returns _
  have hp : h.Preserve Request.Placed :=
    Hooks.Keep.preserve (φ := id) (Playback.keep _) Request.Placed
  have hf : h.FailPlainly := Playback.failPlainly _ fun _ _ hf => by cases hf
  have hb : Funded 1 r := rfl
  have hr : r.Placed := {
    handler := fun _ => nofun
    policy := fun _ => nofun
    callbacks := fun _ => nofun
    transport := rfl
    content := fun _ => nofun }
  obtain ⟨o, turns, ending, hlimit, -⟩ := execute_ends_documented_iff hk hh hp hf rfl hb hr 0
  refine ⟨hk, hh, hp, hf, rfl, hb, hr, o, hlimit, ?_⟩
  rw [← hlimit 2 (by decide)]
  exact ⟨by decide +kernel, by decide +kernel, by decide +kernel⟩

end Redial.Engine
