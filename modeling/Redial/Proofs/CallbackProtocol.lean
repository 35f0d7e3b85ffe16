import Redial.Proofs.Endings
import Redial.Proofs.Retries

/-! # The protocol of the callbacks

    With all four callbacks set, and surroundings that leave the request alone, what
    callbacks are told of a run is a call for each attempt, a call for each retry in
    between, and a call for the end: `inTurn asked again ++ final`.

    * `Rounds` says what is told of the attempts and of the retries, by their places.
      An attempt is retried by the rules of `Turn.Leads`, and what is told of the retry
      is about the next attempt.
    * `Finale` says what is told last.  Nothing is told of a run that ends before an
      attempt begins, in a pause or with a returned response; a success and an error that
      is raised are told once. -/

namespace Redial.Engine

variable {R σ : Type} {h : Hooks R σ} {cancellable : Bool} {callbacks : Slot Callbacks}
  {n : Nat}

/-! ## Section 1: Calls -/

/-- The calls of callbacks, in order. -/
def calls (events : List (Event R)) : List (Event R) := events.filter Event.isTold

@[simp] theorem calls_nil : calls ([] : List (Event R)) = [] := rfl

@[simp] theorem calls_append (xs ys : List (Event R)) : calls (xs ++ ys) = calls xs ++ calls ys :=
  List.filter_append xs ys

theorem calls_own (events : List (Event R)) : calls (own events) = calls events :=
  filter_own Event.isOwn_of_isTold events

/-- All four callbacks are set. -/
def AllSet (callbacks : Slot Callbacks) : Prop :=
  ∃ q y u v, callbacks = .hook ⟨some q, some y, some u, some v⟩

theorem AllSet.harmless (hc : AllSet callbacks) : callbacks.Harmless := by
  obtain ⟨q, y, u, v, rfl⟩ := hc
  exact fun _ => nofun

/-- Each of the four is called when it is to be told. -/
theorem AllSet.told (hc : AllSet callbacks) {choose : Callbacks → Option Nat}
    (hchoose : ∀ q y u v, (choose ⟨some q, some y, some u, some v⟩).isSome = true)
    (event : Event R) : told callbacks choose event = [event] := by
  obtain ⟨q, y, u, v, rfl⟩ := hc
  show (if (choose ⟨some q, some y, some u, some v⟩).isSome then [event] else []) = [event]
  rw [hchoose q y u v, if_pos rfl]

variable [Arith R] {start : R}

/-- An attempt that was sent is told before anything else, and then at its end. -/
theorem Attempted.calls_eq (hcallbacks : AllSet callbacks) {r : Request} {s : σ} {t : Turn R σ}
    {ending : Option Ending} {o : Outcome (Event R) σ (Option Response)}
    (ha : Attempted h cancellable callbacks start n r s (some t) ending o) :
    calls o.events = .requested (requestInfo t.opened n) :: t.closing := by
  have hopening : calls (openingEvents h.debug callbacks n t.opened : List (Event R))
      = [.requested (requestInfo t.opened n)] := by
    rw [openingEvents, hcallbacks.told fun _ _ _ _ => rfl]
    rfl
  have hclosing : calls t.closing = t.closing := by
    rcases ha.closing_told with hnil | ⟨choose, event, htold, hone⟩
    · rw [hnil]
      rfl
    · rw [hone]
      rcases told_cases callbacks choose event with hnil | hsome
      · rw [hnil]
        rfl
      · rw [hsome, calls, List.filter_cons, if_pos htold]
        rfl
  have hevents : calls (t.events h.debug cancellable callbacks n)
      = calls (openingEvents h.debug callbacks n t.opened) ++ calls t.closing :=
    Turn.filter_events Event.told_of_isStep h.debug t
  rw [← calls_own, ha.own_events_sent, hevents, hopening, hclosing]
  rfl

/-- An attempt that was not sent is not told if no callback raises anything. -/
theorem Attempted.calls_unsent (hh : h.RaiseNothing) (hcallbacks : AllSet callbacks) {r : Request}
    {s : σ} {ending : Option Ending} {o : Outcome (Event R) σ (Option Response)}
    (ha : Attempted h cancellable callbacks start n r s none ending o) : calls o.events = [] := by
  cases ha with
  | cancelled => rfl
  | unsent clear run =>
    rcases opening_apply clear callbacks n r with ⟨v, -, hrun⟩ | ⟨hslot, -⟩
    · rw [hrun] at run
      cases run
      rfl
    · obtain ⟨r₁, s₁, e₁, hrun, -⟩ := opening_returns hh hcallbacks.harmless clear n hslot
      rw [hrun] at run
      cases run

/-! ## Section 2: Rounds -/

/-- Calls of the callback for requests and of the one for retries, in turn. -/
def inTurn : List RequestInfo → List (RetryInfo R) → List (Event R)
  | q :: asked, y :: again => .requested q :: .retried y :: inTurn asked again
  | asked, _ => asked.map .requested

/-- What is told of a retry, by the attempt that it follows. -/
inductive Turn.RetriedAs (t : Turn R σ) (y : RetryInfo R) : Prop where
  /-- The exchange failed. -/
  | failure {f : Fault} (answer : t.answer = .error f) (reason : y.reason = .failure)
      (error : y.error = some f) (status : y.status = none) (waited : y.waited = Arith.zero)
  /-- The response was accepted; the pause that was made for it is told in seconds. -/
  | response {response : Response} (answer : t.answer = .ok response)
      (reason : y.reason ≠ .failure) (error : y.error = none)
      (status : y.status = some response.status)
      (granted : y.reason = .backoff → ∃ millis, .next (.ok millis) ∈ t.consults ∧
        .pause millis (.ok ()) ∈ t.consults ∧ seconds millis = .ok y.waited)
      (waited : y.reason ≠ .backoff → y.waited = Arith.zero)

theorem Turn.Leads.retriedAs {t : Turn R σ} {reason : Reason} {waited : R} {next : Request}
    (hl : t.Leads reason waited next) (r : Request) (n : Nat) :
    t.RetriedAs (retryInfo r n reason waited t.error t.status) := by
  cases hl with
  | @failure f answer again =>
    have herror : t.error = some f := by rw [Turn.error, answer]
    have hstatus : t.status = none := by rw [Turn.status, answer]
    exact .failure answer rfl herror hstatus rfl
  | @accepted response _ _ _ answer bad funded accepted =>
    have herror : t.error = none := by rw [Turn.error, answer]
    have hstatus : t.status = some response.status := by rw [Turn.status, answer]
    cases accepted with
    | handler claimed =>
      exact .response answer nofun herror hstatus nofun fun _ => rfl
    | backoff granted go paused span =>
      exact .response answer nofun herror hstatus (fun _ => ⟨_, granted, paused, span⟩)
        fun hreason => absurd rfl hreason
    | redirect rule moved => exact .response answer nofun herror hstatus nofun fun _ => rfl

/-- What is told of the attempts that begin with `r`, after `n` others and with `b` retries
    left, and of the retries. -/
structure Rounds (n b : Nat) (r : Request) (turns : List (Turn R σ)) (asked : List RequestInfo)
    (again : List (RetryInfo R)) : Prop where
  length : asked.length = turns.length
  fewer : again.length ≤ asked.length
  first : ∀ q ∈ asked.head?, q.url = r.url ∧ q.method = r.method
  /-- An attempt is told with its number and with the budget that is left. -/
  attempts : ∀ i q, asked[i]? = some q →
    q.attempt = n + i + 1 ∧ q.retries.int? = some ((b : Int) - i) ∧
      ∃ t, turns[i]? = some t ∧ q.url = t.opened.url ∧ q.method = t.opened.method
  /-- A retry is told with what the next attempt is told with. -/
  retries : ∀ i y, again[i]? = some y →
    y.attempt = n + i + 2 ∧ y.retries.int? = some ((b : Int) - (i + 1)) ∧
      (∀ q, asked[i + 1]? = some q → q.url = y.url ∧ q.method = y.method) ∧
      ∃ t, turns[i]? = some t ∧ t.RetriedAs y

/-- One round more in front. -/
theorem Rounds.cons {b : Nat} {r' : Request} {t : Turn R σ} {turns : List (Turn R σ)}
    {asked : List RequestInfo} {again : List (RetryInfo R)}
    (hr : Rounds (n + 1) b r' turns asked again) (hopened : Funded (b + 1) t.opened)
    (hleft : Funded b r') {reason : Reason} {waited : R}
    (hretried : t.RetriedAs (retryInfo r' n reason waited t.error t.status)) :
    Rounds n (b + 1) t.opened (t :: turns) (requestInfo t.opened n :: asked)
      (retryInfo r' n reason waited t.error t.status :: again) where
  length := congrArg (· + 1) hr.length
  fewer := Nat.succ_le_succ hr.fewer
  first := by simp [requestInfo]
  attempts := by
    intro i q hq
    cases i with
    | zero =>
      cases hq
      refine ⟨rfl, ?_, t, rfl, rfl, rfl⟩
      rw [requestInfo, hopened]
      simp
    | succ i =>
      obtain ⟨hattempt, hretries, hturn⟩ := hr.attempts i q hq
      refine ⟨by omega, ?_, hturn⟩
      rw [hretries]
      congr 1
      omega
  retries := by
    intro i y hy
    cases i with
    | zero =>
      cases hy
      refine ⟨rfl, ?_, ?_, t, rfl, hretried⟩
      · rw [retryInfo, hleft]
        congr 1
        omega
      · intro q hq
        have hhead : asked.head? = some q := by simpa [List.head?_eq_getElem?] using hq
        exact hr.first q hhead
    | succ i =>
      obtain ⟨hattempt, hretries, hnext, hturn⟩ := hr.retries i y hy
      refine ⟨by omega, ?_, hnext, hturn⟩
      rw [hretries]
      congr 1
      omega

/-- An attempt that is not retried. -/
theorem Rounds.single {b : Nat} {t : Turn R σ} (hopened : Funded b t.opened) :
    Rounds n b t.opened [t] [requestInfo t.opened n] ([] : List (RetryInfo R)) where
  length := rfl
  fewer := Nat.zero_le _
  first := by simp [requestInfo]
  attempts := by
    intro i q hq
    obtain ⟨rfl, rfl⟩ : i = 0 ∧ q = requestInfo t.opened n := by
      simpa [List.getElem?_singleton, eq_comm] using hq
    refine ⟨rfl, ?_, t, rfl, rfl, rfl⟩
    rw [requestInfo, hopened]
    simp
  retries := by simp

theorem Rounds.none {b : Nat} {r : Request} :
    Rounds n b r ([] : List (Turn R σ)) [] ([] : List (RetryInfo R)) :=
  ⟨rfl, Nat.le_refl 0, by simp, by simp, by simp⟩

/-! ## Section 3: Finales -/

/-- What callbacks are told at the end of a run, by its ending and its result; `q` is what
    was told of the attempt under way. -/
inductive Finale : (q : Option RequestInfo) → Option Ending → Except Fault (Option Response) →
    List (Event R) → Prop where
  /-- The limit was reached. -/
  | cut : Finale none none (.ok none) []
  /-- The run ended before an attempt began. -/
  | between {ending : Ending} {f : Fault}
      (early : ending ∈ [.refused, .unreset, .cancelled, .unsent]) :
      Finale none (some ending) (.error f) []
  | succeeded {q : RequestInfo} {response : Response} {info : SuccessInfo R}
      (good : response.isSuccess = true) (told : info.response = response)
      (fits : info.url = q.url ∧ info.method = q.method ∧ info.attempt = q.attempt) :
      Finale (some q) (some .succeeded) (.ok (some response)) [.succeeded info]
  | returned {q : RequestInfo} {response : Response} (bad : response.isSuccess = false) :
      Finale (some q) (some .returned) (.ok (some response)) []
  | raised {q : RequestInfo} {ending : Ending} {f : Fault} {info : FailureInfo R}
      (last : ending ∈ [.lost, .rejected]) (told : info.error = f)
      (fits : info.url = q.url ∧ info.method = q.method ∧ info.attempt = q.attempt) :
      Finale (some q) (some ending) (.error f) [.failed info]
  | silent {q : RequestInfo} {ending : Ending} {f : Fault}
      (inside : ending ∈ [.broken, .halted, .undescribed, .cancelledPausing]) :
      Finale (some q) (some ending) (.error f) []

/-- An attempt that ends a run: a retry that was decided on can be paid for, and no callback
    raises anything, so four endings are out of the question. -/
theorem Attempted.finale (hk : h.Keep fun r => r) (hh : h.RaiseNothing)
    (hcallbacks : AllSet callbacks) {b : Nat} {r : Request} (hb : Funded b r) {s : σ}
    {t : Turn R σ} {ending : Ending} {o : Outcome (Event R) σ (Option Response)}
    (ha : Attempted h cancellable callbacks start n r s (some t) (some ending) o) :
    Finale (some (requestInfo r n)) (some ending) o.result t.closing := by
  obtain ⟨-, -, -, hanswered⟩ := ha.begins hk
  have hharmless := hcallbacks.harmless
  cases ha with
  | broken _ _ _ _ _ _ closing =>
    rw [closing]
    exact .silent (by decide)
  | @taken _ _ _ _ _ _ trigger _ _ clear opened run₁ run₂ settled closed =>
    rw [Outcome.after_result]
    have hstays : (∀ accepted, trigger ≠ .ok (some accepted)) → t.settled = r :=
      fun hnone => (settled.stays hk hnone).1.trans hanswered
    cases closed with
    | halted _ closing | cancelledPausing _ closing =>
      rw [closing]
      exact .silent (by decide)
    | returned _ bad _ closing =>
      rw [closing]
      exact .returned bad
    | undescribed _ _ _ _ closing =>
      rw [closing]
      exact .silent (by decide)
    | overdrawn spend =>
      have hbudget : Funded b t.answered := by rwa [hanswered]
      have hfunded : Funded b t.settled :=
        settled.preserved (hk.preserve (Funded b)) (fun _ _ _ hb => hb) hbudget
      obtain ⟨left, rfl⟩ : ∃ left, b = left + 1 :=
        ⟨b - 1, by have := settled.funded hbudget; omega⟩
      rw [hfunded.spent_eq] at spend
      cases spend
    | unretried _ run => exact ((returns_announce hh hharmless _ _ _ _ _).not_error run).elim
    | lostUntold _ run => exact ((returns_report hh hharmless _ _ _ _).not_error run).elim
    | succeededUntold _ _ run => exact ((returns_succeed hh hharmless _ _ _).not_error run).elim
    | rejectedUntold _ _ _ _ run =>
      exact ((returns_report hh hharmless _ _ _ _).not_error run).elim
    | lost answer run closing =>
      rw [closing, hcallbacks.told fun _ _ _ _ => rfl, hstays nofun]
      exact .raised (by decide) rfl ⟨rfl, rfl, rfl⟩
    | succeeded answer good run closing =>
      rw [closing, hcallbacks.told fun _ _ _ _ => rfl, hstays nofun]
      exact .succeeded good rfl ⟨rfl, rfl, rfl⟩
    | rejected answer bad raise described run closing =>
      rw [closing, hcallbacks.told fun _ _ _ _ => rfl, hstays nofun]
      exact .raised (by decide) rfl ⟨rfl, rfl, rfl⟩

/-! ## Section 4: Runs -/

/-- What callbacks are told of a course, over any number of attempts. -/
theorem Course.calls_eq (hk : h.Keep fun r => r) (hh : h.RaiseNothing)
    (hcallbacks : AllSet callbacks) {b : Nat} {r : Request} (hb : Funded b r) {s : σ}
    {turns : List (Turn R σ)} {ending : Option Ending}
    {o : Outcome (Event R) σ (Option Response)}
    (hc : Course h cancellable callbacks start n r s turns ending o) :
    ∃ asked again final, calls o.events = inTurn asked again ++ final ∧
      Rounds n b r turns asked again ∧ asked.length ≤ again.length + 1 ∧
      Finale asked[again.length]? ending o.result final := by
  induction hc generalizing b with
  | cut => exact ⟨[], [], [], rfl, .none, Nat.zero_le _, .cut⟩
  | @last n r s t ending o attempt =>
    cases t with
    | none =>
      refine ⟨[], [], [], attempt.calls_unsent hh hcallbacks, .none, Nat.zero_le _, ?_⟩
      cases attempt with
      | cancelled => exact .between (by decide)
      | unsent => exact .between (by decide)
    | some t =>
      obtain ⟨rfl, -⟩ := attempt.begins hk
      exact ⟨[requestInfo t.opened n], [], t.closing, attempt.calls_eq hcallbacks, .single hb,
        Nat.le_refl 1, attempt.finale hk hh hcallbacks hb⟩
  | @again n r r' s s' t e turns ending o attempt rest ih =>
    obtain ⟨rfl, -, -, hanswered⟩ := attempt.begins hk
    obtain ⟨reason, waited, next, hleads, hspent, hclosing⟩ := attempt.retried hk
    -- a retry takes one from the budget, so there was one
    obtain ⟨left, hleft, -, hsum⟩ := attempt.budget (hk.map fun r => r.retries) hb
    obtain rfl : b = left + 1 := by
      have hone : 1 + left = b + 0 := hsum
      omega
    obtain ⟨asked, again, final, hcalls, hrounds, hlength, hfinale⟩ := ih hleft
    have hfirst := attempt.calls_eq hcallbacks
    rw [hclosing, hcallbacks.told fun _ _ _ _ => rfl] at hfirst
    refine ⟨_ :: asked, _ :: again, final, ?_,
      hrounds.cons hb hleft (hleads.retriedAs r' n), Nat.succ_le_succ hlength, hfinale⟩
    rw [Outcome.after_events, calls_append, hcalls, hfirst]
    rfl

/-- How the calls of a run end, by its result.  A fault that the transport raised itself is
    told apart: it ended the run in the middle of the exchange. -/
structure CallsEnd (ending : Option Ending) (result : Except Fault (Option Response))
    (asked : List RequestInfo) (again : List (RetryInfo R)) (final : List (Event R)) : Prop where
  /-- A success that is returned is told last. -/
  success : ∀ response, result = .ok (some response) → response.isSuccess = true →
    asked.length = again.length + 1 ∧ ∃ q info, asked.getLast? = some q ∧
      final = [.succeeded info] ∧ info.response = response ∧ info.url = q.url ∧
      info.method = q.method ∧ info.attempt = q.attempt
  /-- An unsuccessful response that is returned is not told. -/
  returned : ∀ response, result = .ok (some response) → response.isSuccess = false →
    asked.length = again.length + 1 ∧ final = []
  /-- The error of a response, or a failed exchange, is told before it is raised. -/
  raised : ∀ f, result = .error f →
    f.isExchange = true ∨ (∃ e, f = .response e) ∧ ending ≠ some .broken →
    asked.length = again.length + 1 ∧ ∃ q info, asked.getLast? = some q ∧
      final = [.failed info] ∧ info.error = f ∧ info.url = q.url ∧ info.method = q.method ∧
      info.attempt = q.attempt
  /-- A run that is cancelled as an attempt begins ends with a retry, or without any call. -/
  cancelled : ∀ method url, result = .error (.cancelled method url) → ending ≠ some .broken →
    asked.length = again.length ∧ final = []
  /-- A run that is cancelled in a pause ends with an attempt. -/
  cancelledPausing : result = .error .cancelledWaiting → ending ≠ some .broken →
    asked.length = again.length + 1 ∧ final = []

omit [Arith R] in
theorem Finale.callsEnd {ending : Option Ending} {result : Except Fault (Option Response)}
    {asked : List RequestInfo} {again : List (RetryInfo R)} {final : List (Event R)}
    (hf : Finale asked[again.length]? ending result final) (hfewer : again.length ≤ asked.length)
    (hlength : asked.length ≤ again.length + 1)
    (hmarked : ∀ f, result = .error f → ∀ e, ending = some e → e.Marked f) :
    CallsEnd ending result asked again final := by
  generalize hq : asked[again.length]? = q at hf
  -- an attempt is under way exactly if one more was told than retries were
  have hopen : ∀ q', q = some q' →
      asked.length = again.length + 1 ∧ asked.getLast? = some q' := by
    rintro q' rfl
    have hless : again.length < asked.length := (List.getElem?_eq_some_iff.mp hq).1
    have hone : asked.length = again.length + 1 := by omega
    refine ⟨hone, ?_⟩
    rw [List.getLast?_eq_getElem?, hone, Nat.add_sub_cancel, hq]
  have hclosed : q = none → asked.length = again.length := by
    rintro rfl
    have hle : asked.length ≤ again.length := List.getElem?_eq_none_iff.mp hq
    omega
  have hbroken : ∀ {e}, ending = some e → ending ≠ some .broken → e ≠ .broken := by
    rintro e rfl hnot rfl
    exact hnot rfl
  constructor
  · rintro response rfl good
    cases hf with
    | succeeded _ told fits =>
      obtain ⟨hone, hlast⟩ := hopen _ rfl
      exact ⟨hone, _, _, hlast, rfl, told, fits⟩
    | returned bad =>
      rw [bad] at good
      cases good
  · rintro response rfl bad
    cases hf with
    | succeeded good =>
      rw [bad] at good
      cases good
    | returned => exact ⟨(hopen _ rfl).1, rfl⟩
  · rintro f rfl hkind
    -- the fault is the mark of one of two endings
    have hending : ∀ e, ending = some e → e = .lost ∨ e = .rejected := by
      rintro e rfl
      rcases hkind with hexchange | ⟨⟨error, rfl⟩, hnot⟩
      · exact .inl ((hmarked f rfl e rfl).eq (Fault.marks_of_isExchange hexchange)
          (.inl hexchange))
      · exact .inr ((hmarked _ rfl e rfl).eq rfl (.inr (hbroken rfl hnot)))
    cases hf with
    | between early => rcases hending _ rfl with rfl | rfl <;> simp at early
    | silent inside => rcases hending _ rfl with rfl | rfl <;> simp at inside
    | raised _ told fits =>
      obtain ⟨hone, hlast⟩ := hopen _ rfl
      exact ⟨hone, _, _, hlast, rfl, told, fits⟩
  · rintro method url rfl hnot
    have hending : ∀ e, ending = some e → e = .cancelled := by
      rintro e rfl
      exact (hmarked _ rfl e rfl).eq rfl (.inr (hbroken rfl hnot))
    cases hf with
    | between => exact ⟨hclosed rfl, rfl⟩
    | raised last => cases hending _ rfl; simp at last
    | silent inside => cases hending _ rfl; simp at inside
  · rintro rfl hnot
    have hending : ∀ e, ending = some e → e = .cancelledPausing := by
      rintro e rfl
      exact (hmarked _ rfl e rfl).eq rfl (.inr (hbroken rfl hnot))
    cases hf with
    | between early => cases hending _ rfl; simp at early
    | raised last => cases hending _ rfl; simp at last
    | silent => exact ⟨(hopen _ rfl).1, rfl⟩

/-- What callbacks are told of an execution. -/
theorem Executed.calls_eq (hk : h.Keep fun r => r) (hh : h.RaiseNothing) {r : Request}
    (hcallbacks : AllSet r.callbacks) {b : Nat} (hb : Funded b r) {s : σ}
    {turns : List (Turn R σ)} {ending : Option Ending}
    {o : Outcome (Event R) σ (Option Response)}
    (he : Executed h cancellable r s turns ending o) :
    ∃ asked again final, calls o.events = inTurn asked again ++ final ∧
      Rounds 0 b r turns asked again ∧ asked.length ≤ again.length + 1 ∧
      Finale asked[again.length]? ending o.result final := by
  have hreset : ∀ {r' s' e x}, resetPolicy h r s = ⟨x, r', s', e⟩ → r' = r ∧ calls e = [] := by
    intro r' s' e x run
    exact ⟨kept_eq (fun _ hp => preserves_resetPolicy hp) hk run,
      filter_reset Event.isOwn_of_isTold Event.told_of_isStep run⟩
  cases he with
  | refused => exact ⟨[], [], [], rfl, .none, Nat.zero_le _, .between (by decide)⟩
  | unreset method reset =>
    obtain ⟨-, hquiet⟩ := hreset reset
    exact ⟨[], [], [], hquiet, .none, Nat.zero_le _, .between (by decide)⟩
  | run method reset course =>
    obtain ⟨rfl, hquiet⟩ := hreset reset
    obtain ⟨asked, again, final, hcalls, hrest⟩ := course.calls_eq hk hh hcallbacks hb
    refine ⟨asked, again, final, ?_, hrest⟩
    rw [Outcome.after_events, calls_append, hquiet, hcalls, List.nil_append]

/-- The calls of every run, with an integer budget and hooks that raise nothing: an attempt is
    told, and then its retry, in turn, each with its number, the budget that is left, and the
    request as it is then; and what comes last is decided by the result. -/
theorem execute_calls_in_turn (hk : h.Keep fun r => r) (hh : h.RaiseNothing) {r : Request}
    (hcallbacks : AllSet r.callbacks) {b : Nat} (hb : Funded b r) (cancellable : Bool)
    (limit : Nat) (s : σ) :
    ∃ turns ending o asked again final, execute h cancellable limit r s = o ∧
      Executed h cancellable r s turns ending o ∧
      calls o.events = inTurn asked again ++ final ∧ Rounds 0 b r turns asked again ∧
      CallsEnd ending o.result asked again final := by
  obtain ⟨turns, ending, hexecuted, -⟩ := executed h cancellable limit r s
  obtain ⟨asked, again, final, hcalls, hrounds, hlength, hfinale⟩ :=
    hexecuted.calls_eq hk hh hcallbacks hb
  refine ⟨turns, ending, _, asked, again, final, rfl, hexecuted, hcalls, hrounds, ?_⟩
  have hkept : (resetPolicy h r s).request = r :=
    kept_eq (fun _ hp => preserves_resetPolicy hp) hk rfl
  have hharmless : (resetPolicy h r s).request.callbacks.Harmless := by
    rw [hkept]
    exact hcallbacks.harmless
  exact hfinale.callsEnd hrounds.fewer hlength fun f hf => hexecuted.marked hh hharmless hf

/-- A failed exchange, a pause, a redirect and a success. -/
theorem execute_calls_in_turn_succeeding :
    let h : Hooks Rat Nat := Playback.hooks ⟨fun
        | 0 => .error (.raised "ConnectError" ⟨.exchange, ""⟩)
        | 1 => .ok ⟨503, "", [], []⟩
        | 2 => .ok ⟨302, "", [("Location", "http://b/")], []⟩
        | _ => .ok ⟨200, "", [], []⟩,
      fun _ _ => false, fun _ status => status == 503, fun _ => .whole 250⟩
    let r : Request := { Request.make "GET" (.text "http://a/") none Headers.empty with
      retries := .whole 3, retryOnFailure := .bool true, policy := .hook 0,
      callbacks := .hook ⟨some 0, some 1, some 2, some 3⟩ }
    (h.Keep fun r => r) ∧ h.RaiseNothing ∧ AllSet r.callbacks ∧ Funded 3 r ∧
      ((calls (execute h false 4 r 0).events).map fun
        | .requested info => ("requested", info.attempt)
        | .retried info => (info.reason.text, info.attempt)
        | .succeeded info => ("succeeded", info.attempt)
        | _ => ("failed", 0))
        = [("requested", 1), ("io_error", 2), ("requested", 2), ("backoff", 3),
          ("requested", 3), ("redirect", 4), ("requested", 4), ("succeeded", 4)] ∧
      ∃ turns ending o asked again final, execute h false 4 r 0 = o ∧
        Executed h false r 0 turns ending o ∧ calls o.events = inTurn asked again ++ final ∧
        Rounds 0 3 r turns asked again ∧ CallsEnd ending o.result asked again final := by
  intro h r
  have hk : h.Keep fun r => r := Playback.keep _
  have hh : h.RaiseNothing := Playback.returns _
  have hcallbacks : AllSet r.callbacks := ⟨0, 1, 2, 3, rfl⟩
  have hb : Funded 3 r := rfl
  obtain ⟨turns, ending, o, asked, again, final, hrun, hexecuted, hcalls, hrounds, hend⟩ :=
    execute_calls_in_turn hk hh hcallbacks hb false 4 0
  exact ⟨hk, hh, hcallbacks, hb, by decide +kernel, turns, ending, o, asked, again, final, hrun,
    hexecuted, hcalls, hrounds, hend⟩

end Redial.Engine
