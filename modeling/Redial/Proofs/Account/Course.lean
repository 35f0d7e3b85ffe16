import Redial.Engine.Execution
import Redial.Proofs.Account.Reports

/-! # The course of a run

    A run is a sequence of attempts: all but the last lead to another one, and the
    last has an ending.  `Course` relates a run to the accounts of the attempts
    that were sent and to its ending; no ending means that the run was cut off by its
    limit.  `executed` says that every execution takes such a course, and
    `Executed.own_events` that the engine reports what the accounts say, in order,
    and nothing else. -/

namespace Redial.Engine

variable {R σ : Type} [Arith R] {h : Hooks R σ} {cancellable : Bool} {callbacks : Slot Callbacks}
  {start : R}

/-! ## Section 1: Courses -/

/-- How the attempts go after `n` others. -/
inductive Course (h : Hooks R σ) (cancellable : Bool) (callbacks : Slot Callbacks) (start : R) :
    Nat → Request → σ → List (Turn R σ) → Option Ending →
    Outcome (Event R) σ (Option Response) → Prop where
  | cut (n : Nat) (r : Request) (s : σ) :
      Course h cancellable callbacks start n r s [] none ⟨.ok none, r, s, []⟩
  | last {n : Nat} {r : Request} {s : σ} {t : Option (Turn R σ)} {ending : Ending}
      {o : Outcome (Event R) σ (Option Response)}
      (attempt : Attempted h cancellable callbacks start n r s t (some ending) o) :
      Course h cancellable callbacks start n r s t.toList (some ending) o
  | again {n : Nat} {r r' : Request} {s s' : σ} {t : Turn R σ} {e : List (Event R)}
      {turns : List (Turn R σ)} {ending : Option Ending}
      {o : Outcome (Event R) σ (Option Response)}
      (attempt : Attempted h cancellable callbacks start n r s (some t) none
        ⟨.ok none, r', s', e⟩)
      (rest : Course h cancellable callbacks start (n + 1) r' s' turns ending o) :
      Course h cancellable callbacks start n r s (t :: turns) ending (o.after e)

/-- An attempt that leads to another one was sent, and answers nothing. -/
theorem Attempted.again {n : Nat} {r : Request} {s : σ} {t : Option (Turn R σ)}
    {o : Outcome (Event R) σ (Option Response)}
    (ha : Attempted h cancellable callbacks start n r s t none o) :
    (∃ turn, t = some turn) ∧ o.result = .ok none := by
  cases ha with
  | taken clear opened run₁ run₂ settled closed =>
    cases closed with
    | retried => exact ⟨⟨_, rfl⟩, rfl⟩

/-- An attempt that ends a run answers a response or a fault. -/
theorem Attempted.over {n : Nat} {r : Request} {s : σ} {t : Option (Turn R σ)} {ending : Ending}
    {o : Outcome (Event R) σ (Option Response)}
    (ha : Attempted h cancellable callbacks start n r s t (some ending) o) :
    o.result ≠ .ok none := by
  cases ha with
  | cancelled | unsent | broken => exact nofun
  | taken clear opened run₁ run₂ settled closed =>
    cases closed <;> exact nofun

/-- Every run of attempts takes a course, which has no ending only if the limit was
    reached. -/
theorem courses (h : Hooks R σ) (cancellable : Bool) (callbacks : Slot Callbacks) (start : R)
    (limit n : Nat) (r : Request) (s : σ) :
    ∃ turns ending, Course h cancellable callbacks start n r s turns ending
        (attempts h cancellable callbacks start limit n r s) ∧
      (ending = none → turns.length = limit) := by
  -- the limit is one less for every attempt that leads to another one
  induction limit generalizing n r s with
  | zero => exact ⟨[], none, .cut n r s, fun _ => rfl⟩
  | succ limit ih =>
    unfold attempts
    obtain ⟨t, ending, ha⟩ := attempted h cancellable callbacks start n r s
    rcases hrun : attempt h cancellable callbacks start n r s with ⟨f | answer, r', s', e⟩ <;>
      rw [hrun] at ha
    · rw [Run.bind_error hrun]
      cases ending with
      | none => exact absurd ha.again.2 nofun
      | some ending => exact ⟨_, _, .last ha, nofun⟩
    · rw [Run.bind_ok hrun]
      cases ending with
      | none =>
        obtain ⟨⟨turn, rfl⟩, hnone⟩ := ha.again
        cases hnone
        obtain ⟨turns, ending, hcourse, hlimit⟩ := ih (n + 1) r' s'
        exact ⟨turn :: turns, ending, .again ha hcourse, fun hend => by simp [hlimit hend]⟩
      | some ending =>
        cases answer with
        | none => exact absurd rfl ha.over
        | some response =>
          simp only [Run.pure_apply, Outcome.after_mk, List.append_nil]
          exact ⟨_, _, .last ha, nofun⟩

/-- Every account of a course is that of an attempt; it was retried, or it is the last
    one and ended the run. -/
theorem Course.attempted_of_mem {n : Nat} {r : Request} {s : σ} {turns : List (Turn R σ)}
    {ending : Option Ending} {o : Outcome (Event R) σ (Option Response)}
    (hc : Course h cancellable callbacks start n r s turns ending o) {t : Turn R σ}
    (ht : t ∈ turns) :
    ∃ k r' s' e o', Attempted h cancellable callbacks start k r' s' (some t) e o' ∧
      (e = none ∨ e = ending ∧ turns.getLast? = some t ∧ ∃ earlier, o = o'.after earlier) := by
  induction hc with
  | cut => exact absurd ht List.not_mem_nil
  | last attempt =>
    rw [Option.mem_toList] at ht
    subst ht
    exact ⟨_, _, _, _, _, attempt, .inr ⟨rfl, rfl, [], (Outcome.after_nil _).symm⟩⟩
  | again attempt rest ih =>
    rcases List.mem_cons.mp ht with rfl | hrest
    · exact ⟨_, _, _, _, _, attempt, .inl rfl⟩
    · obtain ⟨k, r', s', e, o', hattempted, hturn⟩ := ih hrest
      refine ⟨k, r', s', e, o', hattempted, hturn.imp_right ?_⟩
      rintro ⟨hending, hlast, earlier, rfl⟩
      refine ⟨hending, ?_, _, Outcome.after_after _ _ _⟩
      rw [List.getLast?_cons, hlast]
      rfl

/-- A run answers nothing exactly if it was cut off by its limit. -/
theorem Course.over {n : Nat} {r : Request} {s : σ} {turns : List (Turn R σ)}
    {ending : Option Ending} {o : Outcome (Event R) σ (Option Response)}
    (hc : Course h cancellable callbacks start n r s turns ending o) :
    o.result = .ok none ↔ ending = none := by
  induction hc with
  | cut => exact iff_of_true rfl rfl
  | last attempt => exact iff_of_false attempt.over nofun
  | again attempt rest ih => exact ih

/-- A run of attempts has checked the method. -/
theorem Course.not_refused {n : Nat} {r : Request} {s : σ} {turns : List (Turn R σ)}
    {ending : Option Ending} {o : Outcome (Event R) σ (Option Response)}
    (hc : Course h cancellable callbacks start n r s turns ending o) : ending ≠ some .refused := by
  induction hc with
  | cut => exact nofun
  | last attempt =>
    cases attempt with
    | cancelled | unsent | broken => exact nofun
    | taken _ _ _ _ _ closed => cases closed <;> exact nofun
  | again attempt rest ih => exact ih

/-- A run that ended by itself is the same under every higher limit. -/
theorem attempts_mono {limit limit' : Nat} (hle : limit ≤ limit') {n : Nat} {r : Request} {s : σ}
    (hover : (attempts h cancellable callbacks start limit n r s).result ≠ .ok none) :
    attempts h cancellable callbacks start limit' n r s
      = attempts h cancellable callbacks start limit n r s := by
  -- both runs make the same attempt first, and it decides whether they go on
  induction limit generalizing limit' n r s with
  | zero => exact absurd rfl hover
  | succ limit ih =>
    obtain ⟨limit', rfl⟩ : ∃ k, limit' = k + 1 := ⟨limit' - 1, by omega⟩
    unfold attempts at hover ⊢
    rcases hrun : attempt h cancellable callbacks start n r s with ⟨f | answer, r', s', e⟩
    · rw [Run.bind_error hrun, Run.bind_error hrun]
    · rw [Run.bind_ok hrun] at hover
      rw [Run.bind_ok hrun, Run.bind_ok hrun]
      cases answer with
      | some response => rfl
      | none =>
        have hrest := ih (Nat.le_of_succ_le_succ hle) hover
        exact congrArg (Outcome.after e) hrest

/-! ## Section 2: Executions -/

omit [Arith R] in
/-- The check of the method looks at the request alone. -/
theorem checkMethod_uniform (h : Hooks R σ) (r : Request) :
    ∃ x, ∀ s, checkMethod h r s = ⟨x, r, s, []⟩ := by
  unfold checkMethod
  simp only [Run.request_bind]
  cases knownMethods.contains r.method with
  | false => exact ⟨_, fun _ => rfl⟩
  | true =>
    cases optionalMethods.contains r.method with
    | false => exact ⟨_, fun _ => rfl⟩
    | true =>
      obtain ⟨x, hx⟩ := checkTransport_apply (R := R) (σ := σ) "supports_method" r
      cases x with
      | error f => exact ⟨.error f, fun s => Run.bind_error (hx s)⟩
      | ok _ =>
        have hrest : ∃ x, ∀ s, (if !h.supports r.method then
            Run.throw (.unsupportedMethod r.method h.transportName) else pure () :
              Run (Event R) σ Unit) r s = ⟨x, r, s, []⟩ := by
          cases h.supports r.method <;> exact ⟨_, fun _ => rfl⟩
        obtain ⟨y, hy⟩ := hrest
        exact ⟨y, fun s => (Run.bind_ok (hx s)).trans (by rw [hy]; rfl)⟩

omit [Arith R] in
/-- The check of the method changes and reports nothing. -/
theorem checkMethod_apply (h : Hooks R σ) (r : Request) (s : σ) :
    ∃ x, checkMethod h r s = ⟨x, r, s, []⟩ := by
  obtain ⟨x, hx⟩ := checkMethod_uniform h r
  exact ⟨x, hx s⟩

/-- What the engine reports when it resets the policy of a request. -/
def resetEvents (r : Request) : List (Event R) :=
  match r.policy with
  | .hook _ => [.policyReset]
  | _ => []

omit [Arith R] in
theorem resetPolicy_own_events (h : Hooks R σ) (r : Request) (s : σ) :
    own (resetPolicy h r s).events = resetEvents r := by
  unfold resetPolicy resetEvents
  rw [Run.request_bind]
  match r.policy with
  | .empty => rfl
  | .other v => rfl
  | .hook policy =>
    show own ((Run.emit .policyReset >>= fun _ => Run.ofHook (h.resetPolicy policy)) r s).events
      = [.policyReset]
    rw [Run.emit_bind, Outcome.after_events, own_append, own_ofHook]
    rfl

omit [Arith R] in
theorem resetPolicy_own {r r' : Request} {s s' : σ} {a : Except Fault Unit}
    {e : List (Event R)} (reset : resetPolicy h r s = ⟨a, r', s', e⟩) : own e = resetEvents r := by
  have hevents := resetPolicy_own_events h r s
  rwa [reset] at hevents

section reset

omit [Arith R]

theorem sent_resetEvents (r : Request) : sent (resetEvents r : List (Event R)) = [] := by
  unfold resetEvents
  split <;> rfl

theorem failures_resetEvents (r : Request) : failures (resetEvents r : List (Event R)) = [] := by
  unfold resetEvents
  split <;> rfl

theorem steps_resetEvents (r : Request) :
    steps (resetEvents r : List (Event R)) = resetEvents r := by
  unfold resetEvents
  split <;> rfl

/-- Apart from its step the reset of the policy reports nothing. -/
theorem filter_reset {p : Event R → Bool} (hp : ∀ e, p e = true → e.isOwn = true)
    (hstep : ∀ e, e.isStep = true → p e = false) {r r' : Request} {s s' : σ}
    {a : Except Fault Unit} {e : List (Event R)} (reset : resetPolicy h r s = ⟨a, r', s', e⟩) :
    e.filter p = [] := by
  rw [← filter_own hp, resetPolicy_own reset, ← steps_resetEvents, List.filter_eq_nil_iff]
  intro e he
  rw [hstep e (List.mem_filter.mp he).2]
  exact Bool.false_ne_true

end reset

/-- How an execution goes: the method is checked, the policy reset, and attempts are
    made. -/
inductive Executed (h : Hooks R σ) (cancellable : Bool) (r : Request) (s : σ) :
    List (Turn R σ) → Option Ending → Outcome (Event R) σ (Option Response) → Prop where
  | refused {f : Fault} (method : checkMethod h r s = ⟨.error f, r, s, []⟩) :
      Executed h cancellable r s [] (some .refused) ⟨.error f, r, s, []⟩
  | unreset {f : Fault} {r' : Request} {s' : σ} {e : List (Event R)}
      (method : checkMethod h r s = ⟨.ok (), r, s, []⟩)
      (reset : resetPolicy h r s = ⟨.error f, r', s', e⟩) :
      Executed h cancellable r s [] (some .unreset) ⟨.error f, r', s', e⟩
  | run {r' : Request} {s' : σ} {e : List (Event R)} {turns : List (Turn R σ)}
      {ending : Option Ending} {o : Outcome (Event R) σ (Option Response)}
      (method : checkMethod h r s = ⟨.ok (), r, s, []⟩)
      (reset : resetPolicy h r s = ⟨.ok (), r', s', e⟩)
      (course : Course h cancellable r'.callbacks (h.now s') 0 r' s' turns ending o) :
      Executed h cancellable r s turns ending (o.after e)

/-- Every execution goes this way; it has no ending only if its limit was reached. -/
theorem executed (h : Hooks R σ) (cancellable : Bool) (limit : Nat) (r : Request) (s : σ) :
    ∃ turns ending, Executed h cancellable r s turns ending (execute h cancellable limit r s) ∧
      (ending = none → turns.length = limit) := by
  unfold execute
  obtain ⟨x, hmethod⟩ := checkMethod_apply h r s
  cases x with
  | error f =>
    rw [Run.bind_error hmethod]
    exact ⟨_, _, .refused hmethod, nofun⟩
  | ok _ =>
    rw [Run.bind_ok hmethod, Outcome.after_nil]
    rcases hreset : resetPolicy h r s with ⟨f | _, r', s', e⟩
    · rw [Run.bind_error hreset]
      exact ⟨_, _, .unreset hmethod hreset, nofun⟩
    · rw [Run.bind_ok hreset, Run.request_bind, Run.state_bind]
      obtain ⟨turns, ending, hcourse, hlimit⟩ :=
        courses h cancellable r'.callbacks (h.now s') limit 0 r' s'
      exact ⟨turns, ending, .run hmethod hreset hcourse, hlimit⟩

theorem Executed.attempted_of_mem {r : Request} {s : σ} {turns : List (Turn R σ)}
    {ending : Option Ending} {o : Outcome (Event R) σ (Option Response)}
    (he : Executed h cancellable r s turns ending o) {t : Turn R σ} (ht : t ∈ turns) :
    ∃ callbacks start k r' s' e o',
      Attempted h cancellable callbacks start k r' s' (some t) e o' ∧
      (e = none ∨ e = ending ∧ turns.getLast? = some t ∧ ∃ earlier, o = o'.after earlier) := by
  cases he with
  | refused | unreset => exact absurd ht List.not_mem_nil
  | run _ _ course =>
    obtain ⟨k, r', s', e, o', hattempted, hturn⟩ := course.attempted_of_mem ht
    refine ⟨_, _, k, r', s', e, o', hattempted, hturn.imp_right ?_⟩
    rintro ⟨hending, hlast, earlier, rfl⟩
    exact ⟨hending, hlast, _, Outcome.after_after _ _ _⟩

/-- Every transmission of an execution is staged from the request that its attempt began
    with. -/
theorem Executed.staged_of_mem {r : Request} {s : σ} {turns : List (Turn R σ)}
    {ending : Option Ending} {o : Outcome (Event R) σ (Option Response)}
    (he : Executed h cancellable r s turns ending o) {t : Turn R σ} (ht : t ∈ turns) :
    t.staged = stagedOf h.debug t.opened := by
  obtain ⟨callbacks, start, k, r', s', e, o', hattempted, -⟩ := he.attempted_of_mem ht
  obtain ⟨-, hopened, -, hstaged⟩ := hattempted.opens
  rw [hopened, hstaged]

/-- An execution answers nothing exactly if it was cut off by its limit. -/
theorem Executed.over {r : Request} {s : σ} {turns : List (Turn R σ)} {ending : Option Ending}
    {o : Outcome (Event R) σ (Option Response)}
    (he : Executed h cancellable r s turns ending o) : o.result = .ok none ↔ ending = none := by
  cases he with
  | refused | unreset => exact iff_of_false nofun nofun
  | run _ _ course => exact course.over

/-- An execution that ended by itself is the same under every higher limit. -/
theorem execute_mono {limit limit' : Nat} (hle : limit ≤ limit') {r : Request} {s : σ}
    (hover : (execute h cancellable limit r s).result ≠ .ok none) :
    execute h cancellable limit' r s = execute h cancellable limit r s := by
  obtain ⟨x, hmethod⟩ := checkMethod_apply h r s
  unfold execute at hover ⊢
  cases x with
  | error f => rw [Run.bind_error hmethod, Run.bind_error hmethod]
  | ok _ =>
    rw [Run.bind_ok hmethod] at hover
    rw [Run.bind_ok hmethod, Run.bind_ok hmethod]
    rcases hreset : resetPolicy h r s with ⟨f | _, r', s', e⟩
    · rw [Run.bind_error hreset, Run.bind_error hreset]
    · rw [Run.bind_ok hreset, Run.request_bind, Run.state_bind] at hover
      rw [Run.bind_ok hreset, Run.bind_ok hreset, Run.request_bind, Run.state_bind,
        Run.request_bind, Run.state_bind, attempts_mono hle hover]

/-! ## Section 3: What a run answers -/

/-- What a run that ends in this way answers. -/
def Ending.Answers : Ending → Except Fault (Option Response) → Prop
  | .succeeded, x | .returned, x => ∃ response, x = .ok (some response)
  | .rejected, x => ∃ error, x = .error (.response error)
  | .lost, x => ∃ f, f.isExchange = true ∧ x = .error f
  | .cancelled, x => ∃ method target, x = .error (.cancelled method target)
  | .cancelledPausing, x => x = .error .cancelledWaiting
  | _, x => ∃ f, x = .error f

theorem Attempted.answers {n : Nat} {r : Request} {s : σ} {t : Option (Turn R σ)}
    {ending : Ending} {o : Outcome (Event R) σ (Option Response)}
    (ha : Attempted h cancellable callbacks start n r s t (some ending) o) :
    ending.Answers o.result := by
  cases ha with
  | cancelled => exact ⟨_, _, rfl⟩
  | unsent => exact ⟨_, rfl⟩
  | broken => exact ⟨_, rfl⟩
  | taken clear opened run₁ run₂ settled closed =>
    cases closed with
    | cancelledPausing => rfl
    | lost answer =>
      rw [answer] at run₂
      exact ⟨_, exchange_failed run₂, rfl⟩
    | halted | overdrawn | unretried | undescribed => exact ⟨_, rfl⟩
    | lostUntold | succeededUntold | rejectedUntold => exact ⟨_, rfl⟩
    | succeeded | returned | rejected => exact ⟨_, rfl⟩

theorem Course.answers {n : Nat} {r : Request} {s : σ} {turns : List (Turn R σ)}
    {ending : Option Ending} {o : Outcome (Event R) σ (Option Response)}
    (hc : Course h cancellable callbacks start n r s turns ending o) :
    ∀ e, ending = some e → e.Answers o.result := by
  induction hc with
  | cut => exact nofun
  | last attempt =>
    rintro e ⟨⟩
    exact attempt.answers
  | again attempt rest ih => exact ih

theorem Executed.answers {r : Request} {s : σ} {turns : List (Turn R σ)} {ending : Ending}
    {o : Outcome (Event R) σ (Option Response)}
    (he : Executed h cancellable r s turns (some ending) o) : ending.Answers o.result := by
  cases he with
  | refused => exact ⟨_, rfl⟩
  | unreset => exact ⟨_, rfl⟩
  | run _ _ course => exact course.answers ending rfl

/-! ## Section 4: What a run reports -/

/-- What the engine reports of the attempts that were sent, after `n` others. -/
def reported (debug cancellable : Bool) (callbacks : Slot Callbacks) :
    Nat → List (Turn R σ) → List (Event R)
  | _, [] => []
  | n, t :: turns =>
    t.events debug cancellable callbacks n ++ reported debug cancellable callbacks (n + 1) turns

/-- The attempts of a course report what their accounts say; an attempt that was not
    sent can only add that it was staged. -/
theorem Course.own_events {n : Nat} {r : Request} {s : σ} {turns : List (Turn R σ)}
    {ending : Option Ending} {o : Outcome (Event R) σ (Option Response)}
    (hc : Course h cancellable callbacks start n r s turns ending o) :
    ∃ tail, own o.events = reported h.debug cancellable callbacks n turns ++ tail ∧
      (tail = [] ∨ ending = some .unsent ∧
        ∃ r', tail = openingEvents h.debug callbacks (n + turns.length) r') := by
  induction hc with
  | cut n r s => exact ⟨[], rfl, .inl rfl⟩
  | @last n r s t ending o attempt =>
    cases t with
    | some t => exact ⟨[], by simp [reported, attempt.own_events_sent], .inl rfl⟩
    | none =>
      rcases attempt.own_events_unsent with hnil | hopening
      · exact ⟨[], hnil, .inl rfl⟩
      · cases attempt with
        | cancelled => cases hopening
        | unsent clear run => exact ⟨_, hopening, .inr ⟨rfl, r, rfl⟩⟩
  | @again n r r' s s' t e turns ending o attempt rest ih =>
    obtain ⟨tail, hrest, htail⟩ := ih
    have hfirst : own e = _ := attempt.own_events_sent
    refine ⟨tail, ?_, ?_⟩
    · rw [Outcome.after_events, own_append, hfirst, hrest, reported, List.append_assoc]
    -- the attempts of the rest are counted from one more
    · have hn : n + (t :: turns).length = n + 1 + turns.length := by
        rw [List.length_cons]
        omega
      rwa [hn]

/-- What the engine reports of an execution. -/
theorem Executed.own_events {r : Request} {s : σ} {turns : List (Turn R σ)}
    {ending : Option Ending} {o : Outcome (Event R) σ (Option Response)}
    (he : Executed h cancellable r s turns ending o) :
    ending = some .refused ∧ own o.events = [] ∨
    ∃ callbacks tail, ending ≠ some .refused ∧
      own o.events = resetEvents r ++ reported h.debug cancellable callbacks 0 turns ++ tail ∧
      (tail = [] ∨ ending = some .unsent ∧
        ∃ r', tail = openingEvents h.debug callbacks turns.length r') := by
  cases he with
  | refused => exact .inl ⟨rfl, rfl⟩
  | unreset method reset =>
    exact .inr ⟨.empty, [], nofun, by simp [resetPolicy_own reset, reported], .inl rfl⟩
  | run method reset course =>
    have hreset := resetPolicy_own reset
    obtain ⟨tail, hown, htail⟩ := course.own_events
    rw [Nat.zero_add] at htail
    refine .inr ⟨_, tail, course.not_refused, ?_, htail⟩
    rw [Outcome.after_events, own_append, hreset, hown, List.append_assoc]

/-- A run hands to the transport what the accounts say, each once and in order. -/
theorem Course.sent_eq {n : Nat} {r : Request} {s : σ} {turns : List (Turn R σ)}
    {ending : Option Ending} {o : Outcome (Event R) σ (Option Response)}
    (hc : Course h cancellable callbacks start n r s turns ending o) :
    sent o.events = turns.map Turn.staged := by
  induction hc with
  | cut => rfl
  | last attempt => exact attempt.sent_eq
  | again attempt rest ih =>
    rw [Outcome.after_events, sent_append, ih]
    exact congrArg (· ++ _) attempt.sent_eq

theorem Executed.sent_eq {r : Request} {s : σ} {turns : List (Turn R σ)}
    {ending : Option Ending} {o : Outcome (Event R) σ (Option Response)}
    (he : Executed h cancellable r s turns ending o) :
    sent o.events = turns.map Turn.staged := by
  cases he with
  | refused => rfl
  | unreset method reset =>
    show sent _ = []
    rw [← sent_own, resetPolicy_own reset, sent_resetEvents]
  | @run _ _ e _ _ _ method reset course =>
    have hreset : sent e = [] := by rw [← sent_own, resetPolicy_own reset, sent_resetEvents]
    rw [Outcome.after_events, sent_append, course.sent_eq, hreset, List.nil_append]

/-- The steps of a run are those of its attempts, in order. -/
theorem Course.steps_eq {n : Nat} {r : Request} {s : σ} {turns : List (Turn R σ)}
    {ending : Option Ending} {o : Outcome (Event R) σ (Option Response)}
    (hc : Course h cancellable callbacks start n r s turns ending o) :
    steps o.events = turns.flatMap (Turn.steps cancellable) := by
  induction hc with
  | cut => rfl
  | last attempt => exact attempt.steps_eq
  | again attempt rest ih =>
    have hfirst := attempt.steps_eq
    rw [Option.toList_some, List.flatMap_singleton] at hfirst
    rw [Outcome.after_events, steps_append, ih, List.flatMap_cons]
    exact congrArg (· ++ _) hfirst

/-- The steps of an execution: the policy is reset once, after the method was checked and
    before anything is sent. -/
theorem Executed.steps_eq {r : Request} {s : σ} {turns : List (Turn R σ)}
    {ending : Option Ending} {o : Outcome (Event R) σ (Option Response)}
    (he : Executed h cancellable r s turns ending o) :
    steps o.events = (if ending = some .refused then [] else resetEvents r)
      ++ turns.flatMap (Turn.steps cancellable) := by
  cases he with
  | refused => rfl
  | unreset method reset =>
    rw [if_neg nofun, List.flatMap_nil, List.append_nil]
    show steps _ = _
    rw [← steps_own, resetPolicy_own reset, steps_resetEvents]
  | @run _ _ e _ _ _ method reset course =>
    have hreset : steps e = resetEvents r := by
      rw [← steps_own, resetPolicy_own reset, steps_resetEvents]
    rw [if_neg course.not_refused, Outcome.after_events, steps_append, course.steps_eq, hreset]

end Redial.Engine
