import Redial.Proofs.ExactTimes
import Redial.Proofs.Tasks
import Redial.Proofs.Triggers
import Redial.Proofs.Widening

/-! # A task refines the plain execution

    A task runs an execution with a cancel event and gives its end to a future.  If the
    event is never set, it does what the plain execution does: it asks the surroundings
    the same things in the same order, leaves the same request, and its future holds what
    the plain execution returns or raises.  Only its pauses are waits for the event, which
    take the time that a sleep takes.

    The surroundings know nothing of the future, so a state of the plain execution and the
    same state with a running future are alike.  That the check of the event and the wait
    are invisible is said once, for the parts of the loop; the loop itself is compared by
    `alike_execute`. -/

namespace Redial

variable {R σ α : Type}

/-! ## Section 1: Surroundings that know nothing of a future -/

/-- A call that neither reads nor changes the future, and leaves calm states calm. -/
def Run.Aside (access : FutureAccess σ) (calm : σ → Prop) (x : Hook σ α) : Prop :=
  ∀ r s f, calm s → calm (x r s).state ∧
    x r (access.write f s)
      = ⟨(x r s).result, (x r s).request, access.write f (x r s).state, (x r s).events⟩

/-- Surroundings that know nothing of a future, and whose cancel event is never set: in all
    states that they can get to from a calm one, a wait for the event is a sleep, and the
    clock refuses the one for the same reason as the other. -/
structure Hooks.Aside [Arith R] (h : Hooks R σ) (access : FutureAccess σ) (calm : σ → Prop) :
    Prop where
  read_write : ∀ {s} f, calm s → access.read (access.write f s) = f
  write_write : ∀ {s} f g, calm s → access.write g (access.write f s) = access.write g s
  now : ∀ {s} f, calm s → h.now (access.write f s) = h.now s
  sleep : ∀ {s} span, calm s → calm (h.sleep span s)
  isCancelled : ∀ {s} f, calm s → h.isCancelled (access.write f s) = false
  checkPause : ∀ {s millis span} f, calm s → (Number.whole 0).le millis = true →
    Engine.seconds millis = .ok span →
    h.checkPause true span (access.write f s) = h.checkPause false span s
  wait : ∀ {s millis span} f, calm s → (Number.whole 0).le millis = true →
    Engine.seconds millis = .ok span →
    h.wait span (access.write f s) = (false, access.write f (h.sleep span s))
  writeSource : ∀ id, (h.writeSource id).Aside access calm
  announce : ∀ staged, (h.announce staged).Aside access calm
  exchange : ∀ staged body, (h.exchange staged body).Aside access calm
  resetPolicy : ∀ id, (h.resetPolicy id).Aside access calm
  isBackoffRequired : ∀ id status, (h.isBackoffRequired id status).Aside access calm
  nextBackoff : ∀ id, (h.nextBackoff id).Aside access calm
  handle : ∀ id response supportsRetry, (h.handle id response supportsRetry).Aside access calm
  onRequest : ∀ id info, (h.onRequest id info).Aside access calm
  onRetry : ∀ id info, (h.onRetry id info).Aside access calm
  onSuccess : ∀ id info, (h.onSuccess id info).Aside access calm
  onFailure : ∀ id info, (h.onFailure id info).Aside access calm

/-- Every pause that a policy answers refuses the pause, or is not negative. -/
def Hooks.PausesForward [Arith R] (h : Hooks R σ) : Prop :=
  ∀ policy millis, (h.nextBackoff policy).MayReturn millis →
    millis.eq Backoff.stop = true ∨ (Number.whole 0).le millis = true

/-- What a task reports in place of what the plain execution reports. -/
def Event.inTask : Event R → Event R
  | .slept span => .waited span
  | e => e

/-! ## Section 2: With and without the future -/

/-- A calm state is like the same state with a running future; a sleep is shown as a
    wait. -/
def taskLikeness (R : Type) (access : FutureAccess σ) (calm : σ → Prop) :
    Likeness R σ (Event R) where
  request := Eq
  state s₁ s₂ := calm s₁ ∧ s₂ = access.write .running s₁
  shown e := some e.inTask
  course h := .of_eq h
  spent left h := Request.spent_congr left h
  moved status target h := Request.redirected_congr status target h

variable {access : FutureAccess σ} {calm : σ → Prop}

theorem view_inTask (events : List (Event R)) :
    (taskLikeness R access calm).view events = events.map Event.inTask :=
  congrFun List.filterMap_eq_map events

/-- A call that knows nothing of the future makes no difference between the two. -/
theorem Run.Aside.alike_ofHook {x : Hook σ α} (hx : x.Aside access calm) :
    (taskLikeness R access calm).Alike .never Eq (Run.ofHook x) (Run.ofHook x) := by
  rintro r _ s _ rfl ⟨hs, rfl⟩
  obtain ⟨hcalm, hbeside⟩ := hx r s .running hs
  have hcall : (Run.ofHook x : Run (Event R) σ α) r (access.write .running s)
      = ⟨(x r s).result, (x r s).request, access.write .running (x r s).state,
          (x r s).events.map .ofNote⟩ := Run.ofHook_eq hbeside
  rw [hcall]
  exact .inl ⟨Likeness.Ends.same _, rfl, ⟨hcalm, rfl⟩, rfl⟩

namespace Hooks.Aside

variable [Arith R] {h : Hooks R σ}

theorem surroundings (hh : h.Aside access calm) :
    Hooks.Alike (taskLikeness R access calm) h h where
  log := .inl rfl
  now := by
    rintro s _ ⟨hs, rfl⟩
    exact (hh.now _ hs).symm
  decode := rfl
  supports := rfl
  transportName := rfl
  resetPolicy id := (hh.resetPolicy id).alike_ofHook
  isBackoffRequired id status := (hh.isBackoffRequired id status).alike_ofHook
  nextBackoff id := (hh.nextBackoff id).alike_ofHook
  handle id response supportsRetry := (hh.handle id response supportsRetry).alike_ofHook
  onRequest id info := (hh.onRequest id info).alike_ofHook
  onRetry id info := (hh.onRetry id info).alike_ofHook
  onSuccess id info := (hh.onSuccess id info).alike_ofHook
  onFailure id info := (hh.onFailure id info).alike_ofHook

/-- The check of an event that is never set does nothing. -/
theorem check (hh : h.Aside access calm) :
    (taskLikeness R access calm).Alike .never Eq (Engine.checkCancelled h false)
      (Engine.checkCancelled h true) := by
  rintro r _ s _ rfl ⟨hs, rfl⟩
  have hset : (true && h.isCancelled (access.write .running s)) = false :=
    hh.isCancelled .running hs
  rw [Engine.checkCancelled_clear (Bool.false_and _), Engine.checkCancelled_clear hset]
  exact .inl ⟨.ok rfl, rfl, ⟨hs, rfl⟩, rfl⟩

/-- A wait for an event that is never set passes as a sleep of the same length. -/
theorem pause (hh : h.Aside access calm) {millis : Number R}
    (hforward : (Number.whole 0).le millis = true) :
    (taskLikeness R access calm).Alike .never Eq (Engine.pause h false millis)
      (Engine.pause h true millis) := by
  rintro r _ s _ rfl ⟨hs, rfl⟩
  rcases hspan : (Engine.seconds millis : Except ArithFault R) with a | span
  · rw [Engine.pause_unmeasured hspan, Engine.pause_unmeasured hspan]
    exact .inl ⟨.error _, rfl, ⟨hs, rfl⟩, rfl⟩
  have hsame := hh.checkPause .running hs hforward hspan
  rcases hcheck : h.checkPause false span s with a | _ <;> rw [hcheck] at hsame
  · rw [Engine.pause_refused hspan hcheck, Engine.pause_refused hspan hsame]
    exact .inl ⟨.error _, rfl, ⟨hs, rfl⟩, rfl⟩
  -- the event is not set at the end of the wait, so nothing comes after it
  · rw [Engine.pause_apply ⟨hspan, hcheck⟩, Engine.pause_apply ⟨hspan, hsame⟩,
      hh.wait .running hs hforward hspan]
    refine .inl ⟨.ok rfl, rfl, ⟨hh.sleep span hs, rfl⟩, ?_⟩
    rw [view_inTask, view_inTask, List.map_append, List.map_append]
    rfl

theorem parts (hh : h.Aside access calm) (hforward : h.PausesForward) :
    Engine.PartsAlike (taskLikeness R access calm) .never Eq h h false true where
  surroundings := hh.surroundings
  check := hh.check
  pause policy millis hmillis hgo := by
    rcases hforward policy millis hmillis with hstop | hforward
    · rw [hgo] at hstop
      cases hstop
    · exact hh.pause hforward
  stage := by
    refine Engine.alike_stage ?_
    rintro r _ rfl
    exact ⟨rfl, rfl, rfl⟩
  transmit := by
    rintro staged _ rfl
    exact Engine.alike_transmitSame (fun id => (hh.writeSource id).alike_ofHook) rfl rfl
      (hh.announce staged).alike_ofHook fun body => (hh.exchange staged body).alike_ofHook

end Hooks.Aside

namespace Engine

variable [Arith R] {h : Hooks R σ}

/-! ## Section 3: Executions -/

/-- With a cancel event no question is answered by a sleep. -/
theorem Consult.sleepless (c : Consult R) (span : R) : .slept span ∉ c.events true := by
  intro hslept
  unfold Consult.events at hslept
  split at hslept
  · simp at hslept
  · simp at hslept
  · split at hslept <;> simp [pauseEvent] at hslept
  · cases hslept

/-- An execution with a cancel event never sleeps. -/
theorem execute_sleepless (limit : Nat) (r : Request) (s : σ) (span : R) :
    .slept span ∉ (execute h true limit r s).events := by
  obtain ⟨turns, ending, hexecuted, -⟩ := executed h true limit r s
  intro hslept
  -- a sleep would be a step, and the account of the execution lists its steps
  have hstep : Event.slept span ∈ steps (execute h true limit r s).events :=
    List.mem_filter.mpr ⟨hslept, rfl⟩
  rw [hexecuted.steps_eq] at hstep
  rcases List.mem_append.mp hstep with hreset | hturn
  · split at hreset
    · cases hreset
    · unfold resetEvents at hreset
      split at hreset <;> simp at hreset
  · obtain ⟨t, -, ht⟩ := List.mem_flatMap.mp hturn
    simp only [Turn.steps, List.mem_cons, reduceCtorEq, false_or, List.mem_flatMap] at ht
    obtain ⟨c, -, hc⟩ := ht
    exact c.sleepless span hc

/-- The execution of a task does what the plain execution does, with waits for sleeps. -/
theorem execute_inTask (hh : h.Aside access calm) (hforward : h.PausesForward) (limit : Nat)
    (r : Request) {s : σ} (hs : calm s) :
    calm (execute h false limit r s).state ∧
      execute h true limit r (access.write .running s) =
        ⟨(execute h false limit r s).result, (execute h false limit r s).request,
          access.write .running (execute h false limit r s).state,
          (execute h false limit r s).events.map Event.inTask⟩ := by
  have hstart : (taskLikeness R access calm).state s (access.write .running s) := ⟨hs, rfl⟩
  have hagree := (alike_execute (hh.parts hforward) limit).agree (Eq.refl r) hstart
  have hsleepless := execute_sleepless (h := h) limit r (access.write .running s)
  rcases hplain : execute h false limit r s with ⟨x, r', s', e⟩
  rcases htask : execute h true limit r (access.write .running s) with ⟨x₂, r₂, s₂, e₂⟩
  rw [hplain, htask] at hagree
  rw [htask] at hsleepless
  obtain ⟨hends, rfl, ⟨hcalm, rfl⟩, hevents⟩ := hagree
  obtain rfl := hends.eq
  rw [view_inTask, view_inTask] at hevents
  -- both runs are shown with waits for sleeps, and the task's own events are so already
  have hwaits : e₂.map Event.inTask = e₂ := by
    refine (List.map_congr_left fun e he => ?_).trans (List.map_id e₂)
    cases e with
    | slept span => exact absurd he (hsleepless span)
    | _ => rfl
  rw [hevents, hwaits]
  exact ⟨hcalm, rfl⟩

end Engine

/-! ## Section 4: Tasks -/

namespace Task

/-- What a started task leaves its future as, by what the execution came to: it holds the
    response or the fault, or is still running if the execution reached its limit. -/
def left : Except Fault (Option Response) → Future Response
  | .ok none => .running
  | .ok (some response) => .finished (.ok response)
  | .error f => .finished (.error f)

/-- What the runner sees of a started task: only a fault outside the ordinary kinds. -/
def seen : Except Fault (Option Response) → Except Fault Unit
  | .ok _ => .ok ()
  | .error f => if f.isAbort then .error f else .ok ()

variable [Arith R] {h : Hooks R σ}

theorem run_fresh (hh : h.Aside access calm) (execution : Run (Event R) σ (Option Response))
    (r : Request) {s : σ} (hs : calm s) :
    run h access execution r (access.write .pending s)
      = runStarted access execution r (access.write .running s) := by
  have hstart : (access.read (access.write .pending s)).start = .ok (true, .running) := by
    rw [hh.read_write .pending hs]
    rfl
  rw [run_started hstart, hh.write_write .pending .running hs]

/-- An execution that leaves its future running is given to it. -/
theorem runStarted_left (hh : h.Aside access calm)
    {execution : Run (Event R) σ (Option Response)} {x : Except Fault (Option Response)}
    {r r' : Request} {s s' : σ} {e : List (Event R)} (hs : calm s')
    (hrun : execution r s = ⟨x, r', access.write .running s', e⟩) :
    runStarted access execution r s = ⟨seen x, r', access.write (left x) s', e⟩ := by
  have hresolve : ∀ y, (access.read (access.write .running s')).resolve y
      = .ok (.finished y) := by
    intro y
    rw [hh.read_write .running hs]
    rfl
  match x with
  | .ok none => exact runStarted_unfinished hrun
  | .ok (some response) =>
    rw [runStarted_returned hrun (hresolve _), hh.write_write .running _ hs]
    rfl
  | .error f =>
    rw [runStarted_raised hrun (hresolve _), hh.write_write .running _ hs]
    rfl

/-- A task with a new future does what the plain execution does, and its future holds what
    the plain execution comes to. -/
theorem run_refines_execute (hh : h.Aside access calm) (hforward : h.PausesForward) (limit : Nat)
    (r : Request) {s : σ} (hs : calm s) :
    let plain := Engine.execute h false limit r s
    let task := run h access (Engine.execute h true limit) r (access.write .pending s)
    access.read task.state = left plain.result ∧
      task = ⟨seen plain.result, plain.request, access.write (left plain.result) plain.state,
        plain.events.map Event.inTask⟩ := by
  intro plain task
  obtain ⟨hcalm, hexecution⟩ := Engine.execute_inTask hh hforward limit r hs
  have htask : task = ⟨seen plain.result, plain.request,
      access.write (left plain.result) plain.state, plain.events.map Event.inTask⟩ :=
    (run_fresh hh _ r hs).trans (runStarted_left hh hcalm hexecution)
  refine ⟨?_, htask⟩
  rw [htask]
  exact hh.read_write _ hcalm

end Task

/-! ## Section 5: Surroundings beside a future -/

namespace Task

/-- A future that is kept beside the state of the surroundings. -/
def besideAccess (σ : Type) : FutureAccess (σ × Future Response) where
  read s := s.2
  write future s := (s.1, future)

theorem aside_beside (x : Hook σ α) :
    x.beside.Aside (besideAccess σ) fun _ => True := fun _ _ _ _ => ⟨trivial, rfl⟩

/-- Any surroundings whose cancel event is never set know nothing of a future that is kept
    beside them. -/
theorem hooks_aside [Arith R] {h : Hooks R σ} (never : ∀ s, h.isCancelled s = false)
    (clock : ∀ millis span s, (Number.whole 0).le millis = true →
      Engine.seconds millis = .ok span → h.checkPause true span s = h.checkPause false span s)
    (wait : ∀ millis span s, (Number.whole 0).le millis = true →
      Engine.seconds millis = .ok span → h.wait span s = (false, h.sleep span s)) :
    (h.beside (Future Response)).Aside (besideAccess σ) fun _ => True where
  read_write _ _ := rfl
  write_write _ _ _ := rfl
  now _ _ := rfl
  sleep _ _ := trivial
  isCancelled _ _ := never _
  checkPause _ _ hforward hspan := clock _ _ _ hforward hspan
  wait := by
    intro s millis span f _ hforward hspan
    show ((h.wait span s.1).1, (h.wait span s.1).2, f) = (false, h.sleep span s.1, f)
    rw [wait millis span s.1 hforward hspan]
  writeSource _ := aside_beside _
  announce _ := aside_beside _
  exchange _ _ := aside_beside _
  resetPolicy _ := aside_beside _
  isBackoffRequired _ _ := aside_beside _
  nextBackoff _ := aside_beside _
  handle _ _ _ := aside_beside _
  onRequest _ _ := aside_beside _
  onRetry _ _ := aside_beside _
  onSuccess _ _ := aside_beside _
  onFailure _ _ := aside_beside _

/-- A server that is busy once, and a policy that pauses for a quarter of a second. -/
theorem run_refines_execute_pausing :
    let h : Hooks Rat (Nat × Future Response) := (Playback.hooks
      ⟨fun k => .ok ⟨if k = 0 then 503 else 200, "", [], []⟩, fun _ _ => false,
        fun _ status => status == 503, fun _ => .whole 250⟩).beside (Future Response)
    let access := besideAccess Nat
    let r : Request := { Request.make "GET" (.text "http://a/") none Headers.empty with
      policy := .hook 0 }
    (h.Aside access fun _ => True) ∧ h.PausesForward ∧
      (steps (Engine.execute h false 11 r (0, .pending)).events).length = 6 ∧
      run h access (Engine.execute h true 11) r (access.write .pending (0, .pending))
        = ⟨seen (Engine.execute h false 11 r (0, .pending)).result,
          (Engine.execute h false 11 r (0, .pending)).request,
          access.write (left (Engine.execute h false 11 r (0, .pending)).result)
            (Engine.execute h false 11 r (0, .pending)).state,
          (Engine.execute h false 11 r (0, .pending)).events.map Event.inTask⟩ := by
  intro h access r
  -- the clock is that of a system, for which a wait is as good as a sleep
  have hh : h.Aside access fun _ => True := hooks_aside (fun _ => rfl)
    (fun _ _ _ hforward hspan =>
      Engine.systemCheck_forward (Engine.seconds_nonneg hforward hspan) false)
    fun _ _ _ _ _ => rfl
  have hforward : h.PausesForward := by
    rintro policy millis ⟨_, _, hmillis⟩
    cases hmillis
    have hle : (Number.whole 0 : Number Rat).le (.whole 250) = true := by decide
    exact .inr hle
  obtain ⟨-, htask⟩ := run_refines_execute hh hforward 11 r (s := (0, .pending)) trivial
  exact ⟨hh, hforward, by decide +kernel, htask⟩

end Task

end Redial
