import Redial.Proofs.FutureProtocol
import Redial.Proofs.Likeness.Travel
import Redial.Scenario.Surroundings

/-! # Tasks take the steps of the protocol

    An invocation of the task is a path of the protocol of its future, whatever it
    executes, as long as the execution does nothing to the future and its event but
    what the protocol allows.  An execution of the engine keeps to that if the calls
    into its surroundings do, and a callback that cancels the future does.

    So what is true of every path is true of every order of cancellations and
    invocations. -/

namespace Redial

variable {R σ : Type}

/-! ## Section 1: What happens inside a running task -/

namespace CancelAccess

/-- Cancels the future: sets its event, and then tries to cancel it. -/
def cancel (a : CancelAccess σ) (s : σ) : Bool × σ :=
  let s := a.signal s
  ((a.read s).cancel.1, a.write (a.read s).cancel.2 s)

end CancelAccess

namespace Task

variable {a : CancelAccess σ} {held : σ → Prop} {c c' : Situation σ} {acts : List Act}

/-- A cancellation is two steps. -/
theorem cancel_path (c : Situation σ) :
    Path a held c [.signal, .cancel (a.cancel c.state).1]
      { c with state := (a.cancel c.state).2 } := by
  refine .cons (.signal c) (.cons ?_ (.nil _))
  exact Step.cancel (c := { c with state := a.signal c.state, calls := c.calls + 1 }) rfl

/-- Steps of the protocol lead from one state to the other while an execution is under way. -/
def Within (a : CancelAccess σ) (held : σ → Prop) (s s' : σ) : Prop :=
  ∀ c : Situation σ, c.Sound a held → c.state = s → c.active = [.executing] →
    ∀ r, ∃ acts, Path a held c acts { c with request := r, state := s' }

/-- Whatever leaves the future alone and the event set is within. -/
theorem within_works {s s' : σ} (inside : held s → held s') (future : a.read s' = a.read s)
    (event : a.isSignalled s = true → a.isSignalled s' = true) : Within a held s s' := by
  rintro c hc rfl hactive r
  have hmem : Phase.executing ∈ c.active := by rw [hactive]; exact List.mem_cons_self
  exact ⟨[.works], .cons (.works hmem r (inside hc.inside) future event) (.nil _)⟩

theorem within_chains (ha : a.Lawful held) : Chains (Within a held) where
  refl s := within_works id rfl id
  trans := by
    rintro s s' s'' hfirst hsecond c hc rfl hactive r
    obtain ⟨acts, hp⟩ := hfirst c hc rfl hactive r
    obtain ⟨more, hq⟩ := hsecond _ (hp.sound ha hc) rfl hactive r
    exact ⟨acts ++ more, hp.append hq⟩

/-- A cancellation from inside a running task is within. -/
theorem within_cancel (ha : a.Lawful held) (s : σ) : Within a held s (a.cancel s).2 := by
  rintro c hc rfl hactive r
  have hp : Path a held c _ _ := cancel_path c
  obtain ⟨more, hq⟩ := (within_chains ha).refl _ _ (hp.sound ha hc) rfl hactive r
  exact ⟨_, hp.append hq⟩

/-! ## Section 2: Invocations -/

section invocation

variable {h : Hooks R σ} {access : FutureAccess σ}
  {execution : Run (Event R) σ (Option Response)} {r r' : Request} {s s' : σ}
  {events : List (Event R)}

theorem run_refused {f : Fault} (hstart : (access.read s).start = .error f) :
    run h access execution r s = ⟨.error f, r, s, []⟩ := by
  unfold run
  rw [Run.state_bind, hstart]
  rfl

theorem run_skipped {future : Future Response}
    (hstart : (access.read s).start = .ok (false, future)) :
    ∃ events, run h access execution r s = ⟨.ok (), r, access.write future s, events⟩ := by
  unfold run
  rw [Run.state_bind, hstart, Run.lift_ok, pure_bind]
  simp only [Run.setState_bind, Bool.false_eq_true, if_false, Run.request_bind]
  exact ⟨_, Run.ofHook_eq (Run.log_apply _ _ _ _ _)⟩

theorem run_started {future : Future Response}
    (hstart : (access.read s).start = .ok (true, future)) :
    run h access execution r s = runStarted access execution r (access.write future s) := by
  unfold run
  rw [Run.state_bind, hstart, Run.lift_ok, pure_bind]
  rfl

theorem resolve_eq {x : Except Fault Response} {future : Future Response}
    (hresolve : (access.read s).resolve x = .ok future) :
    (resolve access x : Run (Event R) σ Unit) r s = ⟨.ok (), r, access.write future s, []⟩ := by
  unfold resolve
  rw [Run.state_bind, hresolve]
  rfl

theorem runStarted_unfinished (hrun : execution r s = ⟨.ok none, r', s', events⟩) :
    runStarted access execution r s = ⟨.ok (), r', s', events⟩ := by
  unfold runStarted
  rw [Run.bind_ok (Run.capture_ok hrun)]
  simp

theorem runStarted_returned {response : Response} {future : Future Response}
    (hrun : execution r s = ⟨.ok (some response), r', s', events⟩)
    (hresolve : (access.read s').resolve (.ok response) = .ok future) :
    runStarted access execution r s = ⟨.ok (), r', access.write future s', events⟩ := by
  unfold runStarted
  rw [Run.bind_ok (Run.capture_ok hrun)]
  simp only [resolve_eq hresolve, Outcome.after_mk, List.append_nil]

theorem runStarted_raised {f : Fault} {future : Future Response}
    (hrun : execution r s = ⟨.error f, r', s', events⟩)
    (hresolve : (access.read s').resolve (.error f) = .ok future) :
    runStarted access execution r s
      = ⟨if f.isAbort then .error f else .ok (), r', access.write future s', events⟩ := by
  unfold runStarted
  rw [Run.bind_ok (Run.capture_error hrun)]
  dsimp only
  rw [Run.bind_ok (resolve_eq hresolve)]
  cases f.isAbort <;> simp

end invocation

/-- The steps of one invocation, of which the execution comes to `x`; what of it is still under
    way; and what the runner sees of it. -/
inductive Invocation (x : Except Fault (Option Response)) :
    List Act → List Phase → Except Fault Unit → Prop where
  | refused (f : Fault) : Invocation x [.refused f] [] (.error f)
  | skipped : Invocation x [.skipped] [] (.ok ())
  /-- The execution has reached its limit, and would go on. -/
  | unfinished (inner : List Act) (answer : x = .ok none) :
      Invocation x (.executes :: inner) [.executing] (.ok ())
  | returned (inner : List Act) {response : Response} (answer : x = .ok (some response)) :
      Invocation x (.executes :: (inner ++ [.ends (.ok response), .resolves (.ok response)])) []
        (.ok ())
  /-- A fault outside the ordinary kinds is passed on to the runner, too. -/
  | raised (inner : List Act) {f : Fault} (answer : x = .error f) :
      Invocation x (.executes :: (inner ++ [.ends (.error f), .resolves (.error f)])) []
        (if f.isAbort then .error f else .ok ())

/-- An invocation with this outcome is a path of the protocol. -/
def Invoked (a : CancelAccess σ) (held : σ → Prop) (c : Situation σ)
    (execution : Run (Event R) σ (Option Response)) (o : Outcome (Event R) σ Unit) : Prop :=
  ∃ acts left, Path a held c acts ⟨o.request, o.state, c.calls, c.active ++ left⟩ ∧
    Invocation (execution c.request (a.write .running c.state)).result acts left o.result

/-- An execution that has ended gives its result. -/
theorem resolves_path (hc : c.Sound a held) (hactive : c.active = [.executing])
    (x : Except Fault Response) :
    (a.read c.state).resolve x = .ok (.finished x) ∧
      Path a held c [.ends x, .resolves x]
        { c with state := a.write (.finished x) c.state, active := [] } := by
  have hmem : Phase.executing ∈ c.active := by rw [hactive]; exact List.mem_cons_self
  have hresolve : (a.read c.state).resolve x = .ok (.finished x) := by
    rw [(hc.running hmem).1]
    rfl
  have hends : Step a held c (.ends x) { c with active := [.ended x] } :=
    @Step.ends _ _ _ _ [] [] hactive x
  have hresolves : Step a held { c with active := [.ended x] } (.resolves x)
      { c with state := a.write (.finished x) c.state, active := [] } :=
    @Step.resolves _ _ _ _ [] [] _ _ rfl hresolve
  exact ⟨hresolve, .cons hends (.cons hresolves (.nil _))⟩

/-- An invocation takes steps of the protocol, whatever it executes. -/
theorem run_path (ha : a.Lawful held) (hc : c.Sound a held) (h : Hooks R σ)
    {execution : Run (Event R) σ (Option Response)} (hgoes : execution.Goes (Within a held)) :
    Invoked a held c execution (run h a.toFutureAccess execution c.request c.state) := by
  unfold Invoked
  cases hstart : (a.read c.state).start with
  | error f =>
    rw [run_refused hstart]
    refine ⟨[.refused f], [], ?_, .refused f⟩
    rw [List.append_nil]
    exact .cons (.refused hstart) (.nil c)
  | ok answer =>
    obtain ⟨started, future⟩ := answer
    cases started with
    | false =>
      have hskipped : ∃ events, run h a.toFutureAccess execution c.request c.state
          = ⟨.ok (), c.request, a.write future c.state, events⟩ := run_skipped hstart
      obtain ⟨events, hrun⟩ := hskipped
      rw [hrun]
      refine ⟨[.skipped], [], ?_, .skipped⟩
      rw [List.append_nil]
      exact .cons (.skipped hstart) (.nil _)
    | true =>
      obtain ⟨hbefore, rfl⟩ := Future.start_true hstart
      have hidle : c.active = [] := hc.idle (by rw [hbefore]; rfl)
      -- the task is started, and the execution takes its own steps from there
      have hexecutes : Step a held c .executes _ := .executes hstart
      have hc₁ := hexecutes.sound ha hc
      have hactive : c.active ++ [Phase.executing] = [.executing] := by rw [hidle]; rfl
      rw [run_started hstart]
      have hinner := hgoes c.request (a.write .running c.state) _ hc₁ rfl hactive
        (execution c.request (a.write .running c.state)).request
      obtain ⟨inner, hinner⟩ := hinner
      have hc₂ := hinner.sound ha hc₁
      rcases hrun : execution c.request (a.write .running c.state) with ⟨x, r', s', events⟩
      rw [hrun] at hinner hc₂
      rcases x with f | answer
      · obtain ⟨hresolve, hends⟩ := resolves_path hc₂ hactive (.error f)
        rw [runStarted_raised hrun hresolve, hidle]
        exact ⟨_, [], .cons hexecutes (hinner.append hends), .raised inner rfl⟩
      · cases answer with
        | none =>
          rw [runStarted_unfinished hrun]
          exact ⟨_, [.executing], .cons hexecutes hinner, .unfinished inner rfl⟩
        | some response =>
          obtain ⟨hresolve, hends⟩ := resolves_path hc₂ hactive (.ok response)
          rw [runStarted_returned hrun hresolve, hidle]
          exact ⟨_, [], .cons hexecutes (hinner.append hends), .returned inner rfl⟩

end Task

/-! ## Section 3: The futures of scripted surroundings -/

namespace Scenario.World

/-- Where a future with this cancel event is kept. -/
def cancelAccess (id signal : Nat) : CancelAccess World where
  toFutureAccess := futureAccess id
  signal w := w.setSignal signal
  isSignalled w := w.signalIsSet signal

/-- The future is there, and so is its event. -/
structure Holds (id signal : Nat) (w : World) : Prop where
  future : ∃ f, w.futures[id]? = some f
  signal : signal < w.signals.length

theorem signalIsSet_setSignal {w : World} {signal : Nat} (hsignal : signal < w.signals.length) :
    (w.setSignal signal).signalIsSet signal = true := by
  simp [signalIsSet, setSignal, List.getElem?_modify_eq, List.getElem?_eq_getElem hsignal]

theorem cancelAccess_lawful (id signal : Nat) :
    (cancelAccess id signal).Lawful (Holds id signal) where
  read_write := by
    rintro w future ⟨⟨f, hf⟩, -⟩
    simp [cancelAccess, futureAccess, List.getElem?_modify_eq, hf]
  read_signal _ := rfl
  signalled_signal hw := signalIsSet_setSignal hw.signal
  signalled_write _ := rfl
  held_write := by
    rintro w future ⟨⟨f, hf⟩, hsignal⟩
    refine ⟨⟨{ f with future := future }, ?_⟩, hsignal⟩
    simp [cancelAccess, futureAccess, List.getElem?_modify_eq, hf]
  held_signal := by
    rintro w ⟨hfuture, hsignal⟩
    refine ⟨hfuture, ?_⟩
    simpa [cancelAccess, setSignal] using hsignal

/-- A new future is fresh. -/
theorem addFuture_fresh (w : World) (spec : SignalSpec) (r : Request) :
    Task.Situation.Fresh (cancelAccess w.futures.length w.signals.length)
      (Holds w.futures.length w.signals.length) ⟨r, (w.addFuture spec).2, 0, []⟩ where
  inside := ⟨⟨_, List.getElem?_concat_length⟩, by simp [addFuture, addSignal]⟩
  future := by simp [cancelAccess, futureAccess, addFuture, addSignal]
  calls := rfl
  active := rfl

end Scenario.World

/-! ## Section 4: The protocol of a task -/

namespace Task

variable {a : CancelAccess σ} {held : σ → Prop} {c c' : Situation σ} {acts : List Act}

/-- A new future, after cancellations and invocations of its task in any order.  What they keep
    is `Kept`.  What comes next is a path again, be it an invocation or a cancellation.  An
    invocation may execute whatever keeps to the protocol.  An execution of the engine does so if
    all calls into its surroundings do, and a call that cancels the future is one of these. -/
theorem protocol_kept [Arith R] (ha : a.Lawful held) (hc : c.Fresh a held)
    (hp : Path a held c acts c') :
    Kept a held c acts c' ∧
    (∀ (h : Hooks R σ) (execution : Run (Event R) σ (Option Response)),
      execution.Goes (Within a held) →
        Invoked a held c' execution (run h a.toFutureAccess execution c'.request c'.state)) ∧
    (∀ (h : Hooks R σ) cancellable limit, h.Go (Within a held) →
      (Engine.execute h cancellable limit).Goes (Within a held)) ∧
    (∀ s, Within a held s (a.cancel s).2) ∧
    Path a held c' [.signal, .cancel (a.cancel c'.state).1]
      { c' with state := (a.cancel c'.state).2 } := by
  have hsound : c'.Sound a held := hp.sound ha hc.sound
  have hchains : Chains (Within a held) := within_chains ha
  refine ⟨hp.kept ha hc, ?_, ?_, within_cancel ha, cancel_path c'⟩
  · intro h execution hgoes
    exact run_path ha hsound h hgoes
  · intro h cancellable limit hh
    exact Engine.goes_execute hchains hh cancellable limit

/-- A task whose future is cancelled while it runs, and that is invoked again afterwards; and one
    that cancels its own future and then raises a fault outside the ordinary kinds. -/
theorem protocol_kept_cancelled_inside :
    let a := Scenario.World.cancelAccess 0 0
    let held := Scenario.World.Holds 0 0
    let r := Request.make "GET" (.text "http://a/") none Headers.empty
    let c : Situation Scenario.World :=
      ⟨r, ((Scenario.World.initial 0).addFuture ⟨false, none⟩).2, 0, []⟩
    let x : Except Fault Response := .error (.cancelled "GET" (.text "http://a/"))
    let acts : List Act :=
      [.executes, .signal, .cancel false, .ends x, .resolves x, .refused .unexpectedState]
    let h := Scenario.surroundings false ⟨.scripted, [], none, false⟩ (some 0)
    let cancelling : Run (Event Float) Scenario.World (Option Response) :=
      fun r w => ⟨.error (.raised "KeyboardInterrupt" ⟨.abort, "stop"⟩), r, (a.cancel w).2, []⟩
    a.Lawful held ∧ c.Fresh a held ∧
      (∃ c', Path a held c acts c' ∧ Kept a held c acts c' ∧ a.read c'.state = .finished x) ∧
      cancelling.Goes (Within a held) ∧
      Invoked a held c cancelling (run h a.toFutureAccess cancelling c.request c.state) := by
  intro a held r c x acts h cancelling
  have ha : a.Lawful held := Scenario.World.cancelAccess_lawful 0 0
  have hc : c.Fresh a held := Scenario.World.addFuture_fresh (.initial 0) ⟨false, none⟩ r
  let running : Situation Scenario.World :=
    { c with state := a.write .running c.state, active := [.executing] }
  let told : Situation Scenario.World := { running with state := (a.cancel running.state).2 }
  let done : Situation Scenario.World :=
    { told with state := a.write (.finished x) told.state, active := [] }
  have hstart : Path a held c [.executes] running := .cons (.executes rfl) (.nil _)
  have hcancel : Path a held running [.signal, .cancel false] told := cancel_path running
  have htold : told.Sound a held := (hstart.append hcancel).sound ha hc.sound
  have hends : Path a held told [.ends x, .resolves x] done := (resolves_path htold rfl x).2
  have hagain : Path a held done [.refused .unexpectedState] done :=
    .cons (.refused rfl) (.nil done)
  have hp : Path a held c acts done := ((hstart.append hcancel).append hends).append hagain
  have hkept := (protocol_kept (R := Float) ha hc hp).1
  have hgoes : cancelling.Goes (Within a held) := fun _ w => within_cancel ha w
  have hinvoked := (protocol_kept ha hc (.nil c)).2.1 h cancelling hgoes
  exact ⟨ha, hc, ⟨done, hp, hkept, rfl⟩, hgoes, hinvoked⟩

end Task

end Redial
