import Redial.Proofs.Outcome
import Redial.Scenario.World

/-! # The steps of a future

    A future is cancelled and its task is invoked by whoever holds them, any number of
    times and in any order, from other threads and from inside the task.  What they do
    to the future are single steps: a cancellation sets the cancel event and then tries
    to cancel, an invocation starts the task and, if it is to run, executes the request
    and gives the future what the execution came to.  Between two of these steps any
    other step may happen.

    - `Step` are these steps, `Path` is an interleaving of them.  The label of a step
      says what was answered.
    - Every step keeps a situation `Sound`: an invocation is under way exactly while the
      future runs, and never two.
    - Three things no step takes back: that the task was started, that the future was
      cancelled, and the result. -/

namespace Redial

variable {R σ : Type}

/-! ## Section 1: Futures -/

namespace Future

variable {α : Type} {f g : Future α}

/-- Whether the task was started and ran. -/
def hasStarted : Future α → Bool
  | running | finished _ => true
  | _ => false

/-- Whether the future has a result of its task. -/
def isFinished : Future α → Bool
  | finished _ => true
  | _ => false

theorem isRunning_eq (hf : f.isRunning = true) : f = running := by
  cases f <;> first | rfl | cases hf

/-- A future can be cancelled as long as its task was not started. -/
theorem cancel_answer (f : Future α) : f.cancel.1 = !f.hasStarted := by
  cases f <;> rfl

theorem cancel_hasStarted (f : Future α) : f.cancel.2.hasStarted = f.hasStarted := by
  cases f <;> rfl

theorem cancel_isRunning (f : Future α) : f.cancel.2.isRunning = f.isRunning := by
  cases f <;> rfl

theorem cancel_isFinished (f : Future α) : f.cancel.2.isFinished = f.isFinished := by
  cases f <;> rfl

theorem cancel_isCancelled (f : Future α) (hf : f.hasStarted = false) :
    f.cancel.2.isCancelled = true := by
  cases f <;> first | rfl | cases hf

theorem not_started_of_cancelled (hf : f.isCancelled = true) : f.hasStarted = false := by
  cases f <;> first | rfl | cases hf

/-- A task that is to run was pending before. -/
theorem start_true (hstart : f.start = .ok (true, g)) : f = pending ∧ g = running := by
  cases f <;> cases hstart
  exact ⟨rfl, rfl⟩

/-- A task that is not to run was cancelled before. -/
theorem start_false (hstart : f.start = .ok (false, g)) : f = cancelled ∧ g = noticed := by
  cases f <;> cases hstart
  exact ⟨rfl, rfl⟩

theorem resolve_ok {x : Except Fault α} (hresolve : f.resolve x = .ok g) :
    (f = pending ∨ f = running) ∧ g = finished x := by
  cases f <;> cases hresolve
  · exact ⟨.inl rfl, rfl⟩
  · exact ⟨.inr rfl, rfl⟩

end Future

/-- Where a future and its cancel event are kept. -/
structure CancelAccess (σ : Type) extends FutureAccess σ where
  /-- Sets the cancel event. -/
  signal : σ → σ
  isSignalled : σ → Bool

/-- In the states that hold them, the future and the event are kept apart, and both are read as
    they were written. -/
structure CancelAccess.Lawful (a : CancelAccess σ) (held : σ → Prop) : Prop where
  read_write : ∀ {s} f, held s → a.read (a.write f s) = f
  read_signal : ∀ {s}, held s → a.read (a.signal s) = a.read s
  signalled_signal : ∀ {s}, held s → a.isSignalled (a.signal s) = true
  signalled_write : ∀ {s} f, a.isSignalled (a.write f s) = a.isSignalled s
  held_write : ∀ {s} f, held s → held (a.write f s)
  held_signal : ∀ {s}, held s → held (a.signal s)

namespace Task

/-! ## Section 2: Steps -/

/-- How far an invocation of the task is that called the execution. -/
inductive Phase where
  | executing
  /-- The execution came to this, and the future is not given it yet. -/
  | ended (x : Except Fault Response)

def Phase.isEnded : Phase → Bool
  | executing => false
  | ended _ => true

/-- A request with its surroundings, and all that is under way. -/
structure Situation (σ : Type) where
  request : Request
  state : σ
  /-- How many cancellations have set the event and have not tried to cancel yet. -/
  calls : Nat
  /-- The invocations that have called the execution and have not given a result yet. -/
  active : List Phase

/-- The labels of the steps. -/
inductive Act where
  /-- A cancellation sets the event. -/
  | signal
  /-- A cancellation tries to cancel, and returns this. -/
  | cancel (answer : Bool)
  /-- An invocation is refused. -/
  | refused (f : Fault)
  /-- An invocation finds the future cancelled, and does nothing. -/
  | skipped
  /-- An invocation calls the execution. -/
  | executes
  /-- The execution changes the request and the surroundings. -/
  | works
  /-- The execution comes to an end. -/
  | ends (x : Except Fault Response)
  /-- The future is given what the execution came to. -/
  | resolves (x : Except Fault Response)
  /-- The future does not take what the execution came to. -/
  | rejected (f : Fault)

namespace Act

/-- An invocation of the task begins. -/
def isInvocation : Act → Bool
  | refused _ | skipped | executes => true
  | _ => false

def isExecutes : Act → Bool
  | executes => true
  | _ => false

def isEnds : Act → Bool
  | ends _ => true
  | _ => false

def isResolves : Act → Bool
  | resolves _ => true
  | _ => false

end Act

/-- What can happen next.  The execution may do anything to the request and the surroundings; to
    the future and its event it does, like everyone else, what is listed here. -/
inductive Step (a : CancelAccess σ) (held : σ → Prop) :
    Situation σ → Act → Situation σ → Prop where
  | signal (c : Situation σ) :
      Step a held c .signal { c with state := a.signal c.state, calls := c.calls + 1 }
  | cancel {c : Situation σ} {n : Nat} (call : c.calls = n + 1) :
      Step a held c (.cancel (a.read c.state).cancel.1)
        { c with state := a.write (a.read c.state).cancel.2 c.state, calls := n }
  | refused {c : Situation σ} {f : Fault} (start : (a.read c.state).start = .error f) :
      Step a held c (.refused f) c
  | skipped {c : Situation σ} {future : Future Response}
      (start : (a.read c.state).start = .ok (false, future)) :
      Step a held c .skipped { c with state := a.write future c.state }
  | executes {c : Situation σ} {future : Future Response}
      (start : (a.read c.state).start = .ok (true, future)) :
      Step a held c .executes
        { c with state := a.write future c.state, active := c.active ++ [.executing] }
  | works {c : Situation σ} (active : .executing ∈ c.active) (r : Request) {s : σ}
      (inside : held s) (future : a.read s = a.read c.state)
      (event : a.isSignalled c.state = true → a.isSignalled s = true) :
      Step a held c .works { c with request := r, state := s }
  | ends {c : Situation σ} {before after : List Phase}
      (active : c.active = before ++ .executing :: after) (x : Except Fault Response) :
      Step a held c (.ends x) { c with active := before ++ .ended x :: after }
  | resolves {c : Situation σ} {before after : List Phase} {x : Except Fault Response}
      {future : Future Response} (active : c.active = before ++ .ended x :: after)
      (resolve : (a.read c.state).resolve x = .ok future) :
      Step a held c (.resolves x)
        { c with state := a.write future c.state, active := before ++ after }
  | rejected {c : Situation σ} {before after : List Phase} {x : Except Fault Response} {f : Fault}
      (active : c.active = before ++ .ended x :: after)
      (resolve : (a.read c.state).resolve x = .error f) :
      Step a held c (.rejected f) { c with active := before ++ after }

/-- An interleaving of steps. -/
inductive Path (a : CancelAccess σ) (held : σ → Prop) :
    Situation σ → List Act → Situation σ → Prop where
  | nil (c : Situation σ) : Path a held c [] c
  | cons {c c' c'' : Situation σ} {act : Act} {acts : List Act} (step : Step a held c act c')
      (rest : Path a held c' acts c'') : Path a held c (act :: acts) c''

variable {a : CancelAccess σ} {held : σ → Prop} {c c' c'' : Situation σ} {act : Act}
  {acts : List Act}

theorem Path.append {more : List Act} (hp : Path a held c acts c')
    (hq : Path a held c' more c'') : Path a held c (acts ++ more) c'' := by
  induction hp with
  | nil => exact hq
  | cons step _ ih => exact .cons step (ih hq)

theorem Path.split {before after : List Act} (hp : Path a held c (before ++ after) c'') :
    ∃ m, Path a held c before m ∧ Path a held m after c'' := by
  induction before generalizing c with
  | nil => exact ⟨c, .nil c, hp⟩
  | cons act before ih =>
    cases hp with
    | cons step rest =>
      obtain ⟨m, hfirst, hlast⟩ := ih rest
      exact ⟨m, .cons step hfirst, hlast⟩

/-! ## Section 3: What every step keeps -/

/-- A future and nothing under way. -/
structure Situation.Fresh (a : CancelAccess σ) (held : σ → Prop) (c : Situation σ) : Prop where
  inside : held c.state
  future : a.read c.state = .pending
  calls : c.calls = 0
  active : c.active = []

/-- The invariant: one invocation is under way while the future runs, and else none; and who is
    about to cancel has set the event. -/
structure Situation.Sound (a : CancelAccess σ) (held : σ → Prop) (c : Situation σ) : Prop where
  inside : held c.state
  active : c.active.length = (a.read c.state).isRunning.toNat
  event : 0 < c.calls → a.isSignalled c.state = true

theorem Situation.Fresh.sound (hc : c.Fresh a held) : c.Sound a held where
  inside := hc.inside
  active := by rw [hc.active, hc.future]; rfl
  event hcalls := absurd hc.calls (Nat.ne_of_gt hcalls)

/-- An invocation that is under way belongs to a future that runs. -/
theorem Situation.Sound.running (hc : c.Sound a held) {p : Phase} (hp : p ∈ c.active) :
    a.read c.state = .running ∧ c.active = [p] := by
  have hlength := hc.active
  have hpos : 0 < c.active.length := List.length_pos_of_mem hp
  cases hrunning : (a.read c.state).isRunning with
  | false =>
    rw [hrunning, Bool.toNat_false] at hlength
    omega
  | true =>
    rw [hrunning, Bool.toNat_true] at hlength
    obtain ⟨q, hq⟩ := List.length_eq_one_iff.mp hlength
    rw [hq, List.mem_singleton] at hp
    exact ⟨Future.isRunning_eq hrunning, by rw [hq, hp]⟩

/-- Before the task is started nothing is under way. -/
theorem Situation.Sound.idle (hc : c.Sound a held) (hidle : (a.read c.state).hasStarted = false) :
    c.active = [] := by
  cases hactive : c.active with
  | nil => rfl
  | cons p rest =>
    have hmem : p ∈ c.active := by rw [hactive]; exact List.mem_cons_self
    rw [(hc.running hmem).1] at hidle
    cases hidle

/-- Every step keeps the invariant. -/
theorem Step.sound (ha : a.Lawful held) (hc : c.Sound a held) (hs : Step a held c act c') :
    c'.Sound a held := by
  have hinside := hc.inside
  have hactive := hc.active
  cases hs with
  | signal =>
    refine ⟨ha.held_signal hinside, ?_, fun _ => ha.signalled_signal hinside⟩
    show c.active.length = (a.read (a.signal c.state)).isRunning.toNat
    rwa [ha.read_signal hinside]
  | cancel call =>
    refine ⟨ha.held_write _ hinside, ?_, fun _ => ?_⟩
    · show c.active.length = (a.read (a.write _ c.state)).isRunning.toNat
      rwa [ha.read_write _ hinside, Future.cancel_isRunning]
    · show a.isSignalled (a.write _ c.state) = true
      rw [ha.signalled_write]
      exact hc.event (by omega)
  | refused => exact hc
  | skipped start =>
    obtain ⟨hbefore, rfl⟩ := Future.start_false start
    refine ⟨ha.held_write _ hinside, ?_, fun hcalls => ?_⟩
    · show c.active.length = (a.read (a.write _ c.state)).isRunning.toNat
      rw [ha.read_write _ hinside, hactive, hbefore]
      rfl
    · exact (ha.signalled_write _).trans (hc.event hcalls)
  | executes start =>
    obtain ⟨hbefore, rfl⟩ := Future.start_true start
    refine ⟨ha.held_write _ hinside, ?_, fun hcalls => ?_⟩
    · show (c.active ++ [Phase.executing]).length = (a.read (a.write _ c.state)).isRunning.toNat
      rw [ha.read_write _ hinside, List.length_append, hactive, hbefore]
      rfl
    · exact (ha.signalled_write _).trans (hc.event hcalls)
  | works active r inside future event =>
    refine ⟨inside, ?_, fun hcalls => event (hc.event hcalls)⟩
    show c.active.length = (a.read _).isRunning.toNat
    rwa [future]
  | @ends before after active x =>
    -- one phase takes the place of another
    have hlength : (before ++ Phase.ended x :: after).length = c.active.length := by
      rw [active]
      simp only [List.length_append, List.length_cons]
    exact ⟨hinside, hlength.trans hactive, hc.event⟩
  | @resolves before after x future active resolve =>
    -- it is the only one, so that nothing is under way any more
    have hmem : Phase.ended x ∈ c.active := by rw [active]; simp
    obtain ⟨-, hsingle⟩ := hc.running hmem
    obtain ⟨-, rfl⟩ := Future.resolve_ok resolve
    refine ⟨ha.held_write _ hinside, ?_, fun hcalls => ?_⟩
    · show (before ++ after).length = (a.read (a.write _ c.state)).isRunning.toNat
      have hlength := congrArg List.length (active.symm.trans hsingle)
      rw [ha.read_write _ hinside]
      simp only [List.length_append, List.length_cons, List.length_nil] at hlength ⊢
      show before.length + after.length = 0
      omega
    · exact (ha.signalled_write _).trans (hc.event hcalls)
  | @rejected before after x f active resolve =>
    -- the future of an execution that has ended still runs, and takes any result
    have hmem : Phase.ended x ∈ c.active := by rw [active]; simp
    rw [(hc.running hmem).1] at resolve
    cases resolve

theorem Path.sound (ha : a.Lawful held) (hc : c.Sound a held) (hp : Path a held c acts c') :
    c'.Sound a held := by
  induction hp with
  | nil => exact hc
  | cons step _ ih => exact ih (step.sound ha hc)

/-! ## Section 4: What becomes of the future -/

/-- A step that does nothing to the future. -/
def Act.leavesFuture : Act → Bool
  | .signal | .refused _ | .works | .ends _ => true
  | _ => false

/-- All that a step does to the future. -/
inductive Moves : Future Response → Act → Future Response → Prop where
  | keep (f : Future Response) {act : Act} (leaves : act.leavesFuture = true) : Moves f act f
  | cancel (f : Future Response) : Moves f (.cancel f.cancel.1) f.cancel.2
  | notice : Moves .cancelled .skipped .noticed
  | start : Moves .pending .executes .running
  | finish (x : Except Fault Response) : Moves .running (.resolves x) (.finished x)

theorem Step.moves (ha : a.Lawful held) (hc : c.Sound a held) (hs : Step a held c act c') :
    Moves (a.read c.state) act (a.read c'.state) := by
  have hinside := hc.inside
  cases hs with
  | signal =>
    show Moves _ _ (a.read (a.signal c.state))
    rw [ha.read_signal hinside]
    exact .keep _ rfl
  | cancel =>
    show Moves _ _ (a.read (a.write _ c.state))
    rw [ha.read_write _ hinside]
    exact .cancel _
  | refused => exact .keep _ rfl
  | skipped start =>
    obtain ⟨hbefore, rfl⟩ := Future.start_false start
    show Moves _ _ (a.read (a.write _ c.state))
    rw [ha.read_write _ hinside, hbefore]
    exact .notice
  | executes start =>
    obtain ⟨hbefore, rfl⟩ := Future.start_true start
    show Moves _ _ (a.read (a.write _ c.state))
    rw [ha.read_write _ hinside, hbefore]
    exact .start
  | works active r inside future event =>
    show Moves _ _ (a.read _)
    rw [future]
    exact .keep _ rfl
  | ends => exact .keep _ rfl
  | @resolves before after x future active resolve =>
    have hmem : Phase.ended x ∈ c.active := by rw [active]; simp
    obtain ⟨-, rfl⟩ := Future.resolve_ok resolve
    show Moves _ _ (a.read (a.write _ c.state))
    rw [ha.read_write _ hinside, (hc.running hmem).1]
    exact .finish x
  | @rejected before after x f active resolve =>
    have hmem : Phase.ended x ∈ c.active := by rw [active]; simp
    rw [(hc.running hmem).1] at resolve
    cases resolve

section moves

variable {f g : Future Response}

theorem Moves.started (hm : Moves f act g) :
    g.hasStarted.toNat = f.hasStarted.toNat + act.isExecutes.toNat := by
  cases hm with
  | keep _ leaves => cases act <;> first | rfl | cases leaves
  | cancel => rw [Future.cancel_hasStarted]; rfl
  | notice | start | finish => rfl

theorem Moves.finished (hm : Moves f act g) :
    g.isFinished.toNat = f.isFinished.toNat + act.isResolves.toNat := by
  cases hm with
  | keep _ leaves => cases act <;> first | rfl | cases leaves
  | cancel => rw [Future.cancel_isFinished]; rfl
  | notice | start | finish => rfl

theorem Moves.answer {answer : Bool} (hm : Moves f (.cancel answer) g) :
    answer = !f.hasStarted ∧ (f.hasStarted = false → g.isCancelled = true) := by
  cases hm with
  | keep _ leaves => cases leaves
  | cancel => exact ⟨Future.cancel_answer f, Future.cancel_isCancelled f⟩

/-- A cancelled future stays cancelled. -/
theorem Moves.cancelled (hm : Moves f act g) (hf : f.isCancelled = true) :
    g.isCancelled = true := by
  cases hm with
  | keep => exact hf
  | cancel => cases f <;> first | rfl | cases hf
  | notice => rfl
  | start | finish => cases hf

/-- A future that is done stays done, with the same result. -/
theorem Moves.done (hm : Moves f act g) (hf : f.isDone = true) :
    g.isDone = true ∧ g.result = f.result := by
  cases hm with
  | keep => exact ⟨hf, rfl⟩
  | cancel => cases f <;> first | exact ⟨rfl, rfl⟩ | cases hf
  | notice => exact ⟨rfl, rfl⟩
  | start | finish => cases hf

end moves

/-- The future takes every result that it is given. -/
theorem Step.not_rejected (ha : a.Lawful held) (hc : c.Sound a held) (f : Fault) :
    ¬ Step a held c (.rejected f) c' := by
  intro hs
  have hmoves := hs.moves ha hc
  generalize a.read c.state = future at hmoves
  generalize a.read c'.state = future' at hmoves
  cases hmoves with
  | keep _ leaves => cases leaves

/-- An execution that has ended has given its result, or is about to. -/
theorem Step.ended (ha : a.Lawful held) (hc : c.Sound a held) (hs : Step a held c act c') :
    c'.active.countP Phase.isEnded + (a.read c'.state).isFinished.toNat
      = c.active.countP Phase.isEnded + (a.read c.state).isFinished.toNat + act.isEnds.toNat := by
  have hfinished := (hs.moves ha hc).finished
  cases hs with
  | signal | cancel | refused | skipped | works =>
    show c.active.countP Phase.isEnded + _ = _
    rw [hfinished]
    rfl
  | executes =>
    show (c.active ++ [Phase.executing]).countP Phase.isEnded + _ = _
    rw [hfinished, List.countP_append]
    rfl
  | @ends before after active x =>
    have hexecuting : ¬ Phase.executing.isEnded = true := Bool.false_ne_true
    show (before ++ Phase.ended x :: after).countP Phase.isEnded + _ = _
    rw [hfinished, active, List.countP_append, List.countP_append,
      List.countP_cons_of_pos rfl, List.countP_cons_of_neg hexecuting]
    simp only [Act.isEnds, Act.isResolves, Bool.toNat_true, Bool.toNat_false]
    omega
  | @resolves before after x future active resolve =>
    show (before ++ after).countP Phase.isEnded + _ = _
    rw [hfinished, active, List.countP_append, List.countP_append, List.countP_cons_of_pos rfl]
    simp only [Act.isEnds, Act.isResolves, Bool.toNat_true, Bool.toNat_false]
    omega
  | rejected active resolve =>
    exact absurd (.rejected active resolve) (Step.not_rejected ha hc _)

/-- The event stays set. -/
theorem Step.signalled (ha : a.Lawful held) (hc : c.Sound a held) (hs : Step a held c act c')
    (hevent : a.isSignalled c.state = true) : a.isSignalled c'.state = true := by
  cases hs with
  | signal => exact ha.signalled_signal hc.inside
  | cancel | skipped | executes | resolves => exact (ha.signalled_write _).trans hevent
  | refused | ends | rejected => exact hevent
  | works active r inside future event => exact event hevent

end Task

end Redial
