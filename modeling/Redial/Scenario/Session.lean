import Redial.Scenario.Surroundings

/-! # Sessions

    A session drives one request through a list of steps: executions, tasks that are
    submitted to runners, questions to their futures, and actions on the request.  The
    request and the state of the surroundings are carried from step to step, also past a
    fault. -/

namespace Redial.Scenario

/-! ## Section 1: Steps and replies -/

/-- What becomes of a submitted task. -/
inductive Runner where
  /-- The task is queued and run by a later step. -/
  | manual
  /-- The task is run at once. -/
  | sync
  /-- The task is handed to a pool, which runs it at once. -/
  | pool
  /-- The task is refused. -/
  | closed
  deriving DecidableEq

/-- One step of a session. -/
inductive Step where
  | execute
  /-- Submits a task, perhaps with an executor of the caller's. -/
  | submit (runner : Runner) (custom : Bool)
  /-- Runs a queued task. -/
  | run (index : Int)
  /-- Cancels a future. -/
  | cancel (index : Int)
  /-- Asks a future for its state. -/
  | state (index : Int)
  /-- Asks a future for its result. -/
  | result (index : Int)
  /-- Asks a future for the fault it ended with. -/
  | failure (index : Int)
  /-- Executes beside an event loop, without a cancel event. -/
  | loop (custom : Bool)
  /-- Starts the script of the transport again. -/
  | rewind
  | shutdown
  | act (a : Action)

/-- What a step answers. -/
inductive Reply where
  | done
  | response (r : Response)
  | count (n : Nat)
  | flag (b : Bool)
  /-- Whether a future is done, is running and was cancelled, and whether its event is set. -/
  | state (isDone isRunning isCancelled isSet : Bool)
  | failure (f : Option Fault)
  /-- An execution reached its limit. -/
  | unfinished

/-- What does not change during a session. -/
structure Setup where
  debug : Bool
  transport : TransportSpec
  /-- The cancel event that every future starts with. -/
  fresh : SignalSpec
  /-- The cancel event of direct executions. -/
  signal : Option Nat

/-- No more attempts than this are made in one execution. -/
def attemptLimit : Nat := Nat.pow 2 62

namespace Setup

/-! ## Section 2: Executions -/

/-- One execution; one of the caller's reports itself first. -/
def execution (u : Setup) (custom : Bool) (signal : Option Nat) :
    Run (Event Float) World (Option Response) := do
  if custom then Run.emit (.seen (.executed signal.isSome))
  Engine.execute (surroundings u.debug u.transport signal) signal.isSome attemptLimit

/-- The reply of an execution. -/
def reply : Option Response → Reply
  | some response => .response response
  | none => .unfinished

/-- The task that serves a future. -/
def task (u : Setup) (t : QueuedTask) : Run (Event Float) World Unit := do
  let w ← Run.state
  let signal := (w.futures[t.future]?).map FutureState.signal
  Task.run (surroundings u.debug u.transport signal) (World.futureAccess t.future)
    (u.execution t.custom signal)

/-- Hands a task to a runner. -/
def hand (u : Setup) (t : QueuedTask) : Runner → Run (Event Float) World Unit
  | .manual => do
    let w ← Run.state
    Run.setState { w with queue := w.queue ++ [t] }
  | .sync => u.task t
  | .pool => do
    Run.emit (.seen (.submitted 0))
    u.task t
  | .closed => Run.throw .runnerClosed

/-- Submits a task.  Its future is handed out only if the runner takes the task without a
    fault. -/
def submit (u : Setup) (runner : Runner) (custom : Bool) : Run (Event Float) World Reply := do
  let w ← Run.state
  -- the future exists before its task is handed over, so that a task that runs at once finds it
  let (id, w) := w.addFuture u.fresh
  Run.setState w
  u.hand ⟨id, custom⟩ runner
  let w ← Run.state
  Run.setState { w with handed := w.handed ++ [id] }
  return .count w.queue.length

/-- Runs a queued task. -/
def runQueued (u : Setup) (index : Int) : Run (Event Float) World Reply := do
  let w ← Run.state
  match itemAt? w.queue index with
  | none => Run.throw .noSuchIndex
  | some t =>
    u.task t
    return .done

/-! ## Section 3: Sessions -/

/-- Takes a step. -/
def step (u : Setup) : Step → Run (Event Float) World Reply
  | .execute => do
    let response ← u.execution false u.signal
    return reply response
  | .submit runner custom => u.submit runner custom
  | .run index => u.runQueued index
  | .cancel index => do
    let w ← Run.state
    let (answer, w) ← Run.lift (w.cancelFuture index)
    Run.setState w
    return .flag answer
  | .state index => do
    let w ← Run.state
    let (_, f) ← Run.lift (w.handedFuture index)
    return .state f.future.isDone f.future.isRunning f.future.isCancelled
      (w.signalIsSet f.signal)
  | .result index => do
    let w ← Run.state
    let (_, f) ← Run.lift (w.handedFuture index)
    let response ← Run.lift f.future.result
    return .response response
  | .failure index => do
    let w ← Run.state
    let (_, f) ← Run.lift (w.handedFuture index)
    let fault ← Run.lift f.future.failure
    return .failure fault
  | .loop custom => do
    let response ← u.execution custom none
    return reply response
  | .rewind => do
    Run.ofHook (changeWorld fun w => { w with exchanges := 0 })
    return .done
  | .shutdown => return .done
  | .act a => do
    Run.ofHook (act a)
    return .done

end Setup

/-- Makes the request of a session and its cancel event, and takes the steps. -/
def playSession (debug : Bool) (clock : Float) (transport : TransportSpec)
    (signal : Option SignalSpec) (request : RequestSpec) (steps : List Step) :
    Except Fault (List (Outcome (Event Float) World Reply)) := do
  let w := World.initial clock
  let (id, w) := match signal with
    | none => (none, w)
    | some spec =>
      let (id, w) := w.addSignal spec
      (some id, w)
  let (r, w) ← w.makeRequest request
  let setup : Setup := ⟨debug, transport, signal.getD ⟨false, none⟩, id⟩
  return Run.trail setup.step r w steps

end Redial.Scenario
