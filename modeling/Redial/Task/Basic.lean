import Redial.Engine.Execution
import Redial.Task.Future

/-! # Tasks

    The task of a future runs one execution and gives its end to the future: the
    response, or the fault it ended with.  A fault outside the ordinary kinds is also
    passed on to the runner.  The task of a cancelled future runs nothing. -/

namespace Redial

/-- Where a future is kept in the state of the surroundings. -/
structure FutureAccess (σ : Type) where
  read : σ → Future Response
  write : Future Response → σ → σ

namespace Task

variable {R σ : Type}

/-- Gives the future its result. -/
def resolve (access : FutureAccess σ) (result : Except Fault Response) :
    Run (Event R) σ Unit := do
  let s ← Run.state
  let future ← Run.lift ((access.read s).resolve result)
  Run.setState (access.write future s)

/-- Runs the execution of a started task.  An execution that reached its limit leaves the
    future running. -/
def runStarted (access : FutureAccess σ) (execution : Run (Event R) σ (Option Response)) :
    Run (Event R) σ Unit := do
  match ← Run.capture (fun _ => true) execution with
  | .ok none => return ()
  | .ok (some response) => resolve access (.ok response)
  | .error fault =>
    resolve access (.error fault)
    if fault.isAbort then Run.throw fault

/-- Runs the task of a future. -/
def run (h : Hooks R σ) (access : FutureAccess σ)
    (execution : Run (Event R) σ (Option Response)) : Run (Event R) σ Unit := do
  let s ← Run.state
  let (started, future) ← Run.lift (access.read s).start
  Run.setState (access.write future s)
  if started then runStarted access execution
  else
    let r ← Run.request
    Run.ofHook (Run.log h.debug .task
      (r.method ++ " request to " ++ r.url.plain ++ " cancelled before start"))

end Task

end Redial
