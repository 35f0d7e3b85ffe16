import Redial.Engine.Attempt

/-! # Executions

    An execution checks the method, resets the policy and makes attempts until one ends
    the run.  The number of attempts is bounded by a limit; an execution that reaches
    its limit answers none, which is told apart from every way in which an execution
    ends by itself.  A run whose hooks leave the budget alone ends by itself within one
    attempt more than its budget. -/

namespace Redial.Engine

variable {R σ : Type}

/-! ## Section 1: Before the first attempt -/

/-- Checks that the engine knows the method and that the transport supports it. -/
def checkMethod (h : Hooks R σ) : Run (Event R) σ Unit := do
  let r ← Run.request
  if !knownMethods.contains r.method then Run.throw (.unknownMethod r.method)
  if optionalMethods.contains r.method then
    checkTransport "supports_method"
    if !h.supports r.method then Run.throw (.unsupportedMethod r.method h.transportName)

/-- Resets the request's policy, if it has one. -/
def resetPolicy (h : Hooks R σ) : Run (Event R) σ Unit := do
  let r ← Run.request
  match r.policy with
  | .empty => return ()
  | .other v => Run.throw (.notAHook v.kindName "reset")
  | .hook policy =>
    Run.emit .policyReset
    Run.ofHook (h.resetPolicy policy)

variable [Arith R]

/-! ## Section 2: Attempts -/

/-- Makes attempts until one ends the run, at most as many as the limit says; `n` counts
    those made before. -/
def attempts (h : Hooks R σ) (cancellable : Bool) (callbacks : Slot Callbacks) (start : R) :
    Nat → Nat → Run (Event R) σ (Option Response)
  | 0, _ => pure none
  | limit + 1, n => do
    match ← attempt h cancellable callbacks start n with
    | some response => return some response
    | none => attempts h cancellable callbacks start limit (n + 1)

/-- Executes the request.  The callbacks and the starting time are those of the beginning. -/
def execute (h : Hooks R σ) (cancellable : Bool) (limit : Nat) :
    Run (Event R) σ (Option Response) := do
  checkMethod h
  resetPolicy h
  let r ← Run.request
  let s ← Run.state
  attempts h cancellable r.callbacks (h.now s) limit 0

end Redial.Engine
