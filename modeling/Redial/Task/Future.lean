import Redial.Fault

/-! # Futures

    A future passes through five phases.  It can be cancelled until its task starts; the
    task notices the cancellation when it is started, and otherwise finishes the future
    with a result. -/

namespace Redial

/-! ## Section 1: Futures -/

/-- The phase of a future. -/
inductive Future (α : Type) where
  | pending
  | running
  | cancelled
  /-- Cancelled, and the task has noticed it. -/
  | noticed
  | finished (result : Except Fault α)

namespace Future

variable {α : Type}

/-! ## Section 2: Steps -/

/-- Tries to cancel; answers whether the future is cancelled now. -/
def cancel : Future α → Bool × Future α
  | pending => (true, cancelled)
  | cancelled => (true, cancelled)
  | noticed => (true, noticed)
  | running => (false, running)
  | finished result => (false, finished result)

/-- Starts the task of a future; answers whether it is to run.  A task starts only once. -/
def start : Future α → Except Fault (Bool × Future α)
  | pending => .ok (true, running)
  | cancelled => .ok (false, noticed)
  | _ => .error .unexpectedState

/-- Gives a future its result. -/
def resolve (result : Except Fault α) : Future α → Except Fault (Future α)
  | pending => .ok (finished result)
  | running => .ok (finished result)
  | _ => .error .alreadyResolved

/-! ## Section 3: Views -/

/-- Whether nothing changes any more. -/
def isDone : Future α → Bool
  | pending => false
  | running => false
  | _ => true

/-- Whether the task is running. -/
def isRunning : Future α → Bool
  | running => true
  | _ => false

/-- Whether the future was cancelled. -/
def isCancelled : Future α → Bool
  | cancelled => true
  | noticed => true
  | _ => false

/-- The result, without waiting for it. -/
def result : Future α → Except Fault α
  | finished r => r
  | cancelled => .error .futureCancelled
  | noticed => .error .futureCancelled
  | _ => .error .stillPending

/-- The fault that the task ended with, if any, without waiting for it. -/
def failure : Future α → Except Fault (Option Fault)
  | finished (.ok _) => .ok none
  | finished (.error f) => .ok (some f)
  | cancelled => .error .futureCancelled
  | noticed => .error .futureCancelled
  | _ => .error .stillPending

end Future

end Redial
