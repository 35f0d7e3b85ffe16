import Redial.Engine.Pause
import Redial.Engine.Transmission
import Redial.Redirect

/-! # One attempt

    An attempt transmits the request and decides what its outcome means.  A failed
    exchange may be retried if the request says so.  An unsuccessful response is offered
    to the handler, then to the backoff policy, then to the redirect rule; the first
    that accepts it causes a retry.  Every retry costs one from the budget, whatever its
    reason. -/

namespace Redial.Engine

variable {R σ : Type}

/-! ## Section 1: Handlers -/

mutual

/-- Asks a handler about a response. -/
def ask (h : Hooks R σ) (response : Response) (supportsRetry : Bool) : Handler → Hook σ Bool
  | .leaf _ id => h.handle id response supportsRetry
  | .composite parts => askInOrder h response supportsRetry parts

/-- Asks handlers in order, up to the first that accepts. -/
def askInOrder (h : Hooks R σ) (response : Response) (supportsRetry : Bool) :
    List Handler → Hook σ Bool
  | [] => pure false
  | part :: parts => do
    if ← ask h response supportsRetry part then
      Run.log h.debug .handler
        (part.kind ++ " handled status " ++ toString response.status)
      return true
    else askInOrder h response supportsRetry parts

end

/-- Asks the request's handler, if it has one. -/
def askHandler (h : Hooks R σ) (response : Response) : Run (Event R) σ Bool := do
  let r ← Run.request
  match r.handler with
  | .empty => return false
  | .hook handler => Run.ofHook (ask h response true handler)
  | .other v => Run.throw (.notAHook v.kindName "handle_response")

/-! ## Section 2: Callbacks -/

/-- Tells the callbacks of a slot, if the chosen one is set. -/
def tell (slot : Slot Callbacks) (choose : Callbacks → Option Nat) (wanted : String)
    (event : Event R) (call : Nat → Hook σ Unit) : Run (Event R) σ Unit :=
  match slot with
  | .empty => pure ()
  | .hook callbacks =>
    match choose callbacks with
    | none => pure ()
    | some id => do
      Run.emit event
      Run.ofHook (call id)
  | .other v => if v.isSet then Run.throw (.notAHook v.kindName wanted) else pure ()

variable [Arith R]

/-! ## Section 3: Backoff -/

/-- Asks the request's policy whether to pause, and pauses.  Answers the length of the pause
    in seconds, or none if there is no policy, no need, or no further pause. -/
def backOff (h : Hooks R σ) (cancellable : Bool) (status : Int) :
    Run (Event R) σ (Option R) := do
  let r ← Run.request
  match r.policy with
  | .empty => return none
  | .other v => Run.throw (.notAHook v.kindName "is_backoff_required")
  | .hook policy =>
    let required ← Run.ofHook (h.isBackoffRequired policy status)
    Run.emit (.policyRequired status required)
    if !required then return none
    let millis ← Run.ofHook (h.nextBackoff policy)
    Run.emit (.policyNext millis)
    if millis.eq Backoff.stop then return none
    pause h cancellable millis
    let waited ← Run.lift ((seconds millis).mapError .arithmetic)
    return some waited

/-! ## Section 4: Triggers -/

/-- Offers an unsuccessful response to every trigger in turn.  Answers the reason of the one
    that accepts, and the pause it made in seconds. -/
def offer (h : Hooks R σ) (cancellable : Bool) (response : Response) :
    Run (Event R) σ (Option (Reason × R)) := do
  if ← askHandler h response then return some (.handler, Arith.zero)
  match ← backOff h cancellable response.status with
  | some waited => return some (.backoff, waited)
  | none =>
    if ← Run.ofHook (followRedirect h.debug response.status response.headers) then
      return some (.redirect, Arith.zero)
    else return none

/-- Takes one from the retry budget; a budget may not become negative. -/
def spendRetry : Run (Event R) σ Unit := do
  let r ← Run.request
  let left ← Run.lift ((r.retries.sub (.whole 1)).mapError .arithmetic)
  let r ← Run.lift (r.setRetries (.number left))
  Run.setRequest r

/-- Writes a line about the request to the debug log. -/
def logRequest (h : Hooks R σ) (text : String) : Run (Event R) σ Unit := do
  let r ← Run.request
  Run.ofHook (Run.log h.debug .execution (r.method ++ " request to " ++ r.url.plain ++ " " ++ text))

/-- Spends a retry and reports it; `n` counts the attempts before this one. -/
def retry (h : Hooks R σ) (callbacks : Slot Callbacks) (n : Nat) (reason : Reason) (waited : R)
    (error : Option Fault) (status : Option Int) : Run (Event R) σ Unit := do
  spendRetry
  let r ← Run.request
  logRequest h ("retried (" ++ reason.text ++ ", " ++ r.retries.text ++ " retries left)")
  let info : RetryInfo R := ⟨r.url, r.method, n + 2, r.retries, reason, waited, error, status⟩
  tell callbacks Callbacks.onRetry "on_retry" (.retried info) (h.onRetry · info)

/-! ## Section 5: Endings -/

/-- Reports an error that is about to be raised, and raises it. -/
def fail (h : Hooks R σ) (callbacks : Slot Callbacks) (start : R) (n : Nat) (error : Fault)
    (status : Option Int) : Run (Event R) σ Unit := do
  logRequest h ("failed: " ++ error.message)
  let r ← Run.request
  let s ← Run.state
  let info : FailureInfo R :=
    ⟨r.url, r.method, n + 1, error, status, Arith.sub (h.now s) start⟩
  tell callbacks Callbacks.onFailure "on_failure" (.failed info) (h.onFailure · info)
  Run.throw error

/-- Reports a success. -/
def succeed (h : Hooks R σ) (callbacks : Slot Callbacks) (start : R) (n : Nat)
    (response : Response) : Run (Event R) σ Unit := do
  logRequest h ("succeeded with status " ++ toString response.status)
  let r ← Run.request
  let s ← Run.state
  let info : SuccessInfo R :=
    ⟨r.url, r.method, n + 1, response, Arith.sub (h.now s) start⟩
  tell callbacks Callbacks.onSuccess "on_success" (.succeeded info) (h.onSuccess · info)

/-- Ends with an unsuccessful response: raises its error, or returns it if the request wants
    that. -/
def conclude (h : Hooks R σ) (callbacks : Slot Callbacks) (start : R) (n : Nat)
    (response : Response) : Run (Event R) σ Unit := do
  let r ← Run.request
  if r.raiseOnError.isSet then
    let error ← Run.lift ((ResponseError.ofResponseBy h.decode response none).mapError .charset)
    fail h callbacks start n (.response error) (some response.status)

/-! ## Section 6: The attempt -/

/-- Stops if the cancel event is set. -/
def checkCancelled (h : Hooks R σ) (cancellable : Bool) : Run (Event R) σ Unit := do
  let s ← Run.state
  if cancellable && h.isCancelled s then
    let r ← Run.request
    Run.throw (.cancelled r.method r.url)

/-- Takes a failed exchange: the end of the run, or a reason to retry. -/
def takeFailure (h : Hooks R σ) (callbacks : Slot Callbacks) (start : R) (n : Nat)
    (error : Fault) : Run (Event R) σ (Option Response) := do
  let r ← Run.request
  if !r.retryOnFailure.isSet || r.retries.isZero then
    fail h callbacks start n error none
  retry h callbacks n .failure Arith.zero (some error) none
  return none

/-- Takes a response: the end of the run, or a reason to retry. -/
def takeResponse (h : Hooks R σ) (cancellable : Bool) (callbacks : Slot Callbacks) (start : R)
    (n : Nat) (response : Response) : Run (Event R) σ (Option Response) := do
  if response.isSuccess then
    succeed h callbacks start n response
    return some response
  -- without budget no trigger is asked, so that none changes the request in vain
  let r ← Run.request
  let trigger ← if r.retries.isPositive then offer h cancellable response else pure none
  match trigger with
  | some (reason, waited) =>
    retry h callbacks n reason waited none (some response.status)
    return none
  | none =>
    conclude h callbacks start n response
    return some response

/-- One attempt after `n` others.  Answers the final response, or none if another attempt is
    to be made. -/
def attempt (h : Hooks R σ) (cancellable : Bool) (callbacks : Slot Callbacks) (start : R)
    (n : Nat) : Run (Event R) σ (Option Response) := do
  checkCancelled h cancellable
  let staged ← stage h
  let r ← Run.request
  let info : RequestInfo := ⟨r.url, r.method, n + 1, r.retries⟩
  tell callbacks Callbacks.onRequest "on_request" (.requested info) (h.onRequest · info)
  match ← Run.capture Fault.isExchange (transmit h staged) with
  | .error fault => takeFailure h callbacks start n fault
  | .ok raw =>
    -- the exchange may have changed the request: the response names it as it is now
    let r ← Run.request
    takeResponse h cancellable callbacks start n (.ofRaw raw r.method r.url)

end Redial.Engine
