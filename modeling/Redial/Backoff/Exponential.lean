import Redial.Backoff.Basic
import Redial.Backoff.Codes
import Redial.Status

/-! # Exponential backoff

    The interval starts at `initial` and is multiplied after every granted pause, up to
    `cap`.  A pause is drawn evenly from the interval widened by the factor to both
    sides.  Once more than `limit` milliseconds have passed since the last reset, no
    further pause is granted. -/

namespace Redial.Backoff

/-! ## Section 1: Parameters -/

/-- An exponential policy with its parameters, its current interval and the time of its last
    reset. -/
structure Exponential (R : Type) where
  initial : Number R
  factor : Number R
  multiplier : Number R
  cap : Number R
  limit : Number R
  codes : Value
  current : Number R
  started : R

namespace Exponential

variable {R : Type}

/-- The codes that require a pause if none are given. -/
def defaultCodes : List Int := [Status.serverError, Status.serviceUnavailable]

variable [Arith R]

/-- The first interval must be positive. -/
def checkInitial (initial : Number R) : Except ParameterFault Unit :=
  if initial.le (.whole 0) then .error (.initialNotPositive initial.text) else .ok ()

/-- The factor must be at least zero and less than one. -/
def checkFactor (factor : Number R) : Except ParameterFault Unit :=
  if !((Number.whole 0).le factor && factor.lt (.whole 1)) then .error (.factorOutside factor.text)
  else .ok ()

/-- The multiplier must be at least one. -/
def checkMultiplier (multiplier : Number R) : Except ParameterFault Unit :=
  if multiplier.lt (.whole 1) then .error (.multiplierBelowOne multiplier.text) else .ok ()

/-- The cap may not be less than the first interval. -/
def checkCap (initial cap : Number R) : Except ParameterFault Unit :=
  if cap.lt initial then .error (.capBelowInitial initial.text cap.text) else .ok ()

/-- The limit must be positive. -/
def checkLimit (limit : Number R) : Except ParameterFault Unit :=
  if limit.le (.whole 0) then .error (.limitNotPositive limit.text) else .ok ()

/-- A policy with checked parameters, made at the given time. -/
def make (initial factor multiplier cap limit : Number R) (codes : Value) (now : R) :
    Except ParameterFault (Exponential R) := do
  checkInitial initial
  checkFactor factor
  checkMultiplier multiplier
  checkCap initial cap
  checkLimit limit
  return ⟨initial, factor, multiplier, cap, limit, codes, initial, now⟩

/-! ## Section 2: Operations -/

/-- Starts over at the given time. -/
def reset (p : Exponential R) (now : R) : Exponential R :=
  { p with current := p.initial, started := now }

/-- Whether a status requires a pause. -/
def requires (p : Exponential R) (status : Int) : Except Fault Bool := holds p.codes status

/-- The whole milliseconds since the last reset. -/
def elapsed (p : Exponential R) (now : R) : Except ArithFault Int := do
  let millis ← (Number.real (Arith.sub now p.started)).mul (.whole 1000)
  millis.truncate

/-- Whether more time has passed than the limit allows. -/
def isExpired (p : Exponential R) (now : R) : Except ArithFault Bool :=
  (p.elapsed now).map fun e => p.limit.lt (.whole e)

/-- The lower end of the widened interval, and its width. -/
def widened (p : Exponential R) : Except ArithFault (Number R × Number R) := do
  let delta ← p.factor.mul p.current
  let low ← p.current.sub delta
  let high ← p.current.add delta
  let width ← high.sub low
  return (low, width)

/-- The pause at a draw between zero and one: even over the widened interval, without its
    fraction. -/
def interval (p : Exponential R) (draw : R) : Except ArithFault Int := do
  let (low, width) ← p.widened
  let offset ← width.mul (.real draw)
  let point ← low.add offset
  point.truncate

/-- Whether a pause takes a draw: the policy is not expired, and there is an interval to
    draw from. -/
def draws (p : Exponential R) (now : R) : Bool :=
  match p.isExpired now, p.widened with
  | .ok false, .ok _ => true
  | _, _ => false

/-- The interval after the current one. -/
def grown (p : Exponential R) : Except ArithFault (Number R) := do
  let turn ← p.cap.div p.multiplier
  if (Number.real turn).le p.current then return p.cap
  let product ← p.current.mul p.multiplier
  let n ← product.truncate
  return .whole n

/-- The next pause at the given time and draw. -/
def next (p : Exponential R) (now draw : R) : Except ArithFault (Number R × Exponential R) := do
  if ← p.isExpired now then return (stop, p)
  let pause ← p.interval draw
  let current ← p.grown
  return (.whole pause, { p with current := current })

/-- The line of the debug log about a policy that is expired. -/
def expiredLine (p : Exponential R) (elapsed : Int) : String :=
  "Exponential backoff stopped after " ++ toString elapsed ++ "ms (max_elapsed_time_millis="
    ++ p.limit.text ++ ")"

end Exponential

end Redial.Backoff
