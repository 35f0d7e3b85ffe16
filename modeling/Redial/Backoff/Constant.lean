import Redial.Backoff.Basic
import Redial.Backoff.Codes
import Redial.Status

/-! # Constant backoff

    The same pause before every retry.  With a quota, only that many pauses are granted
    since the last reset. -/

namespace Redial.Backoff

/-! ## Section 1: Parameters -/

/-- A constant policy with its parameters and its count of granted pauses. -/
structure Constant (R : Type) where
  delay : Number R
  quota : Option (Number R)
  codes : Value
  granted : Nat

namespace Constant

variable {R : Type}

/-- The codes that require a pause if none are given: too many requests, and the server
    errors that pass. -/
def defaultCodes : List Int := [
  Status.tooManyRequests, Status.serverError, Status.badGateway, Status.serviceUnavailable,
  Status.gatewayTimeout]

/-- The pause that is made if none is given. -/
def defaultDelay : Number R := .whole 1000

variable [Arith R]

/-- A policy with checked parameters. -/
def make (delay : Number R) (quota : Option (Number R)) (codes : Value) :
    Except ParameterFault (Constant R) :=
  if delay.isNegative then .error (.delayNegative delay.text)
  else match quota with
    | none => .ok ⟨delay, none, codes, 0⟩
    | some q =>
      if q.isNegative then .error (.quotaNegative q.text) else .ok ⟨delay, some q, codes, 0⟩

/-! ## Section 2: Operations -/

/-- Forgets the granted pauses. -/
def reset (p : Constant R) : Constant R := { p with granted := 0 }

/-- Whether a status requires a pause. -/
def requires (p : Constant R) (status : Int) : Except Fault Bool := holds p.codes status

/-- Whether the quota is used up. -/
def isSpent (p : Constant R) : Bool :=
  match p.quota with
  | none => false
  | some q => q.le (.whole p.granted)

/-- The next pause. -/
def next (p : Constant R) : Number R × Constant R :=
  if p.isSpent then (stop, p) else (p.delay, { p with granted := p.granted + 1 })

end Constant

end Redial.Backoff
