import Redial.Backoff.Constant
import Redial.Backoff.Exponential

/-! # The library's policies

    A constant or an exponential policy behind one set of operations. -/

namespace Redial.Backoff

/-! ## Section 1: Policies and answers -/

/-- A policy of the library. -/
inductive Policy (R : Type) where
  | constant (p : Constant R)
  | exponential (p : Exponential R)

/-- What a policy answers when it is asked for a pause. -/
structure Answer (R : Type) where
  millis : Except ArithFault (Number R)
  /-- The policy afterwards. -/
  policy : Policy R
  /-- Whether a random draw was used. -/
  drew : Bool
  /-- A line for the debug log. -/
  line : Option String

namespace Policy

variable {R : Type} [Arith R]

/-! ## Section 2: Operations -/

/-- The codes that require a pause. -/
def codes : Policy R → Value
  | constant p => p.codes
  | exponential p => p.codes

/-- Whether a status requires a pause. -/
def requires (p : Policy R) (status : Int) : Except Fault Bool := holds p.codes status

/-- Starts over at the given time. -/
def reset (p : Policy R) (now : R) : Policy R :=
  match p with
  | constant p => constant p.reset
  | exponential p => exponential (p.reset now)

/-- The next pause of an exponential policy.  A pause or an interval that cannot be computed
    leaves the policy as it is. -/
def answerExponential (p : Exponential R) (now draw : R) : Answer R :=
  let drew := p.draws now
  let line := match p.isExpired now, p.elapsed now with
    | .ok true, .ok e => some (p.expiredLine e)
    | _, _ => none
  match p.next now draw with
  | .ok (millis, p) => ⟨.ok millis, exponential p, drew, line⟩
  | .error f => ⟨.error f, exponential p, drew, line⟩

/-- The next pause at the given time and draw. -/
def answer (p : Policy R) (now draw : R) : Answer R :=
  match p with
  | constant p =>
    let (millis, p) := p.next
    ⟨.ok millis, constant p, false, none⟩
  | exponential p => answerExponential p now draw

end Policy

end Redial.Backoff
