import Redial.Engine.Hooks
import Redial.Backoff.Basic

/-! # Pauses

    The pause before a retry.  Without a cancel event it simply passes; with one it ends
    early when the event is set, and then no retry is made.  A pause that the clock
    refuses does not begin, and the fault ends the run. -/

namespace Redial.Engine

variable {R σ : Type} [Arith R]

/-! ## Section 1: What a system's clock can wait for -/

/-- The nanoseconds of a pause in seconds. -/
def nanos (span : R) : Except ArithFault (Number R) := (Number.real span).mul (.whole 1000000000)

/-- The first number of nanoseconds that a clock cannot count. -/
def clockRange : Int := Nat.pow 2 63

/-- Checks that a plain sleep can be made: the clock can count its length, which is not
    negative. -/
def checkSleep (span : R) : Except ArithFault Unit := do
  let n ← nanos span
  match n.exact with
  | .undefined => throw .undefinedPause
  | _ =>
    if n.lt (.whole (-clockRange)) || !n.lt (.whole clockRange) then throw .pauseTooLong
    if n.isNegative then throw .negativeSleep

/-- Checks that a wait for the cancel event can be made.  A wait that is over at once,
    because the event is set or the length is not positive, needs no clock. -/
def checkWait (isSet : Bool) (span : R) : Except ArithFault Unit := do
  if !isSet && (Number.real span).isPositive then
    let n ← nanos span
    if !n.lt (.whole clockRange) then throw .pauseTooLong

/-- Checks a pause as a system's clock does, with a cancel event that is set or not. -/
def systemCheck (cancellable isSet : Bool) (span : R) : Except ArithFault Unit :=
  if cancellable then checkWait isSet span else checkSleep span

/-! ## Section 2: Pausing -/

/-- Milliseconds as seconds. -/
def seconds (millis : Number R) : Except ArithFault R := do
  let x ← millis.toReal
  let thousand ← (Number.whole 1000 : Number R).toReal
  return Arith.div x thousand

/-- Pauses for a number of milliseconds. -/
def pause (h : Hooks R σ) (cancellable : Bool) (millis : Number R) : Run (Event R) σ Unit := do
  let span ← Run.lift ((seconds millis).mapError .arithmetic)
  Run.ofHook (Run.log h.debug .pause ("Waiting " ++ Arith.fixed 3 span ++ "s before retry"))
  let s ← Run.state
  Run.lift ((h.checkPause cancellable span s).mapError .arithmetic)
  if cancellable then
    Run.emit (.waited span)
    let (cancelled, s) := h.wait span s
    Run.setState s
    if cancelled then Run.throw .cancelledWaiting
  else
    Run.emit (.slept span)
    Run.setState (h.sleep span s)

end Redial.Engine
