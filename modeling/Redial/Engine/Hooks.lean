import Redial.Engine.Event
import Redial.Engine.Run

/-! # The surroundings of an execution

    Everything that an execution asks of its surroundings, as one record of functions
    over a state that only they understand: clock, cancel event, transport, bodies
    written by the caller, policy, handlers and callbacks.  Each may change the request
    and its own state, and may raise a fault. -/

namespace Redial

/-! ## Section 1: The record -/

/-- A call into the surroundings. -/
abbrev Hook (σ α : Type) : Type := Run Note σ α

/-- The surroundings of an execution, with times in `R` and a state in `σ`. -/
structure Hooks (R σ : Type) where
  /-- Whether the debug log is written. -/
  debug : Bool
  /-- The time in seconds. -/
  now : σ → R
  /-- Lets a pause pass. -/
  sleep : R → σ → σ
  /-- Checks that a pause can be made: a wait for the cancel event, or a plain sleep. -/
  checkPause : Bool → R → σ → Except ArithFault Unit
  /-- Whether the cancel event is set. -/
  isCancelled : σ → Bool
  /-- Lets a pause pass unless the cancel event is set first; answers whether it is. -/
  wait : R → σ → Bool × σ
  /-- Decodes bytes under the name of a character set. -/
  decode : Decoder
  /-- Compresses a body. -/
  compress : List UInt8 → List UInt8
  /-- Writes a body of the caller's. -/
  writeSource : Nat → Hook σ (List UInt8)
  /-- Whether the transport supports a method. -/
  supports : String → Bool
  /-- The name of the kind of the transport. -/
  transportName : String
  /-- The transport is given a transmission, before its body is read. -/
  announce : Staged → Hook σ Unit
  /-- Whether the transport reads bodies. -/
  readsBody : Bool
  /-- The transport performs the exchange with the body it has read. -/
  exchange : Staged → List UInt8 → Hook σ RawResponse
  resetPolicy : Nat → Hook σ Unit
  /-- Asks a policy whether a status requires a pause. -/
  isBackoffRequired : Nat → Int → Hook σ Bool
  /-- Asks a policy for a pause in milliseconds; `-1` refuses it. -/
  nextBackoff : Nat → Hook σ (Number R)
  /-- Asks a handler of the caller's about a response. -/
  handle : Nat → Response → Bool → Hook σ Bool
  onRequest : Nat → RequestInfo → Hook σ Unit
  onRetry : Nat → RetryInfo R → Hook σ Unit
  onSuccess : Nat → SuccessInfo R → Hook σ Unit
  onFailure : Nat → FailureInfo R → Hook σ Unit

/-! ## Section 2: Calls as parts of a run -/

namespace Run

variable {R σ α : Type}

/-- A call into the surroundings as part of an execution. -/
def ofHook (x : Hook σ α) : Run (Event R) σ α := x.mapEvents Event.ofNote

/-- Writes a line to the debug log, if it is written at all. -/
def log (debug : Bool) (channel : Channel) (text : String) : Run Note σ Unit :=
  if debug then emit (.log channel text) else pure ()

end Run

end Redial
