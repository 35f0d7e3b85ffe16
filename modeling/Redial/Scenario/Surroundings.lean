import Redial.Scenario.Conduct

/-! # Scripted surroundings as hooks

    The record of hooks through which an execution meets scripted surroundings. -/

namespace Redial.Scenario

/-- The name of the kind of a transport. -/
def TransportKind.name : TransportKind → String
  | scripted => "ScriptedHttpTransport"
  | basic => "BasicHttpTransport"
  | client => "ClientTransport"

/-- Whether a transport supports a method. -/
def TransportSpec.supports (t : TransportSpec) (method : String) : Bool :=
  match t.kind with
  | .client => knownMethods.contains method
  | .basic => basicMethods.contains method
  | .scripted =>
    match t.supported with
    | none => true
    | some methods => basicMethods.contains method || methods.contains method

/-- The hooks of scripted surroundings with a transport; the cancel event is the one with
    the given number, if any. -/
def surroundings (debug : Bool) (t : TransportSpec) (signal : Option Nat) :
    Hooks Float World where
  debug := debug
  now w := w.clock
  sleep seconds w := w.advance seconds
  -- the clock is moved by hand, by any length
  checkPause _ _ _ := .ok ()
  isCancelled w := match signal with
    | some id => w.signalIsSet id
    | none => false
  wait seconds w := match signal with
    | some id => w.wait id seconds
    | none => (false, w.advance seconds)
  decode := decodeNamed
  compress := Gzip.encode
  writeSource := playSource
  supports := t.supports
  transportName := t.kind.name
  announce s := match t.kind with
    | .client => pure ()
    | _ => announceStaged s
  readsBody := t.kind == .client || t.readsBody
  exchange s body := match t.kind with
    | .client => exchangeByClient t.script s body
    | _ => do
      if t.readsBody then reportBody s body
      playExchange t.script
  resetPolicy := playReset
  isBackoffRequired := playRequired
  nextBackoff := playPause debug
  handle := playHandler
  onRequest id _ := playCallback id
  onRetry id _ := playCallback id
  onSuccess id _ := playCallback id
  onFailure id _ := playCallback id

end Redial.Scenario
