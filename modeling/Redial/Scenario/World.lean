import Redial.Backoff.Parameters
import Redial.Engine.Hooks
import Redial.Scenario.Script
import Redial.Task.Basic

/-! # The state of scripted surroundings

    The clock, the random draws, the cancel events, the futures, and how far each script
    has been played.  Everything that scripts make is registered under a number, which
    is its position. -/

namespace Redial.Scenario

/-! ## Section 1: Places in lists -/

/-- The item at an index; a negative one counts from the end. -/
def itemAt? {α : Type} (items : List α) (index : Int) : Option α :=
  let place := if index < 0 then index + items.length else index
  if place < 0 then none else items[place.toNat]?

/-! ## Section 2: The state -/

/-- A cancel event. -/
structure Signal where
  isSet : Bool
  setAt : Option Float

/-- A handler of rules, and how often each rule has been used. -/
structure LeafState where
  name : String
  rules : List (RuleSpec × Nat)

/-- A policy: one of the library's, or a script with the number of pauses since its reset. -/
inductive PolicyState where
  | library (p : Backoff.Policy Float)
  | script (codes : Option (List Int)) (millis : List Value) (actions : List Action)
    (asked : Nat)

/-- A callback, and how often it has been called. -/
structure CallbackState where
  rules : List CallRule
  calls : Nat

/-- A body of the caller's, and how often it has been written. -/
structure SourceState where
  chunks : List (List UInt8)
  failing : List Int
  kind : String
  writes : Nat

/-- A future and its cancel event. -/
structure FutureState where
  future : Future Response
  signal : Nat

/-- A task in the queue: the future it serves, and whether it uses an executor of the
    caller's. -/
structure QueuedTask where
  future : Nat
  custom : Bool

/-- A transmission that a canned transport has built, and how often it was sent. -/
structure BuiltRequest where
  method : Value
  url : Value
  headers : List (String × String)
  content : Option Content
  sent : Nat

/-- The state of the surroundings. -/
structure World where
  clock : Float
  /-- The draws to come, of which the last repeats. -/
  random : List Float
  signals : List Signal
  /-- Every future that was made. -/
  futures : List FutureState
  /-- The futures that were handed out, in order. -/
  handed : List Nat
  queue : List QueuedTask
  leaves : List LeafState
  policies : List PolicyState
  callbacks : List CallbackState
  sources : List SourceState
  /-- How many exchanges have been made. -/
  exchanges : Nat
  /-- The transmissions of a canned transport. -/
  transmissions : List BuiltRequest
  /-- Which transmission each building gave, in order. -/
  built : List Nat

namespace World

/-- The state at the beginning. -/
def initial (clock : Float) : World where
  clock := clock
  random := [0.5]
  signals := []
  futures := []
  handed := []
  queue := []
  leaves := []
  policies := []
  callbacks := []
  sources := []
  exchanges := 0
  transmissions := []
  built := []

/-! ## Section 3: Clock and chance -/

/-- Moves the clock. -/
def advance (w : World) (seconds : Float) : World := { w with clock := w.clock + seconds }

/-- The next draw. -/
def draw (w : World) : Float := w.random.headD 0.5

/-- Uses up a draw; the last one stays. -/
def dropDraw (w : World) : World :=
  match w.random with
  | _ :: d :: rest => { w with random := d :: rest }
  | _ => w

/-! ## Section 4: Cancel events -/

/-- Whether a cancel event is set by now. -/
def signalIsSet (w : World) (id : Nat) : Bool :=
  match w.signals[id]? with
  | none => false
  | some s => s.isSet || match s.setAt with
    | some t => t ≤ w.clock
    | none => false

/-- Registers a cancel event. -/
def addSignal (w : World) (spec : SignalSpec) : Nat × World :=
  (w.signals.length, { w with signals := w.signals ++ [⟨spec.isSet, spec.setAt⟩] })

/-- Sets a cancel event. -/
def setSignal (w : World) (id : Nat) : World :=
  { w with signals := w.signals.modify id fun s => { s with isSet := true } }

/-- Sets the newest cancel event. -/
def setNewestSignal (w : World) : World := w.setSignal (w.signals.length - 1)

/-- Waits for a cancel event for a number of seconds; answers whether it is set. -/
def wait (w : World) (id : Nat) (seconds : Float) : Bool × World :=
  if w.signalIsSet id then (true, w)
  else match (w.signals[id]?).bind Signal.setAt with
    | some t =>
      -- the event is set during the pause, which ends there
      if t ≤ w.clock + seconds then (true, { w with clock := t }) else (false, w.advance seconds)
    | none => (false, w.advance seconds)

/-! ## Section 5: Futures -/

/-- Makes a future with a cancel event of its own; answers its number. -/
def addFuture (w : World) (spec : SignalSpec) : Nat × World :=
  let (signal, w) := w.addSignal spec
  (w.futures.length, { w with futures := w.futures ++ [⟨.pending, signal⟩] })

/-- Where a future is kept. -/
def futureAccess (id : Nat) : FutureAccess World where
  read w := match w.futures[id]? with
    | some f => f.future
    | none => .pending
  write future w :=
    { w with futures := w.futures.modify id fun f => { f with future := future } }

/-- The number of a future that was handed out, by its place among these. -/
def handedFuture (w : World) (index : Int) : Except Fault (Nat × FutureState) :=
  match itemAt? w.handed index with
  | none => .error .noSuchIndex
  | some id =>
    match w.futures[id]? with
    | none => .error .noSuchIndex
    | some f => .ok (id, f)

/-- Cancels a future that was handed out: sets its cancel event, and tries to cancel it. -/
def cancelFuture (w : World) (index : Int) : Except Fault (Bool × World) := do
  let (id, f) ← w.handedFuture index
  let (answer, future) := f.future.cancel
  let w := w.setSignal f.signal
  return (answer, (futureAccess id).write future w)

/-! ## Section 6: Making things -/

/-- Makes a content.  A logging layer with a negative limit is refused. -/
def makeContent (w : World) : ContentSpec → Except Fault (Content × World)
  | .text mediaType text => .ok (Content.ofText mediaType text, w)
  | .data mediaType data => .ok (.bytes mediaType data, w)
  | .gzip inner => do
    let (c, w) ← w.makeContent inner
    return (.gzip c, w)
  | .logging inner limit => do
    let (c, w) ← w.makeContent inner
    let limit ← checkNonNegative Setting.loggingLimit.name limit
    return (.logging c limit, w)
  | .chunks mediaType chunks length failing kind =>
    .ok (.source ⟨w.sources.length, mediaType, length⟩,
      { w with sources := w.sources ++ [⟨chunks, failing, kind, 0⟩] })

/-- Makes a content, if one is given. -/
def makeContent? (w : World) : Option ContentSpec → Except Fault (Option Content × World)
  | none => .ok (none, w)
  | some spec => (w.makeContent spec).map fun r => (some r.1, r.2)

mutual

/-- Makes a handler. -/
def makeHandler (w : World) : HandlerSpec → Handler × World
  | .rules name rules =>
    (.leaf "RuleHandler" w.leaves.length,
      { w with leaves := w.leaves ++ [⟨name, rules.map fun r => (r, 0)⟩] })
  | .composite parts =>
    let (handlers, w) := makeHandlers w parts
    (.composite handlers, w)

/-- Makes handlers in order. -/
def makeHandlers (w : World) : List HandlerSpec → List Handler × World
  | [] => ([], w)
  | spec :: specs =>
    let (handler, w) := makeHandler w spec
    let (handlers, w) := makeHandlers w specs
    (handler :: handlers, w)

end

/-- Makes the slot of a handler. -/
def makeHandlerSlot (w : World) : Option HandlerSpec → Slot Handler × World
  | none => (.empty, w)
  | some spec =>
    let (handler, w) := w.makeHandler spec
    (.hook handler, w)

/-- Replaces the draws to come, if others are given. -/
def setRandom (w : World) : Option (List Float) → World
  | none => w
  | some draws => { w with random := draws }

/-- Makes the state of a policy. -/
def makePolicyState (w : World) : PolicySpec → Except Fault PolicyState
  | .constant parameters _ =>
    (Backoff.Constant.ofNamed parameters).map fun p => .library (.constant p)
  | .exponential parameters _ =>
    (Backoff.Exponential.ofNamed parameters w.clock).map fun p => .library (.exponential p)
  | .script codes millis actions _ => .ok (.script codes millis actions 0)

/-- The draws that come with a policy. -/
def randomOf : PolicySpec → Option (List Float)
  | .constant _ random => random
  | .exponential _ random => random
  | .script _ _ _ random => random

/-- Makes the slot of a policy; its draws must have been put in place. -/
def makePolicySlot (w : World) : Option PolicySpec → Except Fault (Slot Nat × World)
  | none => .ok (.empty, w)
  | some spec => do
    let state ← w.makePolicyState spec
    return (.hook w.policies.length, { w with policies := w.policies ++ [state] })

/-- Makes a callback, if one is given. -/
def makeCallback (w : World) : Option (List CallRule) → Option Nat × World
  | none => (none, w)
  | some rules =>
    (some w.callbacks.length, { w with callbacks := w.callbacks ++ [⟨rules, 0⟩] })

/-- Makes the slot of the callbacks. -/
def makeCallbacksSlot (w : World) : Option CallbacksSpec → Slot Callbacks × World
  | none => (.empty, w)
  | some (.mk onRequest onRetry onSuccess onFailure) =>
    let (a, w) := w.makeCallback onRequest
    let (b, w) := w.makeCallback onRetry
    let (c, w) := w.makeCallback onSuccess
    let (d, w) := w.makeCallback onFailure
    (.hook ⟨a, b, c, d⟩, w)

/-- Reads the names of fields of a new request; those that are no settings are left out. -/
def readNamed : List (String × Value) → Except Fault (List (Setting × Value))
  | [] => .ok []
  | (name, value) :: rest =>
    if ["self", "transport"].contains name then .error (.givenTwice .request name)
    else if ["method", "url", "content", "headers"].contains name then readNamed rest
    else do
      let settings ← Setting.readAll .request [(name, value)]
      let others ← readNamed rest
      return settings ++ others

/-- Makes a request.  Its hooks and its content are made before the names of its fields are
    checked. -/
def makeRequest (w : World) (spec : RequestSpec) : Except Fault (Request × World) := do
  let w := w.setRandom (spec.policy.join.bind randomOf)
  let (policy, w) ← w.makePolicySlot spec.policy.join
  let (handler, w) := w.makeHandlerSlot spec.handler.join
  let (callbacks, w) := w.makeCallbacksSlot spec.callbacks.join
  let (content, w) ← w.makeContent? spec.content.join
  let settings ← readNamed spec.named
  let method := (spec.method <|> spec.named.lookup "method").getD (.text "GET")
  let url := (spec.url <|> spec.named.lookup "url").getD (.text "")
  let method ← Request.readMethod method
  let r := Request.make method url content spec.headers
  let r ← r.assignAll (Setting.sort settings)
  let r := if spec.policy.isSome then { r with policy := policy } else r
  let r := if spec.handler.isSome then { r with handler := handler } else r
  let r := if spec.callbacks.isSome then { r with callbacks := callbacks } else r
  return (r, w)

end World

end Redial.Scenario
