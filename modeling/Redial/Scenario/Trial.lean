import Redial.Factory
import Redial.Scenario.Session

/-! # Trials of single parts

    Steps on one part of the library at a time: a content that is written several times,
    a policy, a handler, pauses, redirects, actions, and shared settings. -/

namespace Redial.Scenario

/-! ## Section 1: Contents -/

/-- Makes a content and writes it a number of times; each time answers the bytes without
    compression. -/
def playWrites (debug : Bool) (spec : ContentSpec) (times : Nat) :
    Except Fault (Content × List (Outcome Note World (List UInt8))) := do
  let (c, w) ← (World.initial 0).makeContent spec
  let h := surroundings debug ⟨.scripted, [], none, true⟩ none
  let write (_ : Unit) : Hook World (List UInt8) := do
    let data ← Engine.writeContent h c
    return c.unpack Gzip.restore data
  let r := Request.make "GET" (.text "") none Headers.empty
  return (c, Run.trail write r w (List.replicate times ()))

/-! ## Section 2: Policies -/

/-- A step on a policy. -/
inductive PolicyStep where
  | next
  | required (codes : List Int)
  | reset
  | advance (seconds : Float)

/-- What such a step answers. -/
inductive PolicyReply where
  | done
  | millis (pause : Value)
  | flags (bs : List Bool)

/-- Asks a policy about several codes in order. -/
def requiredAll (id : Nat) : List Int → Hook World (List Bool)
  | [] => pure []
  | code :: codes => do
    let answer ← playRequired id code
    let answers ← requiredAll id codes
    return answer :: answers

/-- Takes a step on a policy. -/
def policyStep (debug : Bool) (id : Nat) : PolicyStep → Hook World PolicyReply
  | .next => do
    let pause ← playNext debug id
    return .millis pause
  | .required codes => do
    let answers ← requiredAll id codes
    return .flags answers
  | .reset => do
    playReset id
    return .done
  | .advance seconds => do
    changeWorld fun w => w.advance seconds
    return .done

/-- Makes a policy and takes steps on it; answers its state at the beginning, too. -/
def playPolicy (debug : Bool) (clock : Float) (spec : PolicySpec) (steps : List PolicyStep) :
    Except Fault (World × List (Outcome Note World PolicyReply)) := do
  let w := (World.initial clock).setRandom (World.randomOf spec)
  let (_, w) ← w.makePolicySlot (some spec)
  let r := Request.make "GET" (.text "") none Headers.empty
  return (w, Run.trail (policyStep debug 0) r w steps)

/-! ## Section 3: Handlers -/

/-- Makes a handler and a request, and asks the handler about responses that only have a
    status. -/
def playHandlerCalls (debug : Bool) (spec : HandlerSpec) (request : RequestSpec)
    (calls : List (Int × Bool)) :
    Except Fault (Request × List (Outcome Note World Bool)) := do
  let (r, w) ← (World.initial 0).makeRequest request
  let (handler, w) := w.makeHandler spec
  let h := surroundings debug ⟨.scripted, [], none, true⟩ none
  let ask (call : Int × Bool) : Hook World Bool :=
    Engine.ask h (Response.ofStatus call.1) call.2 handler
  return (r, Run.trail ask r w calls)

/-! ## Section 4: Pauses -/

/-- Pauses several times, perhaps with a cancel event. -/
def playPauses (debug : Bool) (clock : Float) (signal : Option SignalSpec)
    (pauses : List Value) : List (Outcome (Event Float) World Unit) :=
  let w := World.initial clock
  let (id, w) := match signal with
    | none => (none, w)
    | some spec =>
      let (id, w) := w.addSignal spec
      (some id, w)
  let h := surroundings debug ⟨.scripted, [], none, true⟩ id
  let r := Request.make "GET" (.text "") none Headers.empty
  let pause (millis : Value) : Run (Event Float) World Unit :=
    match millis.number? with
    | some n => Engine.pause h id.isSome n
    | none => Run.throw (.notDivisible millis.kindName)
  Run.trail pause r w pauses

/-! ## Section 5: Redirects -/

/-- Makes a request and shows it redirect responses. -/
def playRedirects (debug : Bool) (request : RequestSpec) (steps : List (Int × Headers)) :
    Except Fault (List (Outcome Note World Bool)) := do
  let (r, w) ← (World.initial 0).makeRequest request
  return Run.trail (fun s => followRedirect debug s.1 s.2) r w steps

/-! ## Section 6: Actions -/

/-- Makes a request and takes actions on it. -/
def playActions (request : RequestSpec) (actions : List Action) :
    Except Fault (Request × List (Outcome Note World Unit)) := do
  let (r, w) ← (World.initial 0).makeRequest request
  return (r, Run.trail act r w actions)

/-! ## Section 7: Shared settings -/

/-- Makes a request and applies shared settings to it; answers the request afterwards, too. -/
def playApply (c : Config) (request : RequestSpec) :
    Except Fault (Outcome Note World Unit) := do
  let (r, w) ← (World.initial 0).makeRequest request
  return c.apply r w

end Redial.Scenario
