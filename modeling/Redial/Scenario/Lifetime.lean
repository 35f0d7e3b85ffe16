import Redial.Client.Transport
import Redial.Scenario.Surroundings

/-! # The lifetime of a client, scripted

    Steps on a transport over a client that answers every message with the same success. -/

namespace Redial.Scenario

/-! ## Section 1: Steps -/

/-- A step on a transport over a client. -/
inductive ClientStep where
  | supports (methods : List String)
  /-- Makes a transmission without sending it. -/
  | build (method url : Value)
  | shutdown
  /-- Takes actions in a block at the end of which the transport is shut down. -/
  | block (actions : List Action)
  /-- Asks whether the client is the one that the caller gave. -/
  | client
  | send (method url : Value)

/-- What such a step answers. -/
inductive ClientReply where
  | done
  | flag (b : Bool)
  | flags (bs : List Bool)
  /-- A transmission for a method and a URL, and the length of its content. -/
  | built (method url : Value) (length : Int)
  | received (raw : RawResponse)

/-- A transport over a client, and the state of the surroundings. -/
structure ClientState where
  transport : Client.Transport
  world : World
  request : Request

/-- How a step on a transport over a client ended. -/
structure ClientOutcome where
  result : Except Fault ClientReply
  closed : Bool
  notes : List Note

/-- A transmission without lines and content. -/
def bare (method : String) (url : Value) : Staged := ⟨method, url, [], none⟩

/-- What a shutdown reports. -/
def shutdownNotes (debug : Bool) (t : Client.Transport) : List Note :=
  if debug && t.closes then [.log .client "Closing owned httpx client"] else []

/-- Sends a transmission with the client, whose URL and method are read before the client is
    asked. -/
def sendByClient (t : Client.Transport) (method url : Value) : Hook World RawResponse := do
  let u ← Run.lift (Client.target url)
  let method ← Run.lift (Request.readMethod method)
  Run.lift (Client.checkHost u [])
  Run.lift t.checkOpen
  exchangeByClient [] (bare (Text.upper method) url) []

/-! ## Section 2: Playing them -/

/-- Runs a hook on the state. -/
def ClientState.play (s : ClientState) (x : Hook World ClientReply) :
    Outcome Note World ClientReply := x s.request s.world

/-- Takes a step. -/
def clientStep (debug : Bool) (s : ClientState) : ClientStep → ClientOutcome × ClientState
  | .supports methods =>
    (⟨.ok (.flags (methods.map Client.Transport.supports)), s.transport.closed, []⟩, s)
  | .build method url => (⟨.ok (.built method url 0), s.transport.closed, []⟩, s)
  | .shutdown =>
    let t := s.transport.shutdown
    (⟨.ok .done, t.closed, shutdownNotes debug s.transport⟩, { s with transport := t })
  | .block actions =>
    let o := s.play do
      actAll actions
      return .flag true
    -- the transport is shut down however the actions ended
    let t := s.transport.shutdown
    (⟨o.result, t.closed, o.events ++ shutdownNotes debug s.transport⟩,
      ⟨t, o.state, o.request⟩)
  | .client => (⟨.ok (.flag (!s.transport.owned)), s.transport.closed, []⟩, s)
  | .send method url =>
    let o := s.play do
      let raw ← sendByClient s.transport method url
      return .received raw
    (⟨o.result, s.transport.closed, o.events⟩, ⟨s.transport, o.state, o.request⟩)

/-- Takes steps one after the other. -/
def clientSteps (debug : Bool) (s : ClientState) : List ClientStep → List ClientOutcome
  | [] => []
  | step :: rest =>
    let (o, s) := clientStep debug s step
    o :: clientSteps debug s rest

/-- Opens a transport and takes steps on it. -/
def playLifetime (debug : Bool) (clock : Float) (owned : Bool) (timeout : Option Value)
    (steps : List ClientStep) : Except Fault (List ClientOutcome) := do
  let t ← Client.Transport.start owned timeout
  let r := Request.make "GET" (.text "") none Headers.empty
  return clientSteps debug ⟨t, World.initial clock, r⟩ steps

end Redial.Scenario
