import Redial.Body.Gzip
import Redial.Client.Message
import Redial.Scenario.World

/-! # How scripted surroundings behave

    Each call into the surroundings plays the next part of its script and takes the
    actions written there. -/

namespace Redial.Scenario

/-! ## Section 1: Actions -/

/-- Replaces the request by a checked one. -/
def changeRequest (f : Request → Except Fault Request) : Hook World Unit := do
  let r ← Run.request
  let r ← Run.lift (f r)
  Run.setRequest r

/-- Changes the state. -/
def changeWorld (f : World → World) : Hook World Unit := do
  let w ← Run.state
  Run.setState (f w)

/-- Assigns the method, the URL, an absent content, what stands for the transport, or a
    setting; other names have no meaning to the engine. -/
def assignNamed (r : Request) (name : String) (value : Value) : Except Fault Request :=
  match name, value with
  | "method", v => (Request.readMethod v).map r.setMethod
  | "url", v => .ok { r with url := v }
  | "transport", v => .ok { r with replacement := some v }
  | "content", .nothing => .ok { r with content := none }
  | _, v =>
    match Setting.ofName? name with
    | some s => r.assign s v
    | none => .ok r

/-- Removes a header that must be stored. -/
def deleteStored (r : Request) (name : String) : Except Fault Request :=
  if r.headers.contains name then .ok { r with headers := r.headers.erase name }
  else .error (.missingHeader (Text.lower name))

/-- Takes an action. -/
def act : Action → Hook World Unit
  | .assign name value => changeRequest fun r => assignNamed r name value
  | .setHeader name value =>
    changeRequest fun r => .ok { r with headers := r.headers.set name value }
  | .addHeader name value =>
    changeRequest fun r => .ok { r with headers := r.headers.add name value }
  | .deleteHeader name => changeRequest fun r => deleteStored r name
  | .content spec => do
    let w ← Run.state
    let (content, w) ← Run.lift (w.makeContent? spec)
    Run.setState w
    changeRequest fun r => .ok { r with content := content }
  | .handler spec => do
    let w ← Run.state
    let (slot, w) := w.makeHandlerSlot spec
    Run.setState w
    changeRequest fun r => .ok { r with handler := slot }
  | .policy spec => do
    -- the draws of a policy are in place even if the policy cannot be made
    changeWorld fun w => w.setRandom (spec.bind World.randomOf)
    let w ← Run.state
    let (slot, w) ← Run.lift (w.makePolicySlot spec)
    Run.setState w
    changeRequest fun r => .ok { r with policy := slot }
  | .callbacks spec => do
    let w ← Run.state
    let (slot, w) := w.makeCallbacksSlot spec
    Run.setState w
    changeRequest fun r => .ok { r with callbacks := slot }
  | .raise kind message => Run.throw (.named kind message)
  | .cancel => changeWorld World.setNewestSignal
  | .cancelFuture index => do
    let w ← Run.state
    let (answer, w) ← Run.lift (w.cancelFuture index)
    Run.setState w
    Run.emit (.seen (.cancelAnswered answer))
  | .advance seconds => changeWorld fun w => w.advance seconds

/-- Takes actions in order. -/
def actAll : List Action → Hook World Unit
  | [] => pure ()
  | a :: rest => do
    act a
    actAll rest

/-! ## Section 2: Handlers -/

/-- Whether a rule that has been used a number of times applies to a status. -/
def RuleSpec.applies (status : Int) (used : Nat) : RuleSpec → Bool
  | .mk statuses times _ _ =>
    (match statuses with
      | none => true
      | some codes => codes.contains status)
    && match times with
      | none => true
      | some n => (used : Int) < n

/-- The position of the first rule that applies. -/
def firstRule? (status : Int) (rules : List (RuleSpec × Nat)) : Option Nat :=
  rules.findIdx? fun r => r.1.applies status r.2

/-- Plays a handler of rules. -/
def playHandler (id : Nat) (response : Response) (supportsRetry : Bool) : Hook World Bool := do
  let w ← Run.state
  let r ← Run.request
  match w.leaves[id]? with
  | none => return false
  | some leaf =>
    Run.emit (.seen (.asked leaf.name response.status supportsRetry r.retries))
    match firstRule? response.status leaf.rules with
    | none => return false
    | some i =>
      match leaf.rules[i]? with
      | none => return false
      | some (.mk statuses times actions answer, used) =>
        let rules := leaf.rules.set i (.mk statuses times actions answer, used + 1)
        Run.setState { w with leaves := w.leaves.set id { leaf with rules := rules } }
        actAll actions
        return answer

/-! ## Section 3: Policies -/

/-- Replaces the state of a policy. -/
def setPolicy (w : World) (id : Nat) (p : PolicyState) : World :=
  { w with policies := w.policies.set id p }

/-- Resets a policy. -/
def playReset (id : Nat) : Hook World Unit := do
  let w ← Run.state
  match w.policies[id]? with
  | none => return ()
  | some (.library p) => Run.setState (setPolicy w id (.library (p.reset w.clock)))
  | some (.script codes millis actions _) =>
    Run.setState (setPolicy w id (.script codes millis actions 0))

/-- Asks a policy whether a status requires a pause.  A script takes its actions first, and
    without codes pauses for every server error. -/
def playRequired (id : Nat) (status : Int) : Hook World Bool := do
  let w ← Run.state
  match w.policies[id]? with
  | none => return false
  | some (.library p) => Run.lift (p.requires status)
  | some (.script codes _ actions _) =>
    actAll actions
    match codes with
    | some codes => return codes.contains status
    | none => return Status.serverError ≤ status

/-- Asks a policy of the library for a pause. -/
def playLibrary (debug : Bool) (id : Nat) (p : Backoff.Policy Float) :
    Hook World (Number Float) := do
  let w ← Run.state
  let answer := p.answer w.clock w.draw
  let w := setPolicy w id (.library answer.policy)
  Run.setState (if answer.drew then w.dropDraw else w)
  match answer.line with
  | some line => Run.log debug .exponential line
  | none => pure ()
  Run.lift (answer.millis.mapError .arithmetic)

/-- Asks a policy for a pause.  A script that has come to its end refuses. -/
def playNext (debug : Bool) (id : Nat) : Hook World Value := do
  let w ← Run.state
  match w.policies[id]? with
  | none => return .number Backoff.stop
  | some (.library p) => return .number (← playLibrary debug id p)
  | some (.script codes millis actions asked) =>
    Run.setState (setPolicy w id (.script codes millis actions (asked + 1)))
    return (millis[asked]?).getD (.number Backoff.stop)

/-- A pause in milliseconds.  A value that is no number is answered all the same, and fails
    where the pause is turned into seconds. -/
def readPause (millis : Value) : Hook World (Number Float) :=
  match millis.number? with
  | some n => return n
  | none => do
    Run.emit (.seen (.pauseAnswered millis))
    Run.throw (.notDivisible millis.kindName)

/-- Asks a policy for a pause that can be made. -/
def playPause (debug : Bool) (id : Nat) : Hook World (Number Float) := do
  let millis ← playNext debug id
  readPause millis

/-! ## Section 4: Callbacks -/

/-- The actions of a rule for a call. -/
def CallRule.actionsFor (call : Nat) : CallRule → List Action
  | .mk none actions => actions
  | .mk (some n) actions => if n = call then actions else []

/-- Plays a callback. -/
def playCallback (id : Nat) : Hook World Unit := do
  let w ← Run.state
  match w.callbacks[id]? with
  | none => return ()
  | some c =>
    Run.setState { w with callbacks := w.callbacks.set id { c with calls := c.calls + 1 } }
    actAll (c.rules.flatMap (CallRule.actionsFor (c.calls + 1)))

/-! ## Section 5: Bodies -/

/-- Writes a body of the caller's. -/
def playSource (id : Nat) : Hook World (List UInt8) := do
  let w ← Run.state
  match w.sources[id]? with
  | none => return []
  | some s =>
    let n := s.writes + 1
    Run.setState { w with sources := w.sources.set id { s with writes := n } }
    if s.failing.contains (n : Int) then
      Run.throw (.named s.kind ("write " ++ toString n ++ " failed"))
    return s.chunks.flatten

/-! ## Section 6: Exchanges -/

/-- The exchange that is made if none is written down. -/
def defaultExchange : ExchangeSpec := ⟨none, [], .respond ⟨200, "", [], []⟩⟩

/-- The exchange at a position; the last repeats. -/
def exchangeAt (script : List ExchangeSpec) (n : Nat) : ExchangeSpec :=
  (script[min n (script.length - 1)]?).getD defaultExchange

/-- Plays the next exchange. -/
def playExchange (script : List ExchangeSpec) : Hook World RawResponse := do
  let w ← Run.state
  let e := exchangeAt script w.exchanges
  let w := { w with exchanges := w.exchanges + 1 }
  Run.setState (match e.elapsed with
    | some seconds => w.advance seconds
    | none => w)
  actAll e.actions
  match e.result with
  | .respond raw => return raw
  | .raise kind message => Run.throw (.named kind message)

/-! ## Section 7: Transports -/

/-- A transport reports that it is given a transmission. -/
def announceStaged (s : Staged) : Hook World Unit := Run.emit (.seen (.sent s))

/-- A transport reports the body it has read, without compression. -/
def reportBody (s : Staged) (body : List UInt8) : Hook World Unit :=
  Run.emit (.seen (.bodyRead (match s.content with
    | none => body
    | some c => c.unpack Gzip.restore body)))

/-- The body as the other side sees it: uncompressed if the lines say so. -/
def seenBody (lines : List (String × String)) (body : List UInt8) : List UInt8 :=
  let codings := (lines.filter fun l => l.1 == "content-encoding").map Prod.snd
  if codings = ["gzip"] then Gzip.restore body else body

/-- The lines as the other side sees them: without the length of a body that has a coding. -/
def seenLines (lines : List (String × String)) : List (String × String) :=
  if lines.any fun l => l.1 == "content-encoding" then
    lines.filter fun l => l.1 != "content-length"
  else lines

/-- Sends a message with a client and plays the next exchange.  The client gives the
    standard phrase of a status, lower-cases the names of lines, and reads the location of a
    redirect. -/
def exchangeByClient (script : List ExchangeSpec) (s : Staged) (body : List UInt8) :
    Hook World RawResponse := do
  -- the URL is read before the lines are checked, and both before anything is on the wire
  let u ← Run.lift (Client.target s.url)
  let given := Client.requestLines s
  Run.lift (Client.checkLines given)
  Run.lift (Client.checkHost u given)
  Run.lift (Client.checkName u)
  let lines := Client.wireLines s.method u given body
  Run.emit (.seen (.wired s.method (String.ofList u.chars) (seenLines lines)
    (seenBody lines body)))
  let raw ← playExchange script
  Run.lift (Client.checkType u)
  match Client.location? raw.headers with
  | some location =>
    if Status.isRedirect raw.status then Run.lift (Client.checkLocation u location)
  | none => pure ()
  return { raw with
    reason := Status.phrase raw.status
    headers := raw.headers.map fun l => (Client.receivedName l.1, l.2) }

end Redial.Scenario
