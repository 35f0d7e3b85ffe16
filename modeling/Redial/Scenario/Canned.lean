import Redial.Engine.Execution
import Redial.Factory
import Redial.Scenario.Session

/-! # Canned transports

    A transport that keeps every transmission it builds and answers each with the same
    response.  With a shared transmission every building gives that one again, emptied;
    its count of sendings goes on. -/

namespace Redial.Scenario

/-! ## Section 1: Transports -/

/-- A canned transport: the methods it supports, all if none are given, whether its
    transmissions are one, and the response. -/
structure CannedTransport where
  supported : Option (List String)
  shared : Bool
  response : RawResponse

/-- One step of setting up a response. -/
inductive ResponseEdit where
  | header (name value : String)
  | text (text : String)
  | data (data : List UInt8)
  | mediaType (mediaType : String)

/-- Applies a step to a response. -/
def ResponseEdit.apply (raw : RawResponse) : ResponseEdit → RawResponse
  | .header name value => { raw with headers := raw.headers ++ [(name, value)] }
  | .text t => { raw with body := encodeUtf8 t }
  | .data bytes => { raw with body := bytes }
  | .mediaType t => { raw with headers := raw.headers ++ [("Content-Type", t)] }

/-- An empty response with a status, set up step by step. -/
def cannedResponse (status : Int) (edits : List ResponseEdit) : RawResponse :=
  edits.foldl ResponseEdit.apply ⟨status, "", [], []⟩

namespace CannedTransport

/-- Whether the transport supports a method. -/
def supports (t : CannedTransport) (method : String) : Bool :=
  TransportSpec.supports ⟨.scripted, [], t.supported, false⟩ method

/-- Builds a transmission. -/
def build (t : CannedTransport) (method url : Value) (w : World) : World :=
  let fresh : BuiltRequest := ⟨method, url, [], none, 0⟩
  match t.shared, w.transmissions with
  | true, old :: _ =>
    -- the shared transmission is emptied, but its sendings stay counted
    { w with
      transmissions := [{ fresh with sent := old.sent }]
      built := w.built ++ [0] }
  | _, _ =>
    { w with
      transmissions := w.transmissions ++ [fresh]
      built := w.built ++ [w.transmissions.length] }

/-- Fills the newest transmission. -/
def fill (s : Staged) (w : World) : World :=
  { w with
    transmissions := w.transmissions.modify (w.transmissions.length - 1) fun b =>
      { b with headers := s.headers, content := s.content } }

/-- Counts a sending of the transmission with a number. -/
def countSent (id : Nat) (w : World) : World :=
  { w with transmissions := w.transmissions.modify id fun b => { b with sent := b.sent + 1 } }

/-- The hooks of an execution over the transport. -/
def hooks (t : CannedTransport) : Hooks Float World :=
  { surroundings false ⟨.scripted, [], t.supported, false⟩ none with
    supports := t.supports
    transportName := "MockHttpTransport"
    announce := fun s => changeWorld fun w => fill s (t.build (.text s.method) s.url w)
    readsBody := false
    exchange := fun _ _ => do
      changeWorld fun w => countSent (w.transmissions.length - 1) w
      return t.response }

end CannedTransport

/-! ## Section 2: Steps -/

/-- A step on a canned transport. -/
inductive CannedStep where
  | supports (methods : List String)
  | build (method url : Value)
  /-- Makes a request and executes it. -/
  | engine (method url : Value) (content : Option ContentSpec)
  | shutdown
  | header (index : Int) (name value : String)
  | content (index : Int) (spec : Option ContentSpec)
  | values (index : Int) (name : String)
  | first (index : Int) (name : String)
  | send (index : Int)
  /-- Writes the content of a transmission. -/
  | body (index : Int)

/-- What such a step answers. -/
inductive CannedReply where
  | done
  | flags (bs : List Bool)
  | response (r : Response)
  | texts (ts : List String)
  | text (t : Option String)
  | received (raw : RawResponse)
  | written (body : List UInt8)
  | unfinished

/-- What a canned transport shows of a transmission. -/
def BuiltRequest.staged (b : BuiltRequest) : Staged :=
  ⟨b.method.plain, b.url, b.headers, b.content⟩

/-- The transmission that a building gave. -/
def World.builtAt (w : World) (index : Int) : Except Fault (Nat × BuiltRequest) :=
  match itemAt? w.built index with
  | none => .error .noSuchIndex
  | some id =>
    match w.transmissions[id]? with
    | none => .error .noSuchIndex
    | some b => .ok (id, b)

/-- Every building's transmission as it is now. -/
def World.builtAll (w : World) : List BuiltRequest :=
  w.built.filterMap fun id => w.transmissions[id]?

/-- Changes the transmission that a building gave. -/
def changeBuilt (index : Int) (f : BuiltRequest → BuiltRequest) : Hook World Unit := do
  let w ← Run.state
  let (id, _) ← Run.lift (w.builtAt index)
  Run.setState { w with transmissions := w.transmissions.modify id f }

/-- Makes a content and a request for it, and executes the request. -/
def playEngine (t : CannedTransport) (method url : Value) (spec : Option ContentSpec) :
    Run (Event Float) World CannedReply := do
  let w ← Run.state
  let (content, w) ← Run.lift (w.makeContent? spec)
  Run.setState w
  let method ← Run.lift (Request.readMethod method)
  Run.ofHook (Factory.build ⟨none⟩ method url content)
  match ← Engine.execute t.hooks false attemptLimit with
  | some response => return .response response
  | none => return .unfinished

/-- Takes a step. -/
def cannedStep (t : CannedTransport) : CannedStep → Run (Event Float) World CannedReply
  | .supports methods => return .flags (methods.map t.supports)
  | .build method url => do
    Run.ofHook (changeWorld (t.build method url))
    return .done
  | .engine method url spec => playEngine t method url spec
  | .shutdown => return .done
  | .header index name value => do
    Run.ofHook (changeBuilt index fun b => { b with headers := b.headers ++ [(name, value)] })
    return .done
  | .content index spec => do
    let w ← Run.state
    let (content, w) ← Run.lift (w.makeContent? spec)
    Run.setState w
    Run.ofHook (changeBuilt index fun b => { b with content := content })
    return .done
  | .values index name => do
    let w ← Run.state
    let (_, b) ← Run.lift (w.builtAt index)
    return .texts (b.staged.texts name)
  | .first index name => do
    let w ← Run.state
    let (_, b) ← Run.lift (w.builtAt index)
    return .text (b.staged.texts name).head?
  | .send index => do
    let w ← Run.state
    let (id, _) ← Run.lift (w.builtAt index)
    Run.setState (CannedTransport.countSent id w)
    return .received t.response
  | .body index => do
    let w ← Run.state
    let (_, b) ← Run.lift (w.builtAt index)
    match b.content with
    | none => return .written []
    | some c =>
      let data ← Run.ofHook (Engine.writeContent t.hooks c)
      return .written (c.unpack Gzip.restore data)

/-- Takes steps on a canned transport. -/
def playCanned (clock : Float) (t : CannedTransport) (steps : List CannedStep) :
    List (Outcome (Event Float) World CannedReply) :=
  Run.trail (cannedStep t) (Request.make "GET" (.text "") none Headers.empty) (World.initial clock) steps

end Redial.Scenario
