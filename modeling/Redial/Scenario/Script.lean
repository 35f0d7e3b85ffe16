import Redial.Request

/-! # Scripts

    Descriptions of surroundings that behave as written down beforehand: what handlers,
    policies, callbacks and transports do when they are called, and the actions they
    take on the request. -/

namespace Redial

/-! ## Section 1: Names of faults -/

/-- The names under which scripts raise failures of the exchange. -/
def Fault.exchangeNames : List String := [
  "OSError", "ConnectionError", "ConnectionResetError", "ConnectionRefusedError",
  "ConnectionAbortedError", "BrokenPipeError", "TimeoutError", "FileNotFoundError",
  "PermissionError", "InterruptedError", "BlockingIOError",
  "TransportError", "TimeoutException", "ConnectTimeout", "ReadTimeout", "WriteTimeout",
  "PoolTimeout", "NetworkError", "ConnectError", "ReadError", "WriteError", "CloseError",
  "ProtocolError", "LocalProtocolError", "RemoteProtocolError", "ProxyError",
  "UnsupportedProtocol"]

/-- Whether a name is that of an exchange failure. -/
def Fault.isExchangeName (kind : String) : Bool := exchangeNames.contains kind

/-- The family of the class that scripts raise under a name. -/
def Family.ofName (kind : String) : Family :=
  if Fault.isExchangeName kind then .exchange
  else if kind = "AbortError" then .abort
  else .ordinary

/-- What scripts raise under a name. -/
def Fault.named (kind message : String) : Fault := .raised kind ⟨.ofName kind, message⟩

namespace Scenario

/-! ## Section 2: Parts of a script -/

/-- A content to be made. -/
inductive ContentSpec where
  | text (mediaType : Option String) (text : String)
  | data (mediaType : Option String) (data : List UInt8)
  | gzip (inner : ContentSpec)
  | logging (inner : ContentSpec) (limit : Value)
  /-- A body of the caller's: its chunks, the declared length, and which of its writes fail
      with which kind of fault. -/
  | chunks (mediaType : Option String) (chunks : List (List UInt8)) (length : Int)
    (failing : List Int) (kind : String)

mutual

/-- Something that is done to the request or to the surroundings. -/
inductive Action where
  /-- Assigns a field of the request by its name. -/
  | assign (name : String) (value : Value)
  | setHeader (name : String) (value : Value)
  | addHeader (name : String) (value : Value)
  | deleteHeader (name : String)
  | content (spec : Option ContentSpec)
  | handler (spec : Option HandlerSpec)
  | policy (spec : Option PolicySpec)
  | callbacks (spec : Option CallbacksSpec)
  | raise (kind message : String)
  /-- Sets the newest cancel event. -/
  | cancel
  /-- Cancels a future. -/
  | cancelFuture (index : Int)
  /-- Moves the clock, in seconds. -/
  | advance (seconds : Float)

/-- A rule of a handler: for which status codes, how often, what it does and answers. -/
inductive RuleSpec where
  | mk (statuses : Option (List Int)) (times : Option Int) (actions : List Action) (answer : Bool)

/-- A handler to be made. -/
inductive HandlerSpec where
  | rules (name : String) (rules : List RuleSpec)
  | composite (parts : List HandlerSpec)

/-- A policy to be made, of the library with parameters by their names, and the random draws
    that come with it. -/
inductive PolicySpec where
  | constant (parameters : List (String × Value)) (random : Option (List Float))
  | exponential (parameters : List (String × Value)) (random : Option (List Float))
  /-- A policy of the caller's: for which status codes it pauses, its pauses since the last
      reset, and what it does when it is asked. -/
  | script (codes : Option (List Int)) (millis : List Value) (actions : List Action)
    (random : Option (List Float))

/-- What one call of a callback does; for every call if no number is given. -/
inductive CallRule where
  | mk (call : Option Int) (actions : List Action)

/-- The callbacks to be made. -/
inductive CallbacksSpec where
  | mk (onRequest onRetry onSuccess onFailure : Option (List CallRule))

end

/-- What an exchange comes to. -/
inductive ExchangeResult where
  | respond (raw : RawResponse)
  | raise (kind message : String)

/-- One exchange: the seconds it takes, what is done meanwhile, and what it comes to. -/
structure ExchangeSpec where
  elapsed : Option Float
  actions : List Action
  result : ExchangeResult

/-- The kinds of transport. -/
inductive TransportKind where
  /-- Supports the methods it is given. -/
  | scripted
  /-- Supports the methods that every transport supports. -/
  | basic
  /-- Sends messages with a client. -/
  | client
  deriving DecidableEq

/-- A transport: its kind, its exchanges, of which the last repeats, the methods it
    supports, all if none are given, and whether it reads bodies. -/
structure TransportSpec where
  kind : TransportKind
  script : List ExchangeSpec
  supported : Option (List String)
  readsBody : Bool

/-- A cancel event: set from the beginning, or at a time. -/
structure SignalSpec where
  isSet : Bool
  setAt : Option Float

/-- A request to be made: what is given for each of its fields, perhaps nothing, and further
    fields by their names, of which those count that are not given otherwise. -/
structure RequestSpec where
  method : Option Value
  url : Option Value
  content : Option (Option ContentSpec)
  headers : Headers
  policy : Option (Option PolicySpec)
  handler : Option (Option HandlerSpec)
  callbacks : Option (Option CallbacksSpec)
  named : List (String × Value)

end Scenario

end Redial
