import Redial.Body.Content
import Redial.Fault

/-! # Requests

    A request with its settings.  The retry budget and the logging limit may not be
    negative; assigning them is checked, all else is taken as given.  Flags are open
    values of which only the truth counts. -/

namespace Redial

/-! ## Section 1: Methods -/

/-- The methods that every transport supports. -/
def basicMethods : List String := ["GET", "PUT", "POST", "DELETE"]

/-- The methods that the engine knows. -/
def knownMethods : List String := basicMethods ++ ["HEAD", "PATCH"]

/-- The known methods that a transport may lack. -/
def optionalMethods : List String := ["HEAD", "PATCH"]

/-! ## Section 2: Hooks -/

/-- The place of a hook: empty, taken by a hook, or by a value that is none. -/
inductive Slot (α : Type) where
  | empty
  | hook (a : α)
  | other (v : Value)

/-- A slot that is given a value: nothing empties it. -/
def Slot.ofValue {α : Type} : Value → Slot α
  | .nothing => .empty
  | v => .other v

/-- A handler of unsuccessful responses: one of the caller's, known by its number and the
    name of its kind, or several that are asked in order. -/
inductive Handler where
  | leaf (kind : String) (id : Nat)
  | composite (parts : List Handler)

/-- The name of the kind of a handler. -/
def Handler.kind : Handler → String
  | leaf kind _ => kind
  | composite _ => "CompositeUnsuccessfulResponseHandler"

/-- The callbacks of a request, each known by its number. -/
structure Callbacks where
  onRequest : Option Nat
  onRetry : Option Nat
  onSuccess : Option Nat
  onFailure : Option Nat
  deriving DecidableEq

/-- No callback at all. -/
def Callbacks.none : Callbacks := ⟨.none, .none, .none, .none⟩

/-! ## Section 3: Settings -/

/-- The names of the settings. -/
inductive Setting where
  | retries | policy | handler | followRedirects | retryOnFailure | raiseOnError
  | suppressSuffix | compress | loggingLimit | logging | callbacks
  deriving DecidableEq

namespace Setting

/-- How a setting is written. -/
def name : Setting → String
  | retries => "number_of_retries"
  | policy => "backoff_policy"
  | handler => "unsuccessful_response_handler"
  | followRedirects => "follow_redirects"
  | retryOnFailure => "retry_on_execute_io_exception"
  | raiseOnError => "throw_exception_on_execute_error"
  | suppressSuffix => "suppress_user_agent_suffix"
  | compress => "enable_gzip_content"
  | loggingLimit => "content_logging_limit"
  | logging => "logging_enabled"
  | callbacks => "callbacks"

/-- Every setting, in the order in which settings are applied. -/
def all : List Setting := [
  retries, policy, handler, followRedirects, retryOnFailure, raiseOnError, suppressSuffix,
  compress, loggingLimit, logging, callbacks]

/-- The setting with a name. -/
def ofName? (name : String) : Option Setting := all.find? fun s => s.name == name

/-- Reads the names of settings; the first unknown name is reported. -/
def readAll (made : Configured) : List (String × Value) → Except Fault (List (Setting × Value))
  | [] => .ok []
  | (name, value) :: rest =>
    match ofName? name with
    | none => .error (.unknownSetting made name)
    | some s => (readAll made rest).map ((s, value) :: ·)

/-- Settings in the order in which they are applied. -/
def sort (given : List (Setting × Value)) : List (Setting × Value) :=
  all.filterMap fun s => given.find? fun p => p.1 == s

end Setting

/-- The settings of a request. -/
structure Settings where
  /-- The retry budget, shared by every trigger of a retry. -/
  retries : Number Float
  /-- The backoff policy, known by its number. -/
  policy : Slot Nat
  handler : Slot Handler
  followRedirects : Value
  retryOnFailure : Value
  /-- Whether an unsuccessful final response is raised as an error. -/
  raiseOnError : Value
  suppressSuffix : Value
  compress : Value
  /-- How many bytes of the body are logged. -/
  loggingLimit : Number Float
  logging : Value
  callbacks : Slot Callbacks

/-- The retry budget that is assumed. -/
def defaultRetries : Int := 10

/-- The logging limit that is assumed. -/
def defaultLoggingLimit : Int := 16384

/-- The settings that are assumed. -/
def Settings.default : Settings where
  retries := .whole defaultRetries
  policy := .empty
  handler := .empty
  followRedirects := .bool true
  retryOnFailure := .bool false
  raiseOnError := .bool true
  suppressSuffix := .bool false
  compress := .bool false
  loggingLimit := .whole defaultLoggingLimit
  logging := .bool true
  callbacks := .empty

/-- Checks a number that may not be negative. -/
def checkNonNegative (name : String) (v : Value) : Except Fault (Number Float) :=
  match v.number? with
  | some n => if n.isNegative then .error (.belowZero name n.text) else .ok n
  | none => .error (.notOrdered "<" v.kindName "int")

/-- Checks a timeout: a number must be positive, anything else is taken as it is. -/
def checkTimeout (v : Value) : Except Fault Unit :=
  match v.number? with
  | some n => if n.le (.whole 0) then .error (.notAboveZero "timeout" n.text) else .ok ()
  | none => .ok ()

/-! ## Section 4: Requests -/

/-- A request: where it goes, what it carries, and how it is executed. -/
structure Request extends Settings where
  method : String
  /-- A text, unless something else was assigned. -/
  url : Value
  content : Option Content
  headers : Headers
  /-- What was assigned in place of the transport, which can only fail. -/
  replacement : Option Value

namespace Request

/-- A request with the assumed settings. -/
def make (method : String) (url : Value) (content : Option Content) (headers : Headers) :
    Request where
  toSettings := .default
  method := Text.upper method
  url := url
  content := content
  headers := headers
  replacement := none

/-- What is given as a method must be a text. -/
def readMethod : Value → Except Fault String
  | .text method => .ok method
  | v => .error (.notAHook v.kindName "upper")

/-- Assigns the method, in upper case. -/
def setMethod (r : Request) (method : String) : Request := { r with method := Text.upper method }

/-- Assigns the retry budget; a negative one is refused. -/
def setRetries (r : Request) (value : Value) : Except Fault Request := do
  let n ← checkNonNegative Setting.retries.name value
  return { r with retries := n }

/-- Assigns the logging limit; a negative one is refused. -/
def setLoggingLimit (r : Request) (value : Value) : Except Fault Request := do
  let n ← checkNonNegative Setting.loggingLimit.name value
  return { r with loggingLimit := n }

/-- Assigns a setting. -/
def assign (r : Request) (s : Setting) (value : Value) : Except Fault Request :=
  match s with
  | .retries => r.setRetries value
  | .policy => .ok { r with policy := .ofValue value }
  | .handler => .ok { r with handler := .ofValue value }
  | .followRedirects => .ok { r with followRedirects := value }
  | .retryOnFailure => .ok { r with retryOnFailure := value }
  | .raiseOnError => .ok { r with raiseOnError := value }
  | .suppressSuffix => .ok { r with suppressSuffix := value }
  | .compress => .ok { r with compress := value }
  | .loggingLimit => r.setLoggingLimit value
  | .logging => .ok { r with logging := value }
  | .callbacks => .ok { r with callbacks := .ofValue value }

/-- Assigns settings one after the other, up to the first that is refused. -/
def assignAll (r : Request) : List (Setting × Value) → Except Fault Request
  | [] => .ok r
  | (s, value) :: rest => do
    let r ← r.assign s value
    r.assignAll rest

/-- The listing of a request. -/
def listing (r : Request) : String :=
  "HttpRequest(method=" ++ Text.quoted r.method ++ ", url=" ++ r.url.listed ++ ")"

end Request

end Redial
