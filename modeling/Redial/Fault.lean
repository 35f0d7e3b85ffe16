import Redial.Response
import Redial.Url.Basic

/-! # Faults

    Everything that can end a call other than by returning, as causes with their
    messages.  Two classes matter to the engine: failures of the exchange itself, which
    may be retried, and faults outside the ordinary kinds, which a task passes on to its
    runner. -/

namespace Redial

/-! ## Section 1: Parts of faults -/

/-- Why the parameters of a backoff policy are refused; each carries the offending number. -/
inductive ParameterFault where
  | delayNegative (got : String)
  | quotaNegative (got : String)
  | initialNotPositive (got : String)
  | factorOutside (got : String)
  | multiplierBelowOne (got : String)
  | capBelowInitial (initial got : String)
  | limitNotPositive (got : String)
  deriving DecidableEq

/-- The message of a refused parameter. -/
def ParameterFault.message : ParameterFault → String
  | delayNegative got => "delay_millis must be non-negative, got " ++ got
  | quotaNegative got => "max_attempts must be non-negative if specified, got " ++ got
  | initialNotPositive got => "initial_interval_millis must be positive, got " ++ got
  | factorOutside got => "randomization_factor must be in [0, 1), got " ++ got
  | multiplierBelowOne got => "multiplier must be >= 1, got " ++ got
  | capBelowInitial initial got =>
    "max_interval_millis must be >= initial_interval_millis (" ++ initial ++ "), got " ++ got
  | limitNotPositive got => "max_elapsed_time_millis must be positive, got " ++ got

/-- What is made with named settings. -/
inductive Configured where
  | request
  | config
  | constantPolicy
  | exponentialPolicy
  deriving DecidableEq

/-- How messages name it. -/
def Configured.name : Configured → String
  | request => "HttpRequest"
  | config => "RequestConfig"
  | constantPolicy => "ConstantBackOffPolicy"
  | exponentialPolicy => "ExponentialBackOffPolicy"

/-! ## Section 2: Families of faults -/

/-- The family that the class of a raised fault belongs to, through all its ancestors.  No
    class belongs to two of them. -/
inductive Family where
  /-- Failures of the exchange: those of the operating system and those of the transport. -/
  | exchange
  /-- All other ordinary kinds. -/
  | ordinary
  /-- What lies outside the ordinary kinds. -/
  | abort
  deriving DecidableEq

/-- What the surroundings raise: the family of its class, and a message. -/
structure Raised where
  family : Family
  message : String
  deriving DecidableEq

/-! ## Section 3: Causes -/

/-- The cause of a failed call. -/
inductive Fault where
  /-- Raised by the surroundings, by a class of this name. -/
  | raised (kind : String) (what : Raised)
  | belowZero (name got : String)
  | notAboveZero (name got : String)
  /-- Values of these kinds cannot be compared. -/
  | notOrdered (relation left right : String)
  /-- A limit that is no integer cannot cut a body. -/
  | notAnIndex
  | parameter (f : ParameterFault)
  | unknownMethod (method : String)
  | unsupportedMethod (method transport : String)
  /-- Cancelled at the start of an attempt. -/
  | cancelled (method : String) (url : Value)
  /-- Cancelled during the pause before a retry. -/
  | cancelledWaiting
  | arithmetic (f : ArithFault)
  | charset (f : CharsetFault)
  | url (f : UrlFault)
  /-- The client cannot read the location of a redirect response. -/
  | badLocation (f : UrlFault)
  /-- The run ended with this unsuccessful response. -/
  | response (e : ResponseError)
  /-- What was being made has no setting of this name. -/
  | unknownSetting (made : Configured) (name : String)
  /-- A setting is given that is fixed already. -/
  | givenTwice (made : Configured) (name : String)
  /-- What stands in place of a URL is no text. -/
  | notAUrl (v : Value)
  /-- No header is stored under this key. -/
  | missingHeader (key : String)
  /-- A task was started in a state in which it cannot start. -/
  | unexpectedState
  /-- A future was given a result in a state in which it cannot take one. -/
  | alreadyResolved
  /-- The result of a future was asked for before it was there. -/
  | stillPending
  /-- The result of a cancelled future was asked for. -/
  | futureCancelled
  /-- There is nothing at a place in a list. -/
  | noSuchIndex
  | runnerClosed
  | clientClosed
  /-- The client cannot tell the type of a URL without a scheme. -/
  | untyped (target : String)
  /-- A timeout in parts lacks one that must be there. -/
  | shortTimeout
  /-- A text that cannot be sent: its first run of characters beyond ASCII, and where it is. -/
  | notAscii (run : List Char) (position : Nat)
  /-- Only small numbers are looked for in a byte string. -/
  | notAByte
  /-- Only texts are looked for in a text. -/
  | notInText
  /-- A value of this kind has no items to look through. -/
  | noItems (kind : String)
  /-- A value of this kind cannot be listed. -/
  | notListed (kind : String)
  /-- A number is wanted for a division. -/
  | notDivisible (kind : String)
  /-- An operation was called without these arguments. -/
  | missingArguments (call : String) (names : List String)
  /-- An operation takes at least and at most so many arguments, and was given more. -/
  | tooManyArguments (call : String) (least most given : Nat)
  /-- A value in place of a hook lacks what the engine asks of it. -/
  | notAHook (kind wanted : String)

/-! ## Section 4: Messages -/

namespace Fault

/-- The message about a run of characters beyond ASCII. -/
def notAsciiMessage (run : List Char) (position : Nat) : String :=
  let what := match run with
    | [c] =>
      "character '" ++ String.ofList (Text.numericEscape c.toNat) ++ "' in position "
        ++ toString position
    | _ =>
      "characters in position " ++ toString position ++ "-"
        ++ toString (position + run.length - 1)
  "'ascii' codec can't encode " ++ what ++ ": ordinal not in range(128)"

/-- The message about missing arguments. -/
def missingMessage (call : String) (names : List String) : String :=
  let quoted := names.map fun name => "'" ++ name ++ "'"
  call ++ "() missing " ++ toString names.length ++ " required positional argument"
    ++ (if names.length = 1 then "" else "s") ++ ": " ++ " and ".intercalate quoted

/-- The message about more arguments than an operation takes; the object it belongs to is
    counted, too. -/
def tooManyMessage (call : String) (least most given : Nat) : String :=
  let takes :=
    if least = most then toString (most + 1)
    else "from " ++ toString (least + 1) ++ " to " ++ toString (most + 1)
  call ++ "() takes " ++ takes ++ " positional arguments but " ++ toString (given + 1)
    ++ " were given"

/-- The message of a fault. -/
def message : Fault → String
  | raised _ what => what.message
  | belowZero name got => name ++ " must be >= 0, got " ++ got
  | notAboveZero name got => name ++ " must be > 0, got " ++ got
  | notOrdered relation left right =>
    "'" ++ relation ++ "' not supported between instances of '" ++ left ++ "' and '" ++ right ++ "'"
  | notAnIndex => "slice indices must be integers or None or have an __index__ method"
  | parameter f => f.message
  | unknownMethod method => "Unknown HTTP method: " ++ method
  | unsupportedMethod method transport => method ++ " is not supported by " ++ transport
  | cancelled method target => method ++ " request to " ++ target.plain ++ " cancelled"
  | cancelledWaiting => "execution cancelled while waiting to retry"
  | arithmetic f => f.message
  | charset f => f.message
  | url f => f.message
  | badLocation f => "Invalid URL in location header: " ++ f.message ++ "."
  | response e => e.message
  | unknownSetting made name =>
    made.name ++ ".__init__() got an unexpected keyword argument '" ++ name ++ "'"
  | givenTwice made name =>
    made.name ++ ".__init__() got multiple values for argument '" ++ name ++ "'"
  | notAUrl v =>
    "Invalid type for url.  Expected str or httpx.URL, got " ++ v.kindText ++ ": " ++ v.listed
  | missingHeader key => key
  | unexpectedState => "Future in unexpected state"
  | alreadyResolved => "Future is already resolved"
  | stillPending => ""
  | futureCancelled => ""
  | noSuchIndex => "list index out of range"
  | runnerClosed => "runner is closed"
  | clientClosed => "Cannot send a request, as the client has been closed."
  | untyped target => "unknown url type: " ++ Text.quoted target
  | shortTimeout => "tuple index out of range"
  | notAscii run position => notAsciiMessage run position
  | notAByte => "byte must be in range(0, 256)"
  | notInText => "'in <string>' requires string as left operand, not int"
  | noItems kind => "argument of type '" ++ kind ++ "' is not iterable"
  | notListed kind => "'" ++ kind ++ "' object is not iterable"
  | notDivisible kind => "unsupported operand type(s) for /: '" ++ kind ++ "' and 'float'"
  | missingArguments call names => missingMessage call names
  | tooManyArguments call least most given => tooManyMessage call least most given
  | notAHook kind wanted => "'" ++ kind ++ "' object has no attribute '" ++ wanted ++ "'"

/-! ## Section 5: What the engine asks of a fault -/

/-- Whether a fault of the transport is a failed exchange, which may be retried.  A result
    that is not there in time is one of the operating system's failures. -/
def isExchange : Fault → Bool
  | raised _ what => what.family = .exchange
  | badLocation _ => true
  | stillPending => true
  | _ => false

/-- Whether a fault is outside the ordinary kinds. -/
def isAbort : Fault → Bool
  | raised _ what => what.family = .abort
  | _ => false

end Fault

end Redial
