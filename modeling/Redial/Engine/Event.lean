import Redial.Number.Arith
import Redial.Request

/-! # Events of an execution

    What an execution reports, in order: lines of the debug log, every question to the
    backoff policy, every call of a callback with what it is told, every staged and
    every performed transmission, every pause, and what the surroundings report
    themselves. -/

namespace Redial

/-! ## Section 1: What is reported -/

/-- The part of the library that a line of the debug log comes from. -/
inductive Channel where
  | execution | redirect | content | handler | task | client | pause | exponential
  deriving DecidableEq

/-- A transmission that is ready: its lines and its content. -/
structure Staged where
  method : String
  url : Value
  headers : List (String × String)
  content : Option Content

namespace Staged

/-- The media type of the staged content. -/
def mediaType (s : Staged) : Option String := s.content.bind Content.mediaType

/-- The coding of the staged content. -/
def coding (s : Staged) : Option String := s.content.bind Content.coding

/-- The length of the staged content, `-1` if it is unknown and zero without content. -/
def length (s : Staged) : Int :=
  match s.content with
  | none => 0
  | some c => c.length

/-- The values of a header line, found in any letter case. -/
def texts (s : Staged) (name : String) : List String :=
  (s.headers.filter fun p => Text.lower p.1 == Text.lower name).map Prod.snd

end Staged

/-- What the surroundings of an execution report. -/
inductive Observation where
  /-- A transport was given a transmission. -/
  | sent (s : Staged)
  /-- A client put a message on the wire. -/
  | wired (method url : String) (headers : List (String × String)) (body : List UInt8)
  /-- A transport read the body of a transmission. -/
  | bodyRead (body : List UInt8)
  /-- A handler was asked about a response. -/
  | asked (name : String) (status : Int) (supportsRetry : Bool) (retries : Number Float)
  /-- A future was cancelled from inside a run, with this answer. -/
  | cancelAnswered (answer : Bool)
  /-- A policy answered with a pause that is no number. -/
  | pauseAnswered (millis : Value)
  /-- A request was prepared by a factory. -/
  | prepared (method : String) (url : Value)
  /-- A task was handed to a pool, with further arguments. -/
  | submitted (extra : Nat)
  /-- An executor of the caller's was used, with or without a cancel event. -/
  | executed (withEvent : Bool)

/-- What hooks report: lines of the debug log, and observations. -/
inductive Note where
  | log (channel : Channel) (text : String)
  | seen (o : Observation)

/-- What made the engine retry. -/
inductive Reason where
  | failure | handler | backoff | redirect
  deriving DecidableEq

/-- How a reason is written. -/
def Reason.text : Reason → String
  | failure => "io_error"
  | handler => "handler"
  | backoff => "backoff"
  | redirect => "redirect"

/-! ## Section 2: What callbacks are told -/

/-- Told before an attempt; attempts are counted from one. -/
structure RequestInfo where
  url : Value
  method : String
  attempt : Nat
  retries : Number Float

/-- Told before a retry, about the attempt to come. -/
structure RetryInfo (R : Type) where
  url : Value
  method : String
  attempt : Nat
  retries : Number Float
  reason : Reason
  /-- The pause in seconds. -/
  waited : R
  error : Option Fault
  status : Option Int

/-- Told when a success is about to be returned. -/
structure SuccessInfo (R : Type) where
  url : Value
  method : String
  attempt : Nat
  response : Response
  /-- The seconds since the execution began. -/
  elapsed : R

/-- Told when an error is about to be raised. -/
structure FailureInfo (R : Type) where
  url : Value
  method : String
  attempt : Nat
  error : Fault
  status : Option Int
  /-- The seconds since the execution began. -/
  elapsed : R

/-! ## Section 3: Events -/

/-- What an execution reports. -/
inductive Event (R : Type) where
  | log (channel : Channel) (text : String)
  /-- The policy is about to be reset. -/
  | policyReset
  /-- The policy was asked whether to back off, with this answer. -/
  | policyRequired (status : Int) (answer : Bool)
  /-- The policy was asked for a pause, with this answer in milliseconds. -/
  | policyNext (millis : Number R)
  | requested (info : RequestInfo)
  | retried (info : RetryInfo R)
  | succeeded (info : SuccessInfo R)
  | failed (info : FailureInfo R)
  /-- A transmission was staged. -/
  | staged (s : Staged)
  /-- A staged transmission is handed to the transport. -/
  | transmitted (s : Staged)
  /-- A pause without a cancel event, in seconds. -/
  | slept (seconds : R)
  /-- A pause that the cancel event can end, in seconds. -/
  | waited (seconds : R)
  | seen (o : Observation)

/-- A note among the events of an execution. -/
def Event.ofNote {R : Type} : Note → Event R
  | .log channel text => .log channel text
  | .seen o => .seen o

end Redial
