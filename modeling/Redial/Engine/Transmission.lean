import Redial.Engine.Hooks
import Redial.Headers.Wire

/-! # Staging and transmitting

    An attempt is staged from the request as it is at that moment: its lines with the
    engine's suffix, its content in the layers that logging and compression ask for.
    The transport then reads the staged body and performs the exchange. -/

namespace Redial.Engine

variable {R σ : Type}

/-! ## Section 1: Names on the wire -/

/-- The version that the engine announces. -/
def version : String := "0.1.0"

/-- What the engine adds to the user agent. -/
def userAgentSuffix : String := "httpengine/" ++ version ++ " (gzip)"

/-- Headers whose values are not shown in the debug log. -/
def redactedNames : List String := ["authorization", "proxy-authorization", "cookie", "set-cookie"]

/-! ## Section 2: Writing content -/

/-- The line that shows the beginning of a written body.  A limit of zero shows nothing; a
    limit that is no integer cannot cut the body. -/
def excerptLine (decode : Decoder) (mediaType : Option String) (limit : Number Float)
    (data : List UInt8) : Except Fault (Option String) :=
  if limit.isZero then .ok none
  else match limit.int? with
    | none => .error .notAnIndex
    | some n =>
      match decode (MediaType.charset mediaType MediaType.defaultCharset)
          (data.take n.toNat) with
      | .error f => .error (.charset f)
      | .ok excerpt =>
        let ending := if n < data.length then " ..." else ""
        .ok (some ("Request content (" ++ toString data.length ++ " bytes): " ++ excerpt ++ ending))

/-- Writes a content: the bytes that go on the wire. -/
def writeContent (h : Hooks R σ) : Content → Hook σ (List UInt8)
  | .bytes _ data => pure data
  | .source s => h.writeSource s.id
  | .gzip inner => do
    let data ← writeContent h inner
    return h.compress data
  | .logging inner limit => do
    let data ← writeContent h inner
    match ← Run.lift (excerptLine h.decode inner.mediaType limit data) with
    | none => return data
    | some line =>
      Run.log h.debug .content line
      return data

/-! ## Section 3: Staging -/

/-- The content of an attempt: inside a logging layer if the log shows bodies, and that
    inside a compressing layer if the request asks for it. -/
def stagedContent (debug : Bool) (r : Request) : Option Content :=
  r.content.map fun c =>
    let c := if r.logging.isSet && debug then .logging c r.loggingLimit else c
    if r.compress.isSet then .gzip c else c

/-- The suffix that a request wants on its user agent. -/
def suffixFor (r : Request) : Option String :=
  if r.suppressSuffix.isSet then none else some userAgentSuffix

/-- The transmission that a request stands for. -/
def stagedOf (debug : Bool) (r : Request) : Staged where
  method := r.method
  url := r.url
  headers := r.headers.lines (suffixFor r)
  content := stagedContent debug r

/-- A header line as the debug log shows it. -/
def shownLine (line : String × String) : String :=
  let shown := if redactedNames.contains (Text.lower line.1) then "<Not Logged>" else line.2
  "  " ++ line.1 ++ ": " ++ shown

/-- The lines of the debug log about a staged transmission. -/
def stagedLog (s : Staged) : List String :=
  (s.method ++ " request to " ++ s.url.plain) :: s.headers.map shownLine

/-- Writes several lines to the debug log. -/
def logAll (debug : Bool) (channel : Channel) : List String → Run Note σ Unit
  | [] => pure ()
  | text :: texts => do
    Run.log debug channel text
    logAll debug channel texts

/-- Fails if something else has been put in place of the transport. -/
def checkTransport (wanted : String) : Run (Event R) σ Unit := do
  let r ← Run.request
  match r.replacement with
  | none => return ()
  | some v => Run.throw (.notAHook v.kindName wanted)

/-- Stages the next transmission. -/
def stage (h : Hooks R σ) : Run (Event R) σ Staged := do
  checkTransport "build_request"
  let r ← Run.request
  let s := stagedOf h.debug r
  Run.emit (.staged s)
  if r.logging.isSet then Run.ofHook (logAll h.debug .execution (stagedLog s))
  return s

/-! ## Section 4: Transmitting -/

/-- The staged body, if the transport reads bodies; empty without content. -/
def readBody (h : Hooks R σ) (s : Staged) : Hook σ (List UInt8) :=
  match h.readsBody, s.content with
  | true, some c => writeContent h c
  | _, _ => pure []

/-- Hands a staged transmission to the transport. -/
def transmit (h : Hooks R σ) (s : Staged) : Run (Event R) σ RawResponse := do
  Run.emit (.transmitted s)
  Run.ofHook (h.announce s)
  let body ← Run.ofHook (readBody h s)
  Run.ofHook (h.exchange s body)

end Redial.Engine
