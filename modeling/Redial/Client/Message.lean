import Redial.Client.Credentials
import Redial.Engine.Event
import Redial.Url.Reference

/-! # Messages of the client

    What the client puts on the wire for a staged transmission: the URL, and the header
    lines with those that the client adds itself.  The host comes first, then a zero
    length for a method that usually has a body, then the given lines, then the length
    of the body and the authorization. -/

namespace Redial.Client

/-! ## Section 1: The lines handed to the client -/

/-- The staged lines, followed by those that describe the content. -/
def requestLines (s : Staged) : List (String × String) :=
  s.headers
    ++ (s.mediaType.map fun t => ("content-type", t)).toList
    ++ (s.coding.map fun c => ("content-encoding", c)).toList

/-- The first run of characters beyond ASCII, with its position. -/
def findBeyondAscii (cs : List Char) : Option (List Char × Nat) :=
  let beyond (c : Char) : Bool := 128 ≤ c.toNat
  match cs.dropWhile fun c => !beyond c with
  | [] => none
  | rest => some (rest.takeWhile beyond, cs.length - rest.length)

/-- Only ASCII can be sent. -/
def checkAscii (text : String) : Except Fault Unit :=
  match findBeyondAscii text.toList with
  | none => .ok ()
  | some (run, position) => .error (.notAscii run position)

/-- Checks the names and the values of lines, in order. -/
def checkLines : List (String × String) → Except Fault Unit
  | [] => .ok ()
  | (name, value) :: lines => do
    checkAscii name
    checkAscii value
    checkLines lines

/-! ## Section 2: The URL -/

/-- The URL that is requested.  One that is not absolute is taken as a path from the root. -/
def target (url : Value) : Except Fault Url :=
  match url with
  | .text url => do
    let u ← (Url.parse url.toList).mapError .url
    if u.isAbsolute then return u
    (Url.ofParts ⟨[], [], '/' :: u.path.dropWhile (· == '/'), u.query, none⟩).mapError .url
  | v => .error (.notAUrl v)

/-- After an exchange the client looks for the type of the URL, which one without a scheme
    lacks. -/
def checkType (u : Url) : Except Fault Unit :=
  if u.scheme.isEmpty then .error (.untyped (String.ofList u.chars)) else .ok ()

/-- The client reads back the name behind a host that is sent in Punycode. -/
def checkName (u : Url) : Except Fault Unit :=
  if Url.punycodeMark.isPrefixOf u.host then
    ((Url.readName u.host).mapError fun f => .url (.unreadableName f)).map fun _ => ()
  else .ok ()

/-! ## Section 3: The lines on the wire -/

/-- Whether a line with this name is among the lines. -/
def hasLine (name : String) (lines : List (String × String)) : Bool :=
  lines.any fun l => Text.lower l.1 == name

/-- The host goes into a line of its own, unless one is given, and must be ASCII there. -/
def checkHost (u : Url) (given : List (String × String)) : Except Fault Unit :=
  if hasLine "host" given then .ok () else checkAscii (String.ofList u.hostAndPort)

/-- Methods that usually have a body. -/
def bodyMethods : List String := ["POST", "PUT", "PATCH"]

/-- Adds the length of a body that is not empty, unless a length is given. -/
def addLength (body : List UInt8) (lines : List (String × String)) : List (String × String) :=
  if body.isEmpty || hasLine "content-length" lines then lines
  else lines ++ [("content-length", toString body.length)]

/-- The lines that stand before all others: the host, and a zero length. -/
def leadingLines (method : String) (u : Url) (lines : List (String × String)) :
    List (String × String) :=
  (if u.host.isEmpty || hasLine "host" lines then []
    else [("host", String.ofList u.hostAndPort)])
  ++ (if bodyMethods.contains method && !hasLine "content-length" lines
        && !hasLine "transfer-encoding" lines then [("content-length", "0")] else [])

/-- Sets a line: the first of its name is replaced, the others are dropped. -/
def setLine (name value : String) (lines : List (String × String)) : List (String × String) :=
  if hasLine name lines then
    let before := lines.takeWhile fun l => Text.lower l.1 != name
    let after := (lines.drop (before.length + 1)).filter fun l => Text.lower l.1 != name
    before ++ (name, value) :: after
  else lines ++ [(name, value)]

/-- The lines on the wire, with lower-cased names. -/
def wireLines (method : String) (u : Url) (given : List (String × String)) (body : List UInt8) :
    List (String × String) :=
  let lines := addLength body given
  let lines := leadingLines method u lines ++ lines
  let lines := match authorization? u with
    | some value => setLine "authorization" value lines
    | none => lines
  lines.map fun l => (Text.lower l.1, l.2)

/-! ## Section 4: Locations -/

/-- The name of a received line; only ASCII letters have two cases there. -/
def receivedName (name : String) : String := String.ofList (name.toList.map Char.toLower)

/-- The location of a response: all location lines, joined. -/
def location? (headers : List (String × String)) : Option String :=
  match (headers.filter fun l => receivedName l.1 == "location").map Prod.snd with
  | [] => none
  | values => some (String.intercalate ", " values)

/-- The location with the fragment of the request, unless it has one. -/
def inheritFragment (u l : Url) : Except UrlFault Url :=
  let fragment := Charset.decodeUtf8 (percentDecode (u.fragment.getD []))
  if fragment.isEmpty || !(l.fragment.getD []).isEmpty then .ok l
  else l.withFragment fragment

/-- Where a location leads from the URL of the request.  One with a scheme but no host is
    given the host of the request. -/
def follow (u l : Url) : Except UrlFault Url := do
  let l ← if !l.scheme.isEmpty && l.host.isEmpty then l.withHost u.hostText else pure l
  let l ← if l.isAbsolute then pure l else u.join l
  inheritFragment u l

/-- The port of a URL, given or assumed. -/
def portOf (u : Url) : Option Int :=
  u.port.or (if ["http", "https"].contains (String.ofList u.scheme) then Url.defaultPort? u.scheme
    else none)

/-- Whether two URLs have the same scheme, host and port. -/
def isSameOrigin (u l : Url) : Bool :=
  u.scheme == l.scheme && u.host == l.host && portOf u == portOf l

/-- Checks the host of a location: its name must be readable where it is compared with the
    host of the request, and it must be ASCII where it replaces that. -/
def checkNewHost (u l : Url) : Except Fault Unit := do
  if l.scheme == u.scheme then checkName l
  if !isSameOrigin u l then checkAscii (String.ofList l.hostAndPort)

/-- Reads the location of a redirect response, which the client does even though it does not
    follow it. -/
def checkLocation (u : Url) (location : String) : Except Fault Unit := do
  let l ← (Url.parse location.toList).mapError .badLocation
  if !l.scheme.isEmpty then checkName l
  let l ← (follow u l).mapError .url
  checkNewHost u l

end Redial.Client
