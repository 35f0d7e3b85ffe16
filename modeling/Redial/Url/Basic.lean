import Redial.Text.Quoted
import Redial.Url.Percent
import Redial.Url.Address
import Redial.Url.HostName

/-! # URLs

    Reading a URL into its parts and writing the parts.  Reading splits the text at its
    first scheme colon, double slash, question mark and number sign; checks and
    normalises each part; and, with a scheme or an authority, removes dot segments from
    the path. -/

namespace Redial

/-! ## Section 1: URLs -/

/-- Why a text is no URL. -/
inductive UrlFault where
  | tooLong
  /-- An ASCII control character, and where it stands. -/
  | unprintable (c : Char) (position : Nat)
  | badIPv4 (host : String)
  | badIPv6 (host : String)
  /-- A host name beyond ASCII has no form that is sent. -/
  | badName (host : String)
  | badPort (port : String)
  /-- After an authority a path is empty or begins with a slash. -/
  | detachedPath
  /-- Without scheme and authority a path may not look like an authority. -/
  | pathLikeAuthority
  /-- Without scheme and authority a path may not begin with a colon. -/
  | pathLikeScheme
  /-- A part of a URL that is put together is too long. -/
  | partTooLong (part : String)
  /-- An ASCII control character in a part of a URL that is put together, and where it
      stands. -/
  | unprintablePart (part : String) (c : Char) (position : Nat)
  /-- The brackets of a written authority do not enclose its host. -/
  | strayBracket
  /-- The host between brackets begins like an address of a future version, but is none. -/
  | badFutureAddress
  | bracketedIPv4
  /-- What should be an address between brackets is none. -/
  | noAddress (host : String)
  /-- The authority holds a character that looks like a delimiter once it is composed. -/
  | delimiterLike (authority : String)
  /-- A sent host name cannot be read back. -/
  | unreadableName (f : Url.NameFault)
  deriving DecidableEq

/-- The message of a fault. -/
def UrlFault.message : UrlFault → String
  | tooLong => "URL too long"
  | unprintable c position =>
    "Invalid non-printable ASCII character in URL, " ++ Text.quoted (String.ofList [c])
      ++ " at position " ++ toString position ++ "."
  | badIPv4 host => "Invalid IPv4 address: " ++ Text.quoted host
  | badIPv6 host => "Invalid IPv6 address: " ++ Text.quoted host
  | badName host => "Invalid IDNA hostname: " ++ Text.quoted host
  | badPort port => "Invalid port: " ++ Text.quoted port
  | detachedPath => "For absolute URLs, path must be empty or begin with '/'"
  | pathLikeAuthority => "Relative URLs cannot have a path starting with '//'"
  | pathLikeScheme => "Relative URLs cannot have a path starting with ':'"
  | partTooLong part => "URL component '" ++ part ++ "' too long"
  | unprintablePart part c position =>
    "Invalid non-printable ASCII character in URL " ++ part ++ " component, "
      ++ Text.quoted (String.ofList [c]) ++ " at position " ++ toString position ++ "."
  | strayBracket => "Invalid IPv6 URL"
  | badFutureAddress => "IPvFuture address is invalid"
  | bracketedIPv4 => "An IPv4 address cannot be in brackets"
  | noAddress host => Text.quoted host ++ " does not appear to be an IPv4 or IPv6 address"
  | delimiterLike authority =>
    "netloc '" ++ authority ++ "' contains invalid characters under NFKC normalization"
  | unreadableName f => f.message

/-- The parts of a URL.  Scheme, user information and host are empty where they are absent;
    a query and a fragment may be present and empty. -/
structure Url where
  scheme : List Char
  userinfo : List Char
  host : List Char
  port : Option Int
  path : List Char
  query : Option (List Char)
  fragment : Option (List Char)
  deriving DecidableEq

namespace Url

/-! ## Section 2: Splitting -/

/-- The parts of a text before they are checked. -/
structure Split where
  scheme : List Char
  authority : List Char
  path : List Char
  query : Option (List Char)
  fragment : Option (List Char)

/-- A character of a scheme after the first. -/
def isSchemeChar (c : Char) : Bool := c.isAlphanum || c == '+' || c == '.' || c == '-'

/-- The text up to one of the given characters, and the rest. -/
def spanUntil (stops : List Char) (cs : List Char) : List Char × List Char :=
  cs.span fun c => !stops.contains c

/-- Splits off a scheme and its colon; a colon alone is an empty scheme. -/
def splitScheme (cs : List Char) : List Char × List Char :=
  match cs.span isSchemeChar with
  | ([], ':' :: rest) => ([], rest)
  | (c :: scheme, ':' :: rest) => if c.isAlpha then (c :: scheme, rest) else ([], cs)
  | _ => ([], cs)

/-- Splits off an authority and the slashes before it. -/
def splitAuthority : List Char → List Char × List Char
  | '/' :: '/' :: rest => spanUntil ['/', '?', '#'] rest
  | cs => ([], cs)

/-- Splits off what follows a mark, if the text begins with it. -/
def splitMarked (mark : Char) (stops : List Char) : List Char → Option (List Char) × List Char
  | [] => (none, [])
  | c :: rest =>
    if c = mark then
      let (part, rest) := spanUntil stops rest
      (some part, rest)
    else (none, c :: rest)

/-- Splits a text into its parts. -/
def Split.ofChars (cs : List Char) : Split :=
  let (scheme, cs) := splitScheme cs
  let (authority, cs) := splitAuthority cs
  let (path, cs) := spanUntil ['?', '#'] cs
  let (query, cs) := splitMarked '?' ['#'] cs
  let (fragment, _) := splitMarked '#' [] cs
  ⟨scheme, authority, path, query, fragment⟩

/-- The user information, host and port of an authority.  The host is what stands before the
    first colon, or between brackets. -/
def splitHost (authority : List Char) : List Char × List Char × List Char :=
  let (userinfo, rest) := Text.cutLast '@' authority
  let (host, rest) := match rest with
    | '[' :: inner =>
      match Text.cutLast ']' inner with
      | (some address, after) => ('[' :: address ++ [']'], after)
      | (none, _) => spanUntil [':', '@'] rest
    | _ => spanUntil [':', '@'] rest
  let port := match rest with
    | ':' :: port => port
    | port => port
  (userinfo.getD [], host, port)

/-! ## Section 3: Normalising -/

/-- The longest text that is read as a URL. -/
def maxLength : Nat := 65536

/-- The first ASCII control character, with its position. -/
def findControl (cs : List Char) : Option (Char × Nat) :=
  (cs.zipIdx).find? fun p => p.1.toNat < 0x20 || p.1.toNat == 0x7f

/-- Checks a host and brings it into its sent form; brackets are dropped. -/
def normalHost (host : List Char) : Except UrlFault (List Char) :=
  if host.isEmpty then .ok []
  else if looksLikeIPv4 host then
    if isIPv4 host then .ok host else .error (.badIPv4 (String.ofList host))
  else if host.head? = some '[' && host.getLast? = some ']' && 2 ≤ host.length then
    let address := (host.drop 1).dropLast
    if isIPv6 address then .ok address else .error (.badIPv6 (String.ofList host))
  else if host.all fun c => c.toNat < 128 then .ok (encode hostSafe (host.map Char.toLower))
  else match sentName host with
    | .ok name => .ok name
    | .error _ => .error (.badName (String.ofList host))

/-- Reads a port; the default port of the scheme, as it was written, is dropped. -/
def normalPort (scheme port : List Char) : Except UrlFault (Option Int) :=
  if port.isEmpty then .ok none
  else match readInteger? port with
    | none => .error (.badPort (String.ofList port))
    | some n => .ok (if defaultPort? scheme = some n then none else some n)

/-- Whether a text begins with another. -/
def startsWith (start : List Char) (cs : List Char) : Bool := start.isPrefixOf cs

/-- Checks that a path cannot be mistaken for another part. -/
def checkPath (hasScheme hasAuthority : Bool) (path : List Char) : Except UrlFault Unit :=
  if hasAuthority && !path.isEmpty && path.head? != some '/' then .error .detachedPath
  else if !hasScheme && !hasAuthority && startsWith ['/', '/'] path then
    .error .pathLikeAuthority
  else if !hasScheme && !hasAuthority && startsWith [':'] path then .error .pathLikeScheme
  else .ok ()

/-- Takes one segment onto the stack of kept segments.  Going up stops at the root. -/
def takeSegment (stack : List (List Char)) (segment : List Char) : List (List Char) :=
  if segment = ['.'] then stack
  else if segment = ['.', '.'] then (if stack = [] || stack = [[]] then stack else stack.drop 1)
  else segment :: stack

/-- Removes dot segments from a path; a path without any stays as it is. -/
def removeDots (path : List Char) : List Char :=
  let segments := Text.pieces '/' path
  if segments.contains ['.'] || segments.contains ['.', '.'] then
    Text.join '/' (segments.foldl takeSegment []).reverse
  else path

/-! ## Section 4: Reading -/

/-- Checks parts with their authority split and brings them into normal form. -/
def assemble (s : Split) (userinfo host port : List Char) : Except UrlFault Url := do
  let scheme := s.scheme.map Char.toLower
  let userinfo := encode userinfoSafe userinfo
  let host ← normalHost host
  let port ← normalPort s.scheme port
  let hasScheme := !scheme.isEmpty
  let hasAuthority := !userinfo.isEmpty || !host.isEmpty || port.isSome
  checkPath hasScheme hasAuthority s.path
  let path := if hasScheme || hasAuthority then removeDots s.path else s.path
  return {
    scheme, userinfo, host, port
    path := encode pathSafe path
    query := s.query.map (encode querySafe)
    fragment := s.fragment.map (encode fragmentSafe) }

/-- Checks the parts of a text and brings them into normal form. -/
def ofSplit (s : Split) : Except UrlFault Url :=
  let (userinfo, host, port) := splitHost s.authority
  assemble s userinfo host port

/-- Reads a URL. -/
def parse (cs : List Char) : Except UrlFault Url :=
  if maxLength < cs.length then .error .tooLong
  else match findControl cs with
    | some (c, position) => .error (.unprintable c position)
    | none => ofSplit (Split.ofChars cs)

/-! ## Section 5: Writing -/

/-- The host as written in a URL: an address with colons stands between brackets. -/
def hostText (u : Url) : List Char :=
  if u.host.contains ':' then '[' :: u.host ++ [']'] else u.host

/-- The host with the port, if one is given. -/
def hostAndPort (u : Url) : List Char :=
  u.hostText ++ match u.port with
    | some n => ':' :: (toString n).toList
    | none => []

/-- The authority as written in a URL. -/
def authority (u : Url) : List Char :=
  (if u.userinfo.isEmpty then [] else u.userinfo ++ ['@']) ++ u.hostAndPort

/-- A part that is written after a mark if it is present. -/
def marked (mark : Char) : Option (List Char) → List Char
  | some part => mark :: part
  | none => []

/-- Writes a URL. -/
def chars (u : Url) : List Char :=
  (if u.scheme.isEmpty then [] else u.scheme ++ [':'])
    ++ (if u.authority.isEmpty then [] else '/' :: '/' :: u.authority)
    ++ u.path ++ marked '?' u.query ++ marked '#' u.fragment

/-- Whether a URL names a scheme and a host. -/
def isAbsolute (u : Url) : Bool := !u.scheme.isEmpty && !u.host.isEmpty

/-! ## Section 6: Putting together -/

/-- Checks a part before a URL is put together from it. -/
def checkPart (name : String) (cs : List Char) : Except UrlFault Unit :=
  if maxLength < cs.length then .error (.partTooLong name)
  else match findControl cs with
    | some (c, position) => .error (.unprintablePart name c position)
    | none => .ok ()

/-- The parts of a URL as they are written. -/
def split (u : Url) : Split := ⟨u.scheme, u.authority, u.path, u.query, u.fragment⟩

/-- Checks all parts, in order. -/
def checkParts (s : Split) : Except UrlFault Unit := do
  checkPart "scheme" s.scheme
  checkPart "authority" s.authority
  checkPart "path" s.path
  checkPart "query" (s.query.getD [])
  checkPart "fragment" (s.fragment.getD [])

/-- The URL made of parts. -/
def ofParts (s : Split) : Except UrlFault Url := do
  checkParts s
  ofSplit s

/-- The URL with another host, as it is written. -/
def withHost (u : Url) (host : List Char) : Except UrlFault Url := do
  checkParts u.split
  checkPart "host" host
  let (userinfo, _, port) := splitHost u.authority
  assemble u.split userinfo host port

/-- The URL with another fragment. -/
def withFragment (u : Url) (fragment : List Char) : Except UrlFault Url :=
  ofParts { u.split with fragment := some fragment }

end Url

end Redial
