import Redial.Url.Basic

/-! # References

    Resolution of a reference against a base, on written URLs, of which the authorities
    are checked for brackets and for characters that look like delimiters.  Only schemes
    that are known to have a hierarchy are resolved; a reference with another scheme
    replaces the base.  Parameters after a semicolon belong to the last segment of the
    path. -/

namespace Redial

/-! ## Section 1: References -/

/-- A written reference in its parts; absent and empty are the same. -/
structure Reference where
  scheme : List Char
  authority : List Char
  path : List Char
  params : List Char
  query : List Char
  fragment : List Char
  deriving DecidableEq

namespace Reference

/-! ## Section 2: Schemes -/

/-- Whether a scheme, or the absence of one, is in a list. -/
def schemeIn (names : List String) (scheme : List Char) : Bool :=
  names.contains (String.ofList scheme)

/-- Schemes whose references are resolved against a base. -/
def isHierarchical (scheme : List Char) : Bool :=
  schemeIn ["", "ftp", "http", "gopher", "nntp", "imap", "wais", "file", "https", "shttp", "mms",
    "prospero", "rtsp", "rtspu", "sftp", "svn", "svn+ssh", "ws", "wss"] scheme

/-- Schemes that have an authority. -/
def hasAuthority (scheme : List Char) : Bool :=
  schemeIn ["", "ftp", "http", "gopher", "nntp", "telnet", "imap", "wais", "file", "mms", "https",
    "shttp", "snews", "prospero", "rtsp", "rtspu", "rsync", "svn", "svn+ssh", "sftp", "nfs",
    "git", "git+ssh", "ws", "wss"] scheme

/-- Schemes whose paths have parameters. -/
def hasParams (scheme : List Char) : Bool :=
  schemeIn ["", "ftp", "hdl", "prospero", "http", "imap", "https", "shttp", "rtsp", "rtspu",
    "sip", "sips", "mms", "sftp", "tel"] scheme

/-! ## Section 3: Splitting and writing -/

/-- Splits off a scheme: a letter and further scheme characters up to the first colon. -/
def splitScheme (inherited cs : List Char) : List Char × List Char :=
  match Text.cut ':' cs with
  | (c :: scheme, some rest) =>
    if c.isAlpha && scheme.all Url.isSchemeChar then ((c :: scheme).map Char.toLower, rest)
    else (inherited, cs)
  | _ => (inherited, cs)

/-- Splits the parameters off the last segment of a path. -/
def splitParams (path : List Char) : List Char × List Char :=
  match Text.cutLast '/' path with
  | (some before, last) =>
    match Text.cut ';' last with
    | (segment, some params) => (before ++ '/' :: segment, params)
    | (_, none) => (path, [])
  | (none, _) =>
    match Text.cut ';' path with
    | (segment, some params) => (segment, params)
    | (_, none) => (path, [])

/-- Splits a written reference; one without a scheme has the given one. -/
def ofChars (inherited cs : List Char) : Reference :=
  let (scheme, cs) := splitScheme inherited cs
  let (authority, cs) := Url.splitAuthority cs
  let (cs, fragment) := Text.cut '#' cs
  let (path, query) := Text.cut '?' cs
  let (path, params) := if hasParams scheme then splitParams path else (path, [])
  ⟨scheme, authority, path, params, query.getD [], fragment.getD []⟩

/-- Checks an address between brackets. -/
def checkAddress (address : List Char) : Except UrlFault Unit :=
  match address with
  | 'v' :: rest =>
    match rest.takeWhile Url.isHexDigit, rest.dropWhile Url.isHexDigit with
    | _ :: _, '.' :: _ :: _ => .ok ()
    | _, _ => .error .badFutureAddress
  | _ =>
    if Url.isIPv4 address then .error .bracketedIPv4
    else if Url.isIPv6 address then .ok ()
    else .error (.noAddress (String.ofList address))

/-- Checks the brackets of a written authority: they come in pairs, and enclose all of the
    host. -/
def checkBrackets (authority : List Char) : Except UrlFault Unit :=
  if authority.contains '[' != authority.contains ']' then .error .strayBracket
  else if !authority.contains '[' then .ok ()
  else
    let hostAndPort := (Text.cutLast '@' authority).2
    match Text.cut '[' hostAndPort with
    | (host, none) => checkAddress (Text.cut ':' host).1
    | (_ :: _, some _) => .error .strayBracket
    | ([], some inside) =>
      match Text.cut ']' inside with
      | (address, none) => checkAddress address
      | (address, some []) => checkAddress address
      | (address, some (c :: _)) =>
        if c = ':' then checkAddress address else .error .strayBracket

/-- Reads a written reference; one without a scheme has the given one. -/
def read (inherited cs : List Char) : Except UrlFault Reference := do
  let r := ofChars inherited cs
  checkBrackets r.authority
  if r.authority.any fun c => Url.delimiterLike.contains c.toNat then
    throw (.delimiterLike (String.ofList r.authority))
  return r

/-- A part that is written after a mark unless it is empty. -/
def marked (mark : Char) (part : List Char) : List Char :=
  if part.isEmpty then [] else mark :: part

/-- The path with its parameters. -/
def pathAndParams (r : Reference) : List Char := r.path ++ marked ';' r.params

/-- The authority and the path.  A scheme that has an authority is written with slashes even
    if the authority is empty. -/
def hierarchy (r : Reference) : List Char :=
  let path := r.pathAndParams
  if !r.authority.isEmpty
      || (!r.scheme.isEmpty && hasAuthority r.scheme && !Url.startsWith ['/', '/'] path) then
    let path := if !path.isEmpty && path.head? != some '/' then '/' :: path else path
    '/' :: '/' :: r.authority ++ path
  else path

/-- Writes a reference. -/
def chars (r : Reference) : List Char :=
  (if r.scheme.isEmpty then [] else r.scheme ++ [':']) ++ r.hierarchy
    ++ marked '?' r.query ++ marked '#' r.fragment

/-! ## Section 4: Resolution -/

/-- The segments of a base path that a relative path is appended to: all but the last,
    unless that is empty. -/
def baseSegments (path : List Char) : List (List Char) :=
  let segments := Text.pieces '/' path
  if segments.getLast? = some [] then segments else segments.dropLast

/-- Drops empty segments other than the first and the last. -/
def dropInnerEmpty (segments : List (List Char)) : List (List Char) :=
  segments.take 1 ++ ((segments.drop 1).dropLast.filter fun s => !s.isEmpty)
    ++ (segments.drop 1).getLast?.toList

/-- Takes one segment onto the stack of kept segments.  Going up from nothing stays there. -/
def takeSegment (stack : List (List Char)) (segment : List Char) : List (List Char) :=
  if segment = ['.', '.'] then stack.drop 1
  else if segment = ['.'] then stack
  else segment :: stack

/-- The path of a reference with a path, resolved against the path of the base.  A final dot
    segment leaves a slash at the end. -/
def mergePaths (base path : List Char) : List Char :=
  let segments :=
    if path.head? = some '/' then Text.pieces '/' path
    else dropInnerEmpty (baseSegments base ++ Text.pieces '/' path)
  let stack := segments.foldl takeSegment []
  let last := segments.getLast?
  let stack := if last = some ['.'] || last = some ['.', '.'] then [] :: stack else stack
  let merged := Text.join '/' stack.reverse
  if merged.isEmpty then ['/'] else merged

/-- Resolves a split reference that has the scheme of its base and no authority of its own. -/
def resolveIn (base r : Reference) : Reference :=
  if r.path.isEmpty && r.params.isEmpty then
    { r with
      path := base.path
      params := base.params
      query := if r.query.isEmpty then base.query else r.query }
  else { r with path := mergePaths base.path r.path }

/-- Resolves a written reference against a base, both in their parts. -/
def resolveParts (b r : Reference) (reference : List Char) : List Char :=
  if r.scheme != b.scheme || !isHierarchical r.scheme then reference
  else if hasAuthority r.scheme then
    if !r.authority.isEmpty then r.chars
    else (resolveIn b { r with authority := b.authority }).chars
  else (resolveIn b r).chars

/-- Resolves a written reference against a written base. -/
def resolve (base reference : List Char) : Except UrlFault (List Char) :=
  if base.isEmpty then .ok reference
  else if reference.isEmpty then .ok base
  else do
    let b ← read [] base
    let r ← read b.scheme reference
    return resolveParts b r reference

end Reference

/-! ## Section 5: Locations -/

namespace Url

/-- Resolves a URL against another. -/
def join (u l : Url) : Except UrlFault Url := do
  let joined ← Reference.resolve u.chars l.chars
  parse joined

end Url

/-- The URL that a location names, seen from the current URL: an absolute location is taken
    as it is written. -/
def resolveLocation (current location : String) : Except UrlFault String := do
  let l ← Url.parse location.toList
  if l.isAbsolute then return location
  let u ← Url.parse current.toList
  let joined ← u.join l
  return String.ofList joined.chars

end Redial
