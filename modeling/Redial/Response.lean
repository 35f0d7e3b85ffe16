import Redial.Body.MediaType
import Redial.Charset.Decode
import Redial.Headers.Basic
import Redial.Status

/-! # Responses

    The raw result of one exchange, and the response made from it, which remembers the
    method and the URL of its transmission.  The body of a response is read as text
    under its declared character set, or as UTF-8 if that set is unknown. -/

namespace Redial

/-! ## Section 1: Responses -/

/-- What an exchange gives back. -/
structure RawResponse where
  status : Int
  reason : String
  headers : List (String × String)
  body : List UInt8

/-- A response. -/
structure Response where
  status : Int
  reason : String
  headers : Headers
  body : List UInt8
  /-- The method of the transmission. -/
  method : String
  /-- The URL of the transmission. -/
  url : Value

namespace Response

/-- The response made from the result of an exchange. -/
def ofRaw (raw : RawResponse) (method : String) (url : Value) : Response :=
  ⟨raw.status, raw.reason, Headers.ofWire raw.headers, raw.body, method, url⟩

/-- A response that only has a status. -/
def ofStatus (status : Int) : Response := ⟨status, "", Headers.empty, [], "GET", .text ""⟩

/-- Whether the response is a success. -/
def isSuccess (r : Response) : Bool := Status.isSuccess r.status

/-- The declared content type. -/
def contentType (r : Response) : Option String := r.headers.field? .contentType

/-- The declared content coding. -/
def contentCoding (r : Response) : Option String := r.headers.field? .contentEncoding

/-- The content type without its parameters. -/
def mediaType (r : Response) : Option String := r.contentType.map MediaType.bare

/-- The body as a decoder reads it.  A set that is unknown or is no character set is
    replaced by UTF-8. -/
def textBy (decode : Decoder) (r : Response) : Except CharsetFault String :=
  match decode (MediaType.charset r.contentType MediaType.defaultCharset) r.body with
  | .ok s => .ok s
  | .error f =>
    if f.isLookup then .ok (String.ofList (Charset.decodeUtf8 r.body)) else .error f

/-- The body as text, in the sets of the registry. -/
def text (r : Response) : Except CharsetFault String := r.textBy decodeNamed

end Response

/-! ## Section 2: Errors made from responses -/

/-- The error that reports an unsuccessful response. -/
structure ResponseError where
  response : Response
  message : String

namespace ResponseError

/-- How many characters of the body a message quotes. -/
def quotedLength : Nat := 1024

/-- The beginning of a body, marked if it is cut. -/
def excerpt (text : String) : String :=
  if quotedLength < text.length then String.ofList (text.toList.take quotedLength) ++ "..."
  else text

/-- The status line, and on a new line the beginning of a body that is not empty. -/
def describe (decode : Decoder) (r : Response) : Except CharsetFault String := do
  let line := Text.trimEnd (toString r.status ++ " " ++ r.reason)
  let text ← r.textBy decode
  return if text = "" then line else line ++ "\n" ++ excerpt text

/-- The error of a response that a decoder reads, with a message of its own unless that is
    absent or empty. -/
def ofResponseBy (decode : Decoder) (r : Response) (message : Option String) :
    Except CharsetFault ResponseError :=
  match message with
  | none => (describe decode r).map fun m => ⟨r, m⟩
  | some "" => (describe decode r).map fun m => ⟨r, m⟩
  | some m => .ok ⟨r, m⟩

/-- The error of a response in the sets of the registry. -/
def ofResponse (r : Response) (message : Option String) : Except CharsetFault ResponseError :=
  ofResponseBy decodeNamed r message

end ResponseError

end Redial
