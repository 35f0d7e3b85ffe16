import Redial.Body.MediaType
import Redial.Charset.Decode
import Redial.Number.Basic

/-! # Request content

    The body of a request, which is written again for every attempt: bytes in memory, a
    body that the caller writes, or one of these inside layers that compress it or write
    its beginning to the log. -/

namespace Redial

/-! ## Section 1: Contents -/

/-- A body written by the caller, known by its number. -/
structure Source where
  id : Nat
  mediaType : Option String
  /-- The length that the caller declares, `-1` if it is unknown. -/
  length : Int
  deriving DecidableEq

/-- The content of a request. -/
inductive Content where
  | bytes (mediaType : Option String) (data : List UInt8)
  | source (s : Source)
  | gzip (inner : Content)
  /-- Writes the first `limit` bytes to the log. -/
  | logging (inner : Content) (limit : Number Float)

namespace Content

/-- A text as content, in UTF-8. -/
def ofText (mediaType : Option String) (text : String) : Content :=
  bytes mediaType (encodeUtf8 text)

/-! ## Section 2: What a content declares -/

/-- The media type, which layers do not change. -/
def mediaType : Content → Option String
  | bytes t _ => t
  | source s => s.mediaType
  | gzip inner => inner.mediaType
  | logging inner _ => inner.mediaType

/-- The declared length in bytes; `-1` if it is not known before writing. -/
def length : Content → Int
  | bytes _ data => data.length
  | source s => s.length
  | gzip _ => -1
  | logging inner _ => inner.length

/-- The coding that is declared on the wire. -/
def coding : Content → Option String
  | bytes _ _ => none
  | source _ => none
  | gzip _ => some "gzip"
  | logging inner _ => inner.coding

/-- Undoes the compression of every layer, with a function that undoes it once. -/
def unpack (gunzip : List UInt8 → List UInt8) : Content → List UInt8 → List UInt8
  | bytes _ _, written => written
  | source _, written => written
  | gzip inner, written => inner.unpack gunzip (gunzip written)
  | logging inner _, written => inner.unpack gunzip written

end Content

end Redial
