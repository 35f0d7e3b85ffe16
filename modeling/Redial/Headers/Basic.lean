import Redial.Value

/-! # Header containers

    A container holds headers in the order in which they were first set.  Names are
    looked up in any letter case and keep the spelling of their first use; setting a
    header again changes its value and nothing else.  A value of nothing keeps the entry
    but sends no line. -/

namespace Redial

/-! ## Section 1: Wire values -/

namespace Value

/-- The wire text of a single value.  A member of an enumeration is sent as the text it
    stands for, or as its name if it stands for something else. -/
def wireText : Value → String
  | member _ _ (text s) => s
  | member _ name _ => name
  | v => plain v

/-- The wire texts of a header value: one per item of a list or tuple, none for nothing. -/
def wireTexts : Value → List String
  | nothing => []
  | list items => (items.filter fun v => !v.isNothing).map wireText
  | tuple items => (items.filter fun v => !v.isNothing).map wireText
  | v => [wireText v]

/-- The items to which another value is added. -/
def items : Value → List Value
  | list vs => vs
  | tuple vs => vs
  | v => [v]

end Value

/-! ## Section 2: The container -/

/-- One header: its name as first spelled, and its value. -/
structure Header where
  name : String
  value : Value

/-- The name by which a header is found. -/
def Header.key (h : Header) : String := Text.lower h.name

/-- A case-insensitive, ordered container of headers. -/
structure Headers where
  entries : List Header

namespace Headers

/-- Without any header. -/
def empty : Headers := ⟨[]⟩

/-- The entry of a name. -/
def find? (h : Headers) (name : String) : Option Header :=
  h.entries.find? fun e => e.key == Text.lower name

/-- The value of a name. -/
def get? (h : Headers) (name : String) : Option Value := (h.find? name).map Header.value

/-- Whether a name is stored. -/
def contains (h : Headers) (name : String) : Bool := (h.find? name).isSome

/-- The names in their order and spelling. -/
def names (h : Headers) : List String := h.entries.map Header.name

/-- The number of entries. -/
def size (h : Headers) : Nat := h.entries.length

/-- Replaces the value of the first entry with a key, or appends a new entry. -/
def setIn (name : String) (value : Value) : List Header → List Header
  | [] => [⟨name, value⟩]
  | e :: rest =>
    if e.key = Text.lower name then ⟨e.name, value⟩ :: rest else e :: setIn name value rest

/-- Sets a header; a stored name keeps its place and spelling. -/
def set (h : Headers) (name : String) (value : Value) : Headers :=
  ⟨setIn name value h.entries⟩

/-- Removes a name; nothing happens if it is not stored. -/
def erase (h : Headers) (name : String) : Headers :=
  ⟨h.entries.filter fun e => e.key != Text.lower name⟩

/-- Adds a value to a header: a stored value other than nothing becomes a list. -/
def add (h : Headers) (name : String) (value : Value) : Headers :=
  match h.get? name with
  | none => h.set name value
  | some .nothing => h.set name value
  | some current => h.set name (.list (current.items ++ [value]))

/-- Every wire text of a name, in order. -/
def texts (h : Headers) (name : String) : List String :=
  match h.get? name with
  | none => []
  | some v => v.wireTexts

/-- The first wire text of a name. -/
def first? (h : Headers) (name : String) : Option String := (h.texts name).head?

/-! ## Section 3: Construction -/

/-- Sets headers one after the other. -/
def setAll (h : Headers) (pairs : List (String × Value)) : Headers :=
  pairs.foldl (fun h p => h.set p.1 p.2) h

/-- Adds headers one after the other, so that repeated names accumulate. -/
def addAll (h : Headers) (pairs : List (String × Value)) : Headers :=
  pairs.foldl (fun h p => h.add p.1 p.2) h

/-- The container that a caller starts with: it asks for the given content encoding, if any. -/
def initial (acceptEncoding : Value) : Headers :=
  match acceptEncoding with
  | .nothing => empty
  | coding => empty.set "Accept-Encoding" coding

/-- A container read from the wire: no header but the given ones. -/
def ofWire (pairs : List (String × String)) : Headers :=
  empty.addAll (pairs.map fun p => (p.1, .text p.2))

/-! ## Section 4: Mapping operations -/

/-- The stored value, or else the given one, which is then stored. -/
def getOrSet (h : Headers) (name : String) (value : Value) : Value × Headers :=
  match h.get? name with
  | some stored => (stored, h)
  | none => (value, h.set name value)

/-- Removes the first entry. -/
def popFirst? (h : Headers) : Option (Header × Headers) :=
  match h.entries with
  | [] => none
  | e :: _ => some (e, h.erase e.name)

/-- The same names in the same spelling with the same values, in any order. -/
def sameAs (g h : Headers) : Bool :=
  g.size == h.size && g.entries.all fun e =>
    match h.entries.find? fun f => f.name == e.name with
    | some f => e.value.same f.value
    | none => false

/-- The listing of a container. -/
def listing (h : Headers) : String :=
  let item (e : Header) := Text.quoted e.name ++ ": " ++ e.value.listed
  "HttpHeaders(\x7b" ++ String.intercalate ", " (h.entries.map item) ++ "\x7d)"

end Headers

/-- Pairs of a dictionary literal: a repeated name keeps its first place and its last value. -/
def dictionary (pairs : List (String × Value)) : List (String × Value) :=
  pairs.foldl (fun d p =>
    if d.any (fun e => e.1 == p.1) then d.map fun e => if e.1 == p.1 then p else e
    else d ++ [p]) []

/-! ## Section 5: Known fields -/

/-- The header fields that have an accessor of their own. -/
inductive Field where
  | accept | acceptEncoding | authorization | contentEncoding | contentLength | contentType
  | ifMatch | ifModifiedSince | ifNoneMatch | ifRange | ifUnmodifiedSince
  | location | retryAfter | userAgent
  deriving DecidableEq

/-- The name of a known field. -/
def Field.name : Field → String
  | accept => "Accept"
  | acceptEncoding => "Accept-Encoding"
  | authorization => "Authorization"
  | contentEncoding => "Content-Encoding"
  | contentLength => "Content-Length"
  | contentType => "Content-Type"
  | ifMatch => "If-Match"
  | ifModifiedSince => "If-Modified-Since"
  | ifNoneMatch => "If-None-Match"
  | ifRange => "If-Range"
  | ifUnmodifiedSince => "If-Unmodified-Since"
  | location => "Location"
  | retryAfter => "Retry-After"
  | userAgent => "User-Agent"

/-- Every known field. -/
def Field.all : List Field := [
  .accept, .acceptEncoding, .authorization, .contentEncoding, .contentLength, .contentType,
  .ifMatch, .ifModifiedSince, .ifNoneMatch, .ifRange, .ifUnmodifiedSince,
  .location, .retryAfter, .userAgent]

namespace Headers

/-- The first wire text of a known field. -/
def field? (h : Headers) (f : Field) : Option String := h.first? f.name

/-- Sets a known field. -/
def setField (h : Headers) (f : Field) (value : Value) : Headers := h.set f.name value

/-- Removes a known field. -/
def eraseField (h : Headers) (f : Field) : Headers := h.erase f.name

end Headers

end Redial
