import Redial.Charset.Name

/-! # Decoding bytes

    Decoding in a known character set never fails: whatever has no meaning in it becomes
    the replacement character.  In UTF-8 one replacement stands for each maximal part of
    a sequence, in the wider encodings for each unit or for the bytes left over at the
    end.

    A decoder takes the name of a set and fails if the name stands for none, or if the
    set refuses to decode. -/

namespace Redial.Charset

/-! ## Section 1: What cannot be decoded -/

/-- Stands for what cannot be decoded. -/
def replacement : Char := '\ufffd'

/-- The character of a code point, or the replacement. -/
def charOrReplacement (n : Nat) : Char := if n.isValidChar then Char.ofNat n else replacement

/-! ## Section 2: UTF-8 -/

/-- What has been read of a character: how many bytes are missing, between which bounds the
    next one lies, and the bits so far.  Nothing is missing between characters. -/
structure Utf8State where
  missing : Nat
  low : Nat
  high : Nat
  bits : Nat

/-- Between two characters. -/
def Utf8State.ready : Utf8State := ⟨0, 0, 0, 0⟩

/-- Reads the first byte of a character. -/
def utf8First (b : Nat) : List Char × Utf8State :=
  if b < 0x80 then ([Char.ofNat b], .ready)
  else if b < 0xc2 then ([replacement], .ready)
  else if b < 0xe0 then ([], ⟨1, 0x80, 0xbf, b - 0xc0⟩)
  else if b < 0xf0 then
    ([], ⟨2, if b = 0xe0 then 0xa0 else 0x80, if b = 0xed then 0x9f else 0xbf, b - 0xe0⟩)
  else if b < 0xf5 then
    ([], ⟨3, if b = 0xf0 then 0x90 else 0x80, if b = 0xf4 then 0x8f else 0xbf, b - 0xf0⟩)
  else ([replacement], .ready)

/-- Reads one byte; a byte that does not continue the character begins another one. -/
def utf8Step (s : Utf8State) (b : Nat) : List Char × Utf8State :=
  if s.missing = 0 then utf8First b
  else if s.low ≤ b && b ≤ s.high then
    let bits := s.bits * 64 + (b - 0x80)
    if s.missing = 1 then ([charOrReplacement bits], .ready)
    else ([], ⟨s.missing - 1, 0x80, 0xbf, bits⟩)
  else
    let (chars, s) := utf8First b
    (replacement :: chars, s)

/-- Decodes UTF-8 from a state. -/
def utf8From (s : Utf8State) : List UInt8 → List Char
  | [] => if s.missing = 0 then [] else [replacement]
  | b :: rest =>
    let (chars, s) := utf8Step s b.toNat
    chars ++ utf8From s rest

/-- Decodes UTF-8. -/
def decodeUtf8 (bytes : List UInt8) : List Char := utf8From .ready bytes

/-! ## Section 3: Sets of one byte -/

/-- The upper half of the Windows set from `80` to `9f`; zero where nothing is assigned. -/
def windowsUpper : List Nat := [
  0x20ac, 0, 0x201a, 0x0192, 0x201e, 0x2026, 0x2020, 0x2021,
  0x02c6, 0x2030, 0x0160, 0x2039, 0x0152, 0, 0x017d, 0,
  0, 0x2018, 0x2019, 0x201c, 0x201d, 0x2022, 0x2013, 0x2014,
  0x02dc, 0x2122, 0x0161, 0x203a, 0x0153, 0, 0x017e, 0x0178]

/-- A byte of the Windows set. -/
def windowsChar (b : Nat) : Char :=
  if 0x80 ≤ b && b < 0xa0 then
    match windowsUpper[b - 0x80]? with
    | some 0 => replacement
    | some n => Char.ofNat n
    | none => replacement
  else Char.ofNat b

/-- The bytes in which Latin-9 differs from Latin-1. -/
def latin9Changes : List (Nat × Char) := [
  (0xa4, '€'), (0xa6, 'Š'), (0xa8, 'š'), (0xb4, 'Ž'),
  (0xb8, 'ž'), (0xbc, 'Œ'), (0xbd, 'œ'), (0xbe, 'Ÿ')]

/-- A byte of Latin-9. -/
def latin9Char (b : Nat) : Char := (latin9Changes.lookup b).getD (Char.ofNat b)

/-- A byte of ASCII. -/
def asciiChar (b : Nat) : Char := if b < 0x80 then Char.ofNat b else replacement

/-! ## Section 4: Wider units -/

/-- A unit of two bytes in a byte order. -/
def unit16 (big : Bool) (a b : UInt8) : Nat :=
  if big then a.toNat * 256 + b.toNat else b.toNat * 256 + a.toNat

/-- A unit of four bytes in a byte order. -/
def unit32 (big : Bool) (a b c d : UInt8) : Nat :=
  if big then unit16 true a b * 65536 + unit16 true c d
  else unit16 false c d * 65536 + unit16 false a b

/-- The first half of a pair. -/
def isHighHalf (n : Nat) : Bool := 0xd800 ≤ n && n < 0xdc00

/-- The second half of a pair. -/
def isLowHalf (n : Nat) : Bool := 0xdc00 ≤ n && n < 0xe000

/-- Decodes UTF-16.  A half without its partner is replaced alone; a first half before less
    than a unit takes all that is left with it. -/
def decodeUtf16 (big : Bool) : List UInt8 → List Char
  | [] => []
  | [_] => [replacement]
  | [a, b] =>
    let u := unit16 big a b
    if isHighHalf u || isLowHalf u then [replacement] else [charOrReplacement u]
  | [a, b, _] =>
    let u := unit16 big a b
    if isHighHalf u then [replacement]
    else if isLowHalf u then [replacement, replacement]
    else [charOrReplacement u, replacement]
  | a :: b :: c :: d :: rest =>
    let u := unit16 big a b
    if isHighHalf u then
      let v := unit16 big c d
      if isLowHalf v then
        charOrReplacement (0x10000 + (u - 0xd800) * 1024 + (v - 0xdc00)) :: decodeUtf16 big rest
      else replacement :: decodeUtf16 big (c :: d :: rest)
    else if isLowHalf u then replacement :: decodeUtf16 big (c :: d :: rest)
    else charOrReplacement u :: decodeUtf16 big (c :: d :: rest)

/-- Decodes UTF-32. -/
def decodeUtf32 (big : Bool) : List UInt8 → List Char
  | a :: b :: c :: d :: rest =>
    charOrReplacement (unit32 big a b c d) :: decodeUtf32 big rest
  | [] => []
  | _ => [replacement]

/-! ## Section 5: All sets -/

/-- Decodes bytes in a character set. -/
def decode : Charset → List UInt8 → List Char
  | utf8, bytes => decodeUtf8 bytes
  | utf8Signed, 0xef :: 0xbb :: 0xbf :: rest => decodeUtf8 rest
  | utf8Signed, bytes => decodeUtf8 bytes
  | ascii, bytes => bytes.map fun b => asciiChar b.toNat
  | latin1, bytes => bytes.map fun b => Char.ofNat b.toNat
  | latin9, bytes => bytes.map fun b => latin9Char b.toNat
  | windows1252, bytes => bytes.map fun b => windowsChar b.toNat
  | utf16, 0xff :: 0xfe :: rest => decodeUtf16 false rest
  | utf16, 0xfe :: 0xff :: rest => decodeUtf16 true rest
  | utf16, bytes => decodeUtf16 false bytes
  | utf16le, bytes => decodeUtf16 false bytes
  | utf16be, bytes => decodeUtf16 true bytes
  | utf32, 0xff :: 0xfe :: 0 :: 0 :: rest => decodeUtf32 false rest
  | utf32, 0 :: 0 :: 0xfe :: 0xff :: rest => decodeUtf32 true rest
  | utf32, bytes => decodeUtf32 false bytes
  | utf32le, bytes => decodeUtf32 false bytes
  | utf32be, bytes => decodeUtf32 true bytes

end Redial.Charset

namespace Redial

/-! ## Section 6: Decoders -/

/-- Why bytes cannot be decoded under a name. -/
inductive CharsetFault where
  /-- No character set has this name. -/
  | unknown (name : String)
  /-- The name stands for a byte transformation. -/
  | notText (name : String)
  /-- The name holds a null character. -/
  | nullInName
  /-- The set has this name, but refuses to decode the bytes, with an error of its own. -/
  | refused (kind message : String)
  deriving DecidableEq

/-- Whether a name has just not been found among the character sets. -/
def CharsetFault.isLookup : CharsetFault → Bool
  | unknown _ | notText _ => true
  | nullInName | refused _ _ => false

/-- A way to decode bytes under the name of a character set. -/
abbrev Decoder : Type := String → List UInt8 → Except CharsetFault String

/-- The bytes of a text in UTF-8. -/
def encodeUtf8 (s : String) : List UInt8 := s.toList.flatMap String.utf8EncodeChar

/-- How many bytes of a name a message shows. -/
def CharsetFault.shownBytes : Nat := 400

/-- A name cut to the bytes that are shown; a character that is cut becomes a replacement. -/
def CharsetFault.shortened (name : String) : String :=
  String.ofList (Charset.decodeUtf8 ((encodeUtf8 name).take shownBytes))

/-- The message of a fault. -/
def CharsetFault.message : CharsetFault → String
  | unknown name => "unknown encoding: " ++ name
  | notText name =>
    "'" ++ shortened name ++ "' is not a text encoding; use codecs.decode() to handle arbitrary codecs"
  | nullInName => "embedded null character"
  | refused _ message => message

/-- Decodes bytes under the name of one of the supported character sets.  The name is not
    looked up if there is nothing to decode. -/
def decodeNamed : Decoder := fun name bytes =>
  if name.toList.contains '\x00' then .error .nullInName
  else if bytes.isEmpty then .ok ""
  else match Charset.meaning? name with
    | none => .error (.unknown name)
    | some .transformation => .error (.notText name)
    | some (.charset c) => .ok (String.ofList (c.decode bytes))

end Redial
