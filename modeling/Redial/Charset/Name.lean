/-! # Names of character sets

    A name is compared without regard to letter case, and runs of anything but ASCII
    letters, digits and points count as one separator.  Some names stand for byte
    transformations that are no character sets.

    Only the sets of this registry are known here.  A system knows more of them, for
    instance ISO 8859-4 and KOI8-R, and some that refuse to decode; what the engine does
    with these is said for any decoder. -/

namespace Redial

/-! ## Section 1: Character sets -/

/-- The supported character sets. -/
inductive Charset where
  | utf8
  /-- UTF-8 whose leading signature is dropped. -/
  | utf8Signed
  | ascii
  | latin1
  | latin9
  | windows1252
  /-- UTF-16 in the byte order of its mark, little-endian without one. -/
  | utf16
  | utf16le
  | utf16be
  /-- UTF-32 in the byte order of its mark, little-endian without one. -/
  | utf32
  | utf32le
  | utf32be
  deriving DecidableEq

namespace Charset

/-- What a name stands for. -/
inductive Meaning where
  | charset (c : Charset)
  /-- A byte transformation that does not produce text. -/
  | transformation
  deriving DecidableEq

/-! ## Section 2: Normal names -/

/-- Drops leading separators, lower-cases, and writes each inner run of separators as one
    underscore; `pending` tells whether a run has been passed since the last kept character. -/
def normalFrom (started pending : Bool) : List Char → List Char
  | [] => []
  | c :: rest =>
    if c.isAlphanum || c = '.' then
      (if pending && started then ['_'] else []) ++ c.toLower :: normalFrom true false rest
    else normalFrom started true rest

/-- The name by which a character set is looked up. -/
def normalName (name : String) : String := String.ofList (normalFrom false false name.toList)

/-! ## Section 3: The registry -/

/-- The canonical names, which have no points. -/
def canonicalNames : List (String × Meaning) := [
  ("utf_8", .charset .utf8), ("utf_8_sig", .charset .utf8Signed), ("ascii", .charset .ascii),
  ("latin_1", .charset .latin1), ("iso8859_1", .charset .latin1),
  ("iso8859_15", .charset .latin9), ("cp1252", .charset .windows1252),
  ("utf_16", .charset .utf16), ("utf_16_le", .charset .utf16le),
  ("utf_16_be", .charset .utf16be), ("utf_32", .charset .utf32),
  ("utf_32_le", .charset .utf32le), ("utf_32_be", .charset .utf32be),
  ("base64_codec", .transformation), ("bz2_codec", .transformation),
  ("hex_codec", .transformation), ("quopri_codec", .transformation),
  ("rot_13", .transformation), ("uu_codec", .transformation), ("zlib_codec", .transformation)]

/-- Further names. -/
def aliases : List (String × Meaning) := [
  ("u8", .charset .utf8), ("utf", .charset .utf8), ("utf8", .charset .utf8),
  ("utf8_ucs2", .charset .utf8), ("utf8_ucs4", .charset .utf8), ("cp65001", .charset .utf8),
  ("646", .charset .ascii), ("ansi_x3.4_1968", .charset .ascii),
  ("ansi_x3_4_1968", .charset .ascii), ("ansi_x3.4_1986", .charset .ascii),
  ("cp367", .charset .ascii), ("csascii", .charset .ascii), ("ibm367", .charset .ascii),
  ("iso646_us", .charset .ascii), ("iso_646.irv_1991", .charset .ascii),
  ("iso_ir_6", .charset .ascii), ("us", .charset .ascii), ("us_ascii", .charset .ascii),
  ("8859", .charset .latin1), ("cp819", .charset .latin1), ("csisolatin1", .charset .latin1),
  ("ibm819", .charset .latin1), ("iso8859", .charset .latin1), ("iso8859_1", .charset .latin1),
  ("iso_8859_1", .charset .latin1), ("iso_8859_1_1987", .charset .latin1),
  ("iso_ir_100", .charset .latin1), ("l1", .charset .latin1), ("latin", .charset .latin1),
  ("latin1", .charset .latin1),
  ("iso_8859_15", .charset .latin9), ("l9", .charset .latin9), ("latin9", .charset .latin9),
  ("1252", .charset .windows1252), ("windows_1252", .charset .windows1252),
  ("u16", .charset .utf16), ("utf16", .charset .utf16),
  ("unicodelittleunmarked", .charset .utf16le), ("utf_16le", .charset .utf16le),
  ("unicodebigunmarked", .charset .utf16be), ("utf_16be", .charset .utf16be),
  ("u32", .charset .utf32), ("utf32", .charset .utf32), ("utf_32le", .charset .utf32le),
  ("utf_32be", .charset .utf32be),
  ("base64", .transformation), ("base_64", .transformation), ("bz2", .transformation),
  ("hex", .transformation), ("quopri", .transformation),
  ("quoted_printable", .transformation), ("quotedprintable", .transformation),
  ("rot13", .transformation), ("uu", .transformation), ("zip", .transformation),
  ("zlib", .transformation)]

/-- A normal name whose points are read as separators. -/
def withoutPoints (name : String) : String :=
  String.ofList (name.toList.map fun c => if c = '.' then '_' else c)

/-- What a name stands for, if it is in the registry. -/
def meaning? (name : String) : Option Meaning :=
  let n := normalName name
  (aliases.lookup n).or ((aliases.lookup (withoutPoints n)).or (canonicalNames.lookup n))

end Charset

end Redial
