import Redial.Text.Case
import Redial.Text.CharTable

/-! # Quoted text

    The quoted form of texts and byte strings as error messages and listings show them.
    Single quotes are used unless the text holds a single quote and no double one; the
    backslash, the quote in use, line breaks, tabs and everything unprintable are
    escaped. -/

namespace Redial.Text

/-! ## Section 1: Characters -/

/-- Shown as itself in a quoted text. -/
def isPrintable (c : Char) : Bool := inRanges printableRanges c.toNat

/-- The lower-case hexadecimal digits of a number, padded with zeros to a width. -/
def hexPadded (width n : Nat) : List Char :=
  let digits := Nat.toDigits 16 n
  List.replicate (width - digits.length) '0' ++ digits

/-- The quote for a text: a double one only if that avoids escaping. -/
def quoteFor (cs : List Char) : Char :=
  if cs.contains '\'' && !cs.contains '"' then '"' else '\''

/-- The escape of a character by its number. -/
def numericEscape (n : Nat) : List Char :=
  if n < 0x100 then '\\' :: 'x' :: hexPadded 2 n
  else if n < 0x10000 then '\\' :: 'u' :: hexPadded 4 n
  else '\\' :: 'U' :: hexPadded 8 n

/-- A character as written between the given quotes. -/
def escapeChar (quote c : Char) : List Char :=
  if c = quote || c = '\\' then ['\\', c]
  else if c = '\n' then ['\\', 'n']
  else if c = '\r' then ['\\', 'r']
  else if c = '\t' then ['\\', 't']
  else if isPrintable c then [c]
  else numericEscape c.toNat

/-! ## Section 2: Texts and byte strings -/

/-- The quoted form of a text. -/
def quoted (s : String) : String :=
  let quote := quoteFor s.toList
  String.ofList (quote :: s.toList.flatMap (escapeChar quote) ++ [quote])

/-- A byte as written between the given quotes: ASCII only, the rest by number. -/
def escapeByte (quote : Char) (b : UInt8) : List Char :=
  if b.toNat < 127 then escapeChar quote (Char.ofNat b.toNat) else numericEscape b.toNat

/-- The quoted form of a byte string, marked by a leading `b`. -/
def quotedBytes (bytes : List UInt8) : String :=
  let quote := quoteFor (bytes.map fun b => Char.ofNat b.toNat)
  String.ofList ('b' :: quote :: bytes.flatMap (escapeByte quote) ++ [quote])

end Redial.Text
