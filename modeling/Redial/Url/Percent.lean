/-! # Percent-encoding

    Each part of a URL has a set of characters that stand for themselves; every other
    character is written by its UTF-8 bytes.  The percent sign and the hexadecimal
    digits are in every set, so that what is already encoded stays as it is. -/

namespace Redial.Url

/-! ## Section 1: The safe characters of each part -/

/-- Printable ASCII, the space included. -/
def isPrintableAscii (c : Char) : Bool := 0x20 ≤ c.toNat && c.toNat ≤ 0x7e

/-- Letters, digits and the four marks that are safe everywhere. -/
def isUnreserved (c : Char) : Bool :=
  c.isAlphanum || c == '-' || c == '.' || c == '_' || c == '~'

/-- Safe in a fragment. -/
def fragmentSafe (c : Char) : Bool :=
  isPrintableAscii c && !(c == ' ' || c == '"' || c == '<' || c == '>' || c == '\x60')

/-- Safe in a query. -/
def querySafe (c : Char) : Bool :=
  isPrintableAscii c && !(c == ' ' || c == '"' || c == '#' || c == '<' || c == '>')

/-- Safe in a path. -/
def pathSafe (c : Char) : Bool :=
  querySafe c && !(c == '?' || c == '\x60' || c == '{' || c == '}')

/-- Safe in the user information. -/
def userinfoSafe (c : Char) : Bool :=
  pathSafe c && !(c == '/' || c == ';' || c == '=' || c == '@' || c == '[' || c == '\\'
    || c == ']' || c == '^' || c == '|')

/-- Safe in a host name. -/
def hostSafe (c : Char) : Bool :=
  isUnreserved c || "!$&'()*+,;=\"\x60\x7b\x7d%|\\".toList.contains c

/-! ## Section 2: Encoding -/

/-- The upper-case hexadecimal digit of a number below 16. -/
def hexDigit (n : Nat) : Char :=
  if n < 10 then Char.ofNat (0x30 + n) else Char.ofNat (0x41 + (n - 10))

/-- A byte as a percent sign and two digits. -/
def encodeByte (b : UInt8) : List Char := ['%', hexDigit (b.toNat / 16), hexDigit (b.toNat % 16)]

/-- A character as itself if it is safe, otherwise by its bytes. -/
def encodeChar (safe : Char → Bool) (c : Char) : List Char :=
  if safe c then [c] else (String.utf8EncodeChar c).flatMap encodeByte

/-- A text with everything unsafe encoded. -/
def encode (safe : Char → Bool) (cs : List Char) : List Char := cs.flatMap (encodeChar safe)

/-! ## Section 3: Small laws -/

@[simp] theorem encode_nil (safe : Char → Bool) : encode safe [] = [] := rfl

@[simp] theorem encode_append (safe : Char → Bool) (a b : List Char) :
    encode safe (a ++ b) = encode safe a ++ encode safe b := List.flatMap_append

theorem encode_eq_self {safe : Char → Bool} {cs : List Char} (h : ∀ c ∈ cs, safe c = true) :
    encode safe cs = cs := by
  induction cs with
  | nil => rfl
  | cons c rest ih =>
    have hc : safe c = true := h c (by simp)
    have hr := ih fun d hd => h d (by simp [hd])
    simp only [encode, List.flatMap_cons, encodeChar, hc, if_true] at hr ⊢
    rw [hr]
    rfl

end Redial.Url
