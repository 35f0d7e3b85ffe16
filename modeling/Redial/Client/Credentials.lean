import Redial.Charset.Decode
import Redial.Url.Basic

/-! # Credentials in URLs

    User information in a URL is sent as basic authorization: name and password are
    decoded, joined by a colon, and written in base 64. -/

namespace Redial.Client

/-! ## Section 1: Percent-decoding -/

/-- The value of a hexadecimal digit. -/
def hexValue? (c : Char) : Option Nat :=
  if c.isDigit then some (c.toNat - 0x30)
  else if 'a' ≤ c && c ≤ 'f' then some (c.toNat - 0x57)
  else if 'A' ≤ c && c ≤ 'F' then some (c.toNat - 0x37)
  else none

/-- The bytes of a percent-encoded text.  A percent sign that encodes nothing stands for
    itself. -/
def percentDecode : List Char → List UInt8
  | [] => []
  | '%' :: a :: b :: rest =>
    match hexValue? a, hexValue? b with
    | some m, some n => UInt8.ofNat (m * 16 + n) :: percentDecode rest
    | _, _ => 0x25 :: percentDecode (a :: b :: rest)
  | c :: rest => String.utf8EncodeChar c ++ percentDecode rest

/-! ## Section 2: Base 64 -/

/-- The digit of a number below 64. -/
def base64Digit (n : Nat) : Char :=
  if n < 26 then Char.ofNat (0x41 + n)
  else if n < 52 then Char.ofNat (0x61 + (n - 26))
  else if n < 62 then Char.ofNat (0x30 + (n - 52))
  else if n = 62 then '+' else '/'

/-- Bytes in base 64, three to four digits, filled up at the end. -/
def base64 : List UInt8 → List Char
  | [] => []
  | [a] => [base64Digit (a.toNat / 4), base64Digit (a.toNat % 4 * 16), '=', '=']
  | [a, b] =>
    [base64Digit (a.toNat / 4), base64Digit (a.toNat % 4 * 16 + b.toNat / 16),
      base64Digit (b.toNat % 16 * 4), '=']
  | a :: b :: c :: rest =>
    base64Digit (a.toNat / 4) :: base64Digit (a.toNat % 4 * 16 + b.toNat / 16)
      :: base64Digit (b.toNat % 16 * 4 + c.toNat / 64) :: base64Digit (c.toNat % 64)
      :: base64 rest

/-! ## Section 3: Authorization -/

/-- The authorization that a URL asks for: none if it names neither a user nor a password. -/
def authorization? (u : Url) : Option String :=
  let (name, password) := Text.cut ':' u.userinfo
  let decoded (part : List Char) := encodeUtf8 (String.ofList (Charset.decodeUtf8 (percentDecode part)))
  let name := decoded name
  let password := decoded (password.getD [])
  if name.isEmpty && password.isEmpty then none
  else some ("Basic " ++ String.ofList (base64 (name ++ 0x3a :: password)))

end Redial.Client
