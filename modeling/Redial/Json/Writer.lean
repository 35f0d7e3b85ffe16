import Redial.Json.Basic

/-! # Writing JSON

    A value on one line, with a blank after every comma and every colon.  Only quotes,
    backslashes and control characters are escaped. -/

namespace Redial.Json

/-- A number in hexadecimal digits, with zeros up to a width. -/
def hexDigits (width n : Nat) : String :=
  let digits := Nat.toDigits 16 n
  String.ofList (List.replicate (width - digits.length) '0' ++ digits)

/-- A character inside a written text. -/
def writeChar (c : Char) : String :=
  if c == '"' || c == '\\' then "\\" ++ c.toString
  else if c.toNat < 32 then "\\u" ++ hexDigits 4 c.toNat
  else c.toString

/-- A text between quotes. -/
def writeString (s : String) : String :=
  "\"" ++ s.foldl (fun acc c => acc ++ writeChar c) "" ++ "\""

mutual

/-- Writes a value. -/
def write : Json → String
  | null => "null"
  | bool b => if b then "true" else "false"
  | int n => toString n
  | str s => writeString s
  | arr xs => "[" ++ String.intercalate ", " (writeItems xs) ++ "]"
  | obj fields => "\x7b" ++ String.intercalate ", " (writeFields fields) ++ "\x7d"

/-- Writes each item. -/
def writeItems : List Json → List String
  | [] => []
  | x :: xs => write x :: writeItems xs

/-- Writes each field after its name. -/
def writeFields : List (String × Json) → List String
  | [] => []
  | (name, x) :: fields => (writeString name ++ ": " ++ write x) :: writeFields fields

end

end Redial.Json
