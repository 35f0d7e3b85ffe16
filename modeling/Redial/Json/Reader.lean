import Redial.Json.Basic

/-! # Reading JSON

    Reading follows the text from left to right; every step takes at least one
    character, so that the length of the text bounds the steps.  Text that is no JSON
    reads as the part of it that is. -/

namespace Redial.Json

/-! ## Section 1: Leaves -/

/-- A blank between the parts of a value. -/
def isSpace (c : Char) : Bool := c == ' ' || c == '\n' || c == '\t' || c == '\r'

/-- Drops blanks. -/
def skip (cs : List Char) : List Char := cs.dropWhile isSpace

/-- The value of a hexadecimal digit. -/
def hexValue (c : Char) : Nat :=
  if c.isDigit then c.toNat - 48
  else if 'a' ≤ c && c ≤ 'f' then c.toNat - 87
  else if 'A' ≤ c && c ≤ 'F' then c.toNat - 55
  else 0

/-- The number written in hexadecimal digits. -/
def hexNumber (cs : List Char) : Nat := cs.foldl (fun n c => n * 16 + hexValue c) 0

/-- The character that two halves of a pair stand for. -/
def paired? (high low : Nat) : Option Char :=
  if 0xd800 ≤ high && high < 0xdc00 && 0xdc00 ≤ low && low < 0xe000 then
    some (Char.ofNat (0x10000 + (high - 0xd800) * 0x400 + (low - 0xdc00)))
  else none

/-- The character that is written as an escape with a letter. -/
def escaped (c : Char) : Char :=
  match c with
  | 'n' => '\n'
  | 't' => '\t'
  | 'r' => '\r'
  | 'b' => Char.ofNat 8
  | 'f' => Char.ofNat 12
  | other => other

/-- Reads a text up to its closing quote; `acc` holds what has been read, the last first. -/
def readString (acc : List Char) : List Char → String × List Char
  | [] => (String.ofList acc.reverse, [])
  | '"' :: rest => (String.ofList acc.reverse, rest)
  | '\\' :: 'u' :: a :: b :: c :: d :: '\\' :: 'u' :: e :: f :: g :: h :: rest =>
    match paired? (hexNumber [a, b, c, d]) (hexNumber [e, f, g, h]) with
    | some p => readString (p :: acc) rest
    | none =>
      readString (Char.ofNat (hexNumber [a, b, c, d]) :: acc)
        ('\\' :: 'u' :: e :: f :: g :: h :: rest)
  | '\\' :: 'u' :: a :: b :: c :: d :: rest =>
    readString (Char.ofNat (hexNumber [a, b, c, d]) :: acc) rest
  | '\\' :: c :: rest => readString (escaped c :: acc) rest
  | c :: rest => readString (c :: acc) rest
termination_by cs => cs.length

/-- The number at the beginning of a text. -/
def readDigits (cs : List Char) : Int :=
  (cs.takeWhile Char.isDigit).foldl (fun n c => n * 10 + (c.toNat - 48)) 0

/-! ## Section 2: Values -/

/-- Forms of objects that are told apart by where they stand. -/
def placedNames : List String := ["f", "enum"]

/-- The name of the field that says where an object stands. -/
def placeName : String := "#"

/-- An object whose first field holds a text under one of some names is told its place. -/
def markPlace (fields : List (String × Json)) (place : Nat) : List (String × Json) :=
  match fields with
  | (name, str _) :: _ =>
    if placedNames.contains name then fields ++ [(placeName, int place)] else fields
  | _ => fields

mutual

/-- Reads a value within a number of steps; answers it with the rest. -/
def readValue : Nat → List Char → Json × List Char
  | 0, cs => (null, cs)
  | steps + 1, cs =>
    match skip cs with
    | 'n' :: 'u' :: 'l' :: 'l' :: rest => (null, rest)
    | 't' :: 'r' :: 'u' :: 'e' :: rest => (bool true, rest)
    | 'f' :: 'a' :: 'l' :: 's' :: 'e' :: rest => (bool false, rest)
    | '"' :: rest =>
      let (s, rest) := readString [] rest
      (str s, rest)
    | '[' :: rest => readItems steps [] rest
    | '\x7b' :: rest => readFields steps [] rest
    | '-' :: rest => (int (-readDigits rest), rest.dropWhile Char.isDigit)
    | rest => (int (readDigits rest), rest.dropWhile Char.isDigit)

/-- Reads the items of an array; `acc` holds what has been read, the last first. -/
def readItems : Nat → List Json → List Char → Json × List Char
  | 0, acc, cs => (arr acc.reverse, cs)
  | steps + 1, acc, cs =>
    match skip cs with
    | [] => (arr acc.reverse, [])
    | ']' :: rest => (arr acc.reverse, rest)
    | ',' :: rest => readItems steps acc rest
    | rest =>
      let (x, rest) := readValue steps rest
      readItems steps (x :: acc) rest

/-- Reads the fields of an object; `acc` holds what has been read, the last first. -/
def readFields : Nat → List (String × Json) → List Char → Json × List Char
  | 0, acc, cs => (obj acc.reverse, cs)
  | steps + 1, acc, cs =>
    match skip cs with
    | '\x7d' :: rest => (obj (markPlace acc.reverse rest.length), rest)
    | ',' :: rest => readFields steps acc rest
    | '"' :: rest =>
      let (name, rest) := readString [] rest
      match skip rest with
      | ':' :: rest =>
        let (x, rest) := readValue steps rest
        readFields steps ((name, x) :: acc) rest
      | rest => (obj acc.reverse, rest)
    | rest => (obj acc.reverse, rest)

end

/-- Reads a value. -/
def read (s : String) : Json :=
  let cs := s.toList
  (readValue (cs.length + 1) cs).1

end Redial.Json
