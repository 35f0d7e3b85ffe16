import Redial.Text.Blank
import Redial.Text.Digit

/-! # Addresses and ports

    The rules for the number forms of a host, and the reading of a port. -/

namespace Redial.Url

/-! ## Section 1: IPv4 -/

/-- A decimal number from 0 to 255 without leading zeros. -/
def isOctet (cs : List Char) : Bool :=
  !cs.isEmpty && cs.length ≤ 3 && cs.all Char.isDigit && (cs = ['0'] || cs.head? != some '0')
    && cs.foldl (fun n c => n * 10 + (c.toNat - 48)) 0 ≤ 255

/-- Four octets between points. -/
def isIPv4 (cs : List Char) : Bool :=
  let octets := Text.pieces '.' cs
  octets.length == 4 && octets.all isOctet

/-- A run of digits. -/
def isDigitRun (cs : List Char) : Bool := !cs.isEmpty && cs.all Char.isDigit

/-- Whether a host must be read as an IPv4 address: four runs of digits between points. -/
def looksLikeIPv4 (cs : List Char) : Bool :=
  let runs := Text.pieces '.' cs
  runs.length == 4 && runs.all isDigitRun

/-! ## Section 2: IPv6 -/

/-- A hexadecimal digit. -/
def isHexDigit (c : Char) : Bool :=
  c.isDigit || ('a' ≤ c && c ≤ 'f') || ('A' ≤ c && c ≤ 'F')

/-- One group of an IPv6 address. -/
def isGroup (cs : List Char) : Bool := !cs.isEmpty && cs.length ≤ 4 && cs.all isHexDigit

/-- The groups with an address of four octets at the end counted as two groups; none if that
    address is malformed. -/
def expandTail? (groups : List (List Char)) : Option (List (List Char)) :=
  match groups.getLast? with
  | none => some groups
  | some last =>
    if last.contains '.' then
      if isIPv4 last then some (groups.dropLast ++ [['0'], ['0']]) else none
    else some groups

/-- The positions of the empty groups that are neither first nor last. -/
def innerGaps (groups : List (List Char)) : List Nat :=
  (List.range groups.length).filter fun i =>
    0 < i && i + 1 < groups.length && groups[i]? == some []

/-- Eight groups, or fewer with one gap.  A gap at an end takes the empty group there with
    it. -/
def isGroupList (groups : List (List Char)) : Bool :=
  match innerGaps groups with
  | [] => groups.length == 8 && groups.all isGroup
  | [gap] =>
    let before := groups.take gap
    let after := groups.drop (gap + 1)
    let before := if before = [[]] then [] else before
    let after := if after = [[]] then [] else after
    before.all isGroup && after.all isGroup && before.length + after.length < 8
  | _ => false

/-- An IPv6 address, which may name a zone after a percent sign. -/
def isIPv6 (cs : List Char) : Bool :=
  let (address, zone) := Text.cut '%' cs
  let zoneFits := match zone with
    | none => true
    | some z => !z.isEmpty && !z.contains '%'
  let groups := Text.pieces ':' address
  !cs.contains '/' && zoneFits && 3 ≤ groups.length && match expandTail? groups with
    | none => false
    | some groups => groups.length ≤ 9 && isGroupList groups

/-! ## Section 3: Ports -/

/-- Reads digits with single underscores between them; `value` is what has been read, and
    `after` tells whether a digit came last. -/
def readDigits? (value : Nat) (after : Bool) : List Char → Option Nat
  | [] => if after then some value else none
  | c :: rest =>
    if c = '_' then (if after then readDigits? value false rest else none)
    else match Text.digitValue? c with
      | some d => readDigits? (value * 10 + d) true rest
      | none => none

/-- The most digits that a number may have. -/
def maxDigits : Nat := 4300

/-- Reads an integer: blanks around it, a sign, and digits of any script. -/
def readInteger? (cs : List Char) : Option Int :=
  let (negative, digits) := match Text.stripWhile Text.isBlank cs with
    | '-' :: ds => (true, ds)
    | '+' :: ds => (false, ds)
    | ds => (false, ds)
  if maxDigits < (digits.filter (· != '_')).length then none
  else (readDigits? 0 false digits).map fun n => if negative then -(n : Int) else n

/-- The port that a scheme has if none is given. -/
def defaultPort? (scheme : List Char) : Option Int :=
  match String.ofList scheme with
  | "ftp" => some 21
  | "http" => some 80
  | "https" => some 443
  | "ws" => some 80
  | "wss" => some 443
  | _ => none

end Redial.Url
