import Redial.Text.Blank

/-! # Punycode

    Text beyond ASCII written in ASCII: first the ASCII characters, then, in ascending
    order, the others as distances.  A distance counts the places that are passed, where
    every smaller code point counts at each place.  It is written in digits of base 36
    with the lowest first; the bias decides from which value on a digit is followed by
    another, and adapts to the distances seen so far. -/

namespace Redial.Url.Punycode

/-! ## Section 1: Digits -/

/-- The digit of a value: a letter below 26, a decimal digit from there on. -/
def digit (n : Nat) : Char := Char.ofNat (if n < 26 then n + 97 else n + 22)

/-- The value from which on the digit at a place is followed by another. -/
def threshold (bias place : Nat) : Nat := max 1 (min 26 (36 * place - bias))

/-- Every digit leaves room for one that is followed by another, and for one that is not. -/
theorem threshold_bounds (bias place : Nat) :
    1 ≤ threshold bias place ∧ threshold bias place ≤ 26 := by
  unfold threshold
  omega

/-- The digits of a distance, from a place on. -/
def digitsFrom (bias place n : Nat) : List Char :=
  let t := threshold bias place
  if n < t then [digit n]
  else digit (t + (n - t) % (36 - t)) :: digitsFrom bias (place + 1) ((n - t) / (36 - t))
termination_by n
decreasing_by
  have h := threshold_bounds bias place
  exact Nat.lt_of_le_of_lt (Nat.div_le_self _ _) (by omega)

/-- The digits of a distance. -/
def digits (bias n : Nat) : List Char := digitsFrom bias 1 n

/-! ## Section 2: The bias -/

/-- The bias for a typical distance, which is divided until one place can hold it. -/
def settle (places n : Nat) : Nat :=
  if 455 < n then settle (places + 1) (n / 35) else 36 * places + 36 * n / (n + 38)
termination_by n
decreasing_by exact Nat.div_lt_self (by omega) (by omega)

/-- The bias after a distance, with so many characters written.  The first distance is
    usually a long one and counts less. -/
def adapt (isFirst : Bool) (distance written : Nat) : Nat :=
  let half := if isFirst then distance / 700 else distance / 2
  settle 0 (half + half / written)

/-! ## Section 3: Writing -/

/-- What has been written beyond the ASCII characters. -/
structure Progress where
  out : List Char
  bias : Nat
  distance : Nat
  written : Nat
  isFirst : Bool

/-- Passes one place on the way to the occurrences of a code point. -/
def Progress.pass (n : Nat) (p : Progress) (c : Char) : Progress :=
  if c.toNat < n then { p with distance := p.distance + 1 }
  else if c.toNat = n then {
    out := p.out ++ digits p.bias p.distance
    bias := adapt p.isFirst p.distance (p.written + 1)
    distance := 0
    written := p.written + 1
    isFirst := false }
  else p

/-- Writes the occurrences of the given code points, in ascending order; all smaller than
    `next` are written already. -/
def writeAll (cs : List Char) (next : Nat) (p : Progress) : List Nat → Progress
  | [] => p
  | n :: rest =>
    let p := { p with distance := p.distance + (n - next) * (p.written + 1) }
    let p := cs.foldl (Progress.pass n) p
    writeAll cs (n + 1) { p with distance := p.distance + 1 } rest

/-- The code points beyond ASCII, in ascending order and each once. -/
def beyondAscii (cs : List Char) : List Nat :=
  (((cs.map Char.toNat).filter fun n => 128 ≤ n).mergeSort).eraseDups

/-- A text in Punycode. -/
def encode (cs : List Char) : List Char :=
  let ascii := cs.filter fun c => c.toNat < 128
  let start : Progress := ⟨[], 72, 0, ascii.length, true⟩
  ascii ++ (if ascii.isEmpty then [] else ['-']) ++ (writeAll cs 128 start (beyondAscii cs)).out

/-! ## Section 4: Reading -/

/-- The value of a digit. -/
def digitValue? (c : Char) : Option Nat :=
  if 'a' ≤ c && c ≤ 'z' then some (c.toNat - 97)
  else if c.isDigit then some (c.toNat - 22)
  else none

/-- Reads the digits of a distance, from a place on; answers the distance with the rest. -/
def readDigits? (bias place weight value : Nat) : List Char → Option (Nat × List Char)
  | [] => none
  | c :: rest => do
    let d ← digitValue? c
    let t := threshold bias place
    let value := value + d * weight
    if d < t then some (value, rest)
    else readDigits? bias (place + 1) (weight * (36 - t)) value rest

/-- Reading a distance takes at least one digit. -/
theorem length_lt_of_readDigits? {bias place weight value : Nat} {cs : List Char}
    {r : Nat × List Char} (h : readDigits? bias place weight value cs = some r) :
    r.2.length < cs.length := by
  induction cs generalizing place weight value with
  | nil => simp [readDigits?] at h
  | cons c rest ih =>
    rw [readDigits?] at h
    cases hd : digitValue? c with
    | none => simp [hd] at h
    | some d =>
      simp only [hd, Option.bind_eq_bind, Option.bind_some] at h
      split at h
      · cases h
        exact Nat.lt_succ_self _
      · exact Nat.lt_succ_of_lt (ih h)

/-- The character of a code point, if there is one. -/
def character? (n : Nat) : Option Char :=
  if n.isValidChar then some (Char.ofNat n) else none

/-- Puts characters into a text, each at its distance from the one before; `n` is the code
    point and `start` the place from which the next distance is counted. -/
def insertAll? (out : List Char) (bias n start : Nat) (isFirst : Bool) (cs : List Char) :
    Option (List Char) :=
  if cs.isEmpty then some out
  else match _h : readDigits? bias 1 1 0 cs with
    | none => none
    | some (distance, rest) =>
      let places := out.length + 1
      let place := (start + distance) % places
      let n := n + (start + distance) / places
      match character? n with
      | none => none
      | some c =>
        insertAll? (out.take place ++ c :: out.drop place) (adapt isFirst distance places) n
          (place + 1) false rest
termination_by cs.length
decreasing_by exact length_lt_of_readDigits? _h

/-- Reads a text in Punycode: what follows the last hyphen holds the distances. -/
def decode? (cs : List Char) : Option (List Char) :=
  let (ascii, distances) := Text.cutLast '-' cs
  insertAll? (ascii.getD []) 72 128 0 true distances

end Redial.Url.Punycode
