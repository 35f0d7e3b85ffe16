import Redial.Text.CaseTable

/-! # Letter case

    Full lower- and upper-casing of text: one character may become several (`ß` is
    written `SS`), and a capital sigma at the end of a word becomes a final sigma. -/

namespace Redial.Text

/-! ## Section 1: Single characters -/

/-- Whether a code point lies in one of the ranges. -/
def inRanges (ranges : List (Nat × Nat)) (n : Nat) : Bool :=
  ranges.any fun r => r.1 ≤ n && n ≤ r.2

/-- Moves a code point by the distance of the run that holds it; others stay. -/
def shiftBy (runs : List CaseRun) (n : Nat) : Nat :=
  match runs.find? fun r => r.first ≤ n && n ≤ r.last && (n - r.first) % r.step == 0 with
  | some r => ((n : Int) + r.delta).toNat
  | none => n

/-- The lower-case form of a character, apart from the rule for the final sigma. -/
def lowerChar (c : Char) : List Char :=
  if c.toNat < 128 then [c.toLower]
  else if c = 'İ' then ['i', '\u0307']
  else [Char.ofNat (shiftBy lowerRuns c.toNat)]

/-- The upper-case form of a character. -/
def upperChar (c : Char) : List Char :=
  if c.toNat < 128 then [c.toUpper]
  else match upperExpansions.lookup c.toNat with
    | some forms => forms.map Char.ofNat
    | none => [Char.ofNat (shiftBy upperRuns c.toNat)]

/-! ## Section 2: Words -/

/-- Passed over when the neighbours of a sigma are looked for. -/
def isCaseIgnorable (c : Char) : Bool := inRanges caseIgnorableRanges c.toNat

/-- Has case, and is not passed over. -/
def isCased (c : Char) : Bool := inRanges casedRanges c.toNat

/-- No cased character follows in the same word. -/
def endsWord (rest : List Char) : Bool :=
  match rest.dropWhile isCaseIgnorable with
  | [] => true
  | c :: _ => !isCased c

/-- Lower-cases characters; `inWord` tells whether a cased character came last, ignorable
    ones not counted. -/
def lowerFrom (inWord : Bool) : List Char → List Char
  | [] => []
  | c :: rest =>
    let here :=
      if c = 'Σ' then (if inWord && endsWord rest then ['ς'] else ['σ']) else lowerChar c
    here ++ lowerFrom (if isCaseIgnorable c then inWord else isCased c) rest

/-- Whether every character is ASCII. -/
def isAscii (s : String) : Bool := s.toList.all fun c => c.toNat < 128

/-- The lower-case form of a text. -/
def lower (s : String) : String :=
  if isAscii s then String.ofList (s.toList.map Char.toLower)
  else String.ofList (lowerFrom false s.toList)

/-- The upper-case form of a text. -/
def upper (s : String) : String := String.ofList (s.toList.flatMap upperChar)

end Redial.Text
