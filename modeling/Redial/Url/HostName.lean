import Redial.Text.Blank
import Redial.Text.Case
import Redial.Text.Quoted
import Redial.Url.HostTable
import Redial.Url.Punycode

/-! # Host names beyond ASCII

    A host name is a run of labels between points.  A label beyond ASCII is sent in
    Punycode behind a mark of its own, and a label with that mark can be read back.
    Every label must consist of letters that are allowed in host names, some of them
    only in certain surroundings; it may not begin or end with a hyphen nor begin with a
    mark, it has one direction, and it is at most 63 characters long when it is sent. -/

namespace Redial.Url

/-! ## Section 1: Faults -/

/-- Why a text is no host name. -/
inductive NameFault where
  /-- Nothing follows the mark of a sent label. -/
  | nothingSent
  /-- A sent label ends with a hyphen. -/
  | sentHyphen
  /-- What follows the mark of a sent label is no Punycode. -/
  | notPunycode
  | emptyLabel
  /-- Two hyphens at the third and fourth place. -/
  | innerHyphens
  /-- A hyphen at the beginning or at the end. -/
  | outerHyphen
  | initialMark
  /-- A character that is not allowed, its place counted from one, and the label. -/
  | badLetter (c : Char) (place : Nat) (label : String)
  /-- A character that is not allowed in its surroundings. -/
  | badSurroundings (c : Char) (place : Nat) (label : String)
  /-- A joiner that does not join. -/
  | badJoiner (c : Char) (place : Nat) (label : String)
  /-- A label with letters that run from right to left begins with a character that runs
      neither way. -/
  | badStart (label : String)
  /-- A character at a place runs against its label. -/
  | badDirection (place : Nat) (rightToLeft : Bool)
  | mixedNumerals
  | badEnd
  | longLabel
  | longName
  deriving DecidableEq

namespace NameFault

/-- A code point as messages show it. -/
def codePoint (c : Char) : String :=
  let digits := (Nat.toDigits 16 c.toNat).map Char.toUpper
  "U+" ++ String.ofList (List.replicate (4 - digits.length) '0' ++ digits)

/-- The message of a fault. -/
def message : NameFault → String
  | nothingSent => "Malformed A-label, no Punycode eligible content found"
  | sentHyphen => "A-label must not end with a hyphen"
  | notPunycode => "Invalid A-label"
  | emptyLabel => "Empty Label"
  | innerHyphens => "Label has disallowed hyphens in 3rd and 4th position"
  | outerHyphen => "Label must not start or end with a hyphen"
  | initialMark => "Label begins with an illegal combining character"
  | badLetter c place label =>
    "Codepoint " ++ codePoint c ++ " at position " ++ toString place ++ " of " ++ Text.quoted label
      ++ " not allowed"
  | badSurroundings c place label =>
    "Codepoint " ++ codePoint c ++ " not allowed at position " ++ toString place ++ " in "
      ++ Text.quoted label
  | badJoiner c place label =>
    "Joiner " ++ codePoint c ++ " not allowed at position " ++ toString place ++ " in "
      ++ Text.quoted label
  | badStart label =>
    "First codepoint in label " ++ Text.quoted label ++ " must be directionality L, R or AL"
  | badDirection place rightToLeft =>
    "Invalid direction for codepoint at position " ++ toString place ++ " in a "
      ++ (if rightToLeft then "right-to-left" else "left-to-right") ++ " label"
  | mixedNumerals => "Can not mix numeral types in a right-to-left label"
  | badEnd => "Label ends with illegal codepoint directionality"
  | longLabel => "Label too long"
  | longName => "Domain too long"

end NameFault

/-! ## Section 2: Letters -/

/-- Whether a code point lies between two others. -/
def between (first last : Nat) (c : Char) : Bool := first ≤ c.toNat && c.toNat ≤ last

/-- Whether a character may stand anywhere in a label. -/
def isHostLetter (c : Char) : Bool :=
  if c.toNat < 128 then c.isLower || c.isDigit || c == '-'
  else letterRuns.any fun r => between r.first r.last c && (c.toNat - r.first) % r.step == 0

/-- Whether a character is a mark that combines with the one before. -/
def isMark (c : Char) : Bool := markRanges.any fun r => between r.1 r.2 c

/-- Digits of the Arabic scripts. -/
def isArabicDigit (c : Char) : Bool := between 0x660 0x669 c

/-- Digits of Persian and Urdu. -/
def isEasternDigit (c : Char) : Bool := between 0x6f0 0x6f9 c

/-- Letters of Greek. -/
def isGreek (c : Char) : Bool := between 0x370 0x3ff c || between 0x1f00 0x1fff c

/-- Letters of Hebrew. -/
def isHebrew (c : Char) : Bool := between 0x591 0x5f4 c || between 0xfb1d 0xfb4f c

/-- Characters of Japanese. -/
def isJapanese (c : Char) : Bool :=
  between 0x3041 0x30fa c || between 0x30fd 0x30ff c || between 0x3005 0x3007 c
    || between 0x3400 0x9fff c || between 0x20000 0x3134f c

/-- Whether a character that needs certain surroundings has them; none if it is allowed
    nowhere. -/
def fits? (before : List Char) (c : Char) (after : List Char) : Option Bool :=
  if c = '\u00b7' then some (before.head? = some 'l' && after.head? = some 'l')
  else if c = '\u0375' then some (after.head?.any isGreek)
  else if c = '\u05f3' || c = '\u05f4' then some (before.head?.any isHebrew)
  else if c = '\u30fb' then some ((before ++ after).any isJapanese)
  else if isArabicDigit c then some (!(before ++ after).any isEasternDigit)
  else if isEasternDigit c then some (!(before ++ after).any isArabicDigit)
  else none

/-- A joiner joins after a mark only. -/
def isJoiner (c : Char) : Bool := c = '\u200c' || c = '\u200d'

/-- Checks the characters of a label; `before` holds those that are checked, the last first. -/
def checkLetters (label : String) (before : List Char) : List Char → Except NameFault Unit
  | [] => .ok ()
  | c :: after =>
    let place := before.length + 1
    if isHostLetter c then checkLetters label (c :: before) after
    else if isJoiner c then
      if before.head?.any isMark then checkLetters label (c :: before) after
      else .error (.badJoiner c place label)
    else match fits? before c after with
      | some true => checkLetters label (c :: before) after
      | some false => .error (.badSurroundings c place label)
      | none => .error (.badLetter c place label)

/-! ## Section 3: Directions -/

/-- How a character runs. -/
inductive Direction where
  | leftToRight
  | rightToLeft
  /-- A number that runs with its surroundings. -/
  | number
  /-- A number of a script that runs from right to left. -/
  | arabicNumber
  /-- Runs with the character before. -/
  | mark
  /-- Runs neither way. -/
  | neutral
  deriving DecidableEq

/-- How a character of a label runs. -/
def directionOf (c : Char) : Direction :=
  if c.isDigit || isEasternDigit c then .number
  else if c.toNat < 128 then (if c.isAlpha then .leftToRight else .neutral)
  else if isArabicDigit c || between 0x10d30 0x10d39 c then .arabicNumber
  else if isMark c then .mark
  else if between 0x590 0x8ff c || between 0xfb1d 0xfdff c || between 0xfe70 0xfeff c
      || between 0x10800 0x10fff c || between 0x1e800 0x1efff c then .rightToLeft
  else if c = '\u00b7' || c = '\u0375' || c = '\u30fb' then .neutral
  else .leftToRight

/-- Whether a direction may occur in a label that runs from right to left, or the other way. -/
def Direction.runsIn (rightToLeft : Bool) : Direction → Bool
  | leftToRight => !rightToLeft
  | .rightToLeft => rightToLeft
  | arabicNumber => rightToLeft
  | _ => true

/-- Checks that a label with letters from right to left runs one way. -/
def checkDirections (label : List Char) : Except NameFault Unit :=
  let directions := label.map directionOf
  if !directions.any fun d => d = .rightToLeft || d = .arabicNumber then .ok ()
  else match directions.head? with
    | some .leftToRight => run false directions
    | some .rightToLeft => run true directions
    | _ => .error (.badStart (String.ofList label))
where
  /-- Checks the directions of a label that runs the given way. -/
  run (rightToLeft : Bool) (directions : List Direction) : Except NameFault Unit :=
    match directions.findIdx? fun d => !d.runsIn rightToLeft with
    | some place => .error (.badDirection (place + 1) rightToLeft)
    | none =>
      if directions.contains .number && directions.contains .arabicNumber then
        .error .mixedNumerals
      else if (directions.filter (· != .mark)).getLast? = some .neutral then .error .badEnd
      else .ok ()

/-! ## Section 4: Labels -/

/-- Begins a label that is sent in Punycode. -/
def punycodeMark : List Char := ['x', 'n', '-', '-']

/-- The longest label that is sent. -/
def maxLabelLength : Nat := 63

/-- The longest name that is sent, without a point at its end. -/
def maxNameLength : Nat := 253

/-- Checks a label of a host name. -/
def checkLabel (label : List Char) : Except NameFault Unit :=
  if label.isEmpty then .error .emptyLabel
  else if (label.drop 2).take 2 = ['-', '-'] then .error .innerHyphens
  else if label.head? = some '-' || label.getLast? = some '-' then .error .outerHyphen
  else if label.head?.any isMark then .error .initialMark
  else do
    checkLetters (String.ofList label) [] label
    checkDirections label

/-- Reads a label in ASCII, which may be sent in Punycode. -/
def readLabel (label : List Char) : Except NameFault (List Char) :=
  if !punycodeMark.isPrefixOf label then (checkLabel label).map fun _ => label
  else
    let code := label.drop punycodeMark.length
    if code.isEmpty then .error .nothingSent
    else if code.getLast? = some '-' then .error .sentHyphen
    else match Punycode.decode? code with
      | none => .error .notPunycode
      | some label => (checkLabel label).map fun _ => label

/-- Refuses a sent label that is too long. -/
def fitLabel (label : List Char) : Except NameFault (List Char) :=
  if maxLabelLength < label.length then .error .longLabel else .ok label

/-- A label as it is sent. -/
def sentLabel (label : List Char) : Except NameFault (List Char) :=
  if label.all fun c => c.toNat < 128 then do
    let _ ← readLabel label
    fitLabel label
  else do
    checkLabel label
    fitLabel (punycodeMark ++ Punycode.encode label)

/-! ## Section 5: Names -/

/-- The points between labels; the wide ones count as plain points. -/
def isPoint (c : Char) : Bool := ['.', '\u3002', '\uff0e', '\uff61'].contains c

/-- The labels of a name, without an empty one at the end, and whether there was one. -/
def labelsOf (host : List Char) : List (List Char) × Bool :=
  let labels := Text.pieces '.' (host.map fun c => if isPoint c then '.' else c)
  if labels.getLast? = some [] then (labels.dropLast, true) else (labels, false)

/-- A host name as it is sent. -/
def sentName (host : List Char) : Except NameFault (List Char) := do
  let (labels, isEnded) := labelsOf (Text.lower (String.ofList host)).toList
  let sent ← labels.mapM sentLabel
  let name := Text.join '.' sent
  if maxNameLength < name.length then .error .longName
  else return if isEnded then name ++ ['.'] else name

/-- Reads a sent host name. -/
def readName (host : List Char) : Except NameFault (List (List Char)) :=
  (labelsOf host).1.mapM readLabel

end Redial.Url
