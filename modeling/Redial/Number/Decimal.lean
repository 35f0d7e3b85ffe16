import Redial.Number.Exact
import Redial.Text.Blank
import Redial.Text.Digit

/-! # Decimal text of numbers

    The shortest decimal that reads back as the same double, decimals with a fixed
    number of places, and the reading of decimals.

    `shortestDigits` tries one to seventeen digits; on each decimal grid only the two
    neighbours of the value can be hits, the first grid with a hit decides the number of
    digits, and of two hits the nearer is taken. -/

namespace Redial.Decimal

/-! ## Section 1: Shortest digits -/

/-- A positive value with the bounds of the reals that round to it, over one denominator.
    The bounds belong to the interval when `closed`. -/
structure Window where
  low : Nat
  value : Nat
  high : Nat
  den : Nat
  closed : Bool

/-- The window of a finite double other than zero.  Below a power of two the neighbours are
    closer together. -/
def Window.ofBinary (b : Binary) : Window :=
  let m := b.mantissa
  let below := if m = Nat.pow 2 52 && -1074 < b.exponent then 1 else 2
  let e := b.exponent - 2
  let num := if e < 0 then 1 else Nat.pow 2 e.toNat
  let den := if e < 0 then Nat.pow 2 (-e).toNat else 1
  ⟨(4 * m - below) * num, 4 * m * num, (4 * m + 2) * num, den, m % 2 == 0⟩

/-- The least `j` with `den ≤ num * 10 ^ j`, searched among the first `fuel` numbers. -/
def leadingZeros (num den : Nat) : Nat → Nat
  | 0 => 0
  | fuel + 1 => if den ≤ num then 0 else leadingZeros (num * 10) den fuel + 1

/-- The decimal exponent of the first digit of a quotient. -/
def magnitude (num den : Nat) : Int :=
  if den ≤ num then ((Nat.toDigits 10 (num / den)).length : Int) - 1
  else -(leadingZeros num den 400 : Int)

/-- The neighbour of the value on the grid of multiples of `10 ^ unit` that lies in the
    window, the nearer if both do, the even one if both are equally near. -/
def Window.gridPoint? (w : Window) (unit : Int) : Option Nat :=
  let up := if unit < 0 then Nat.pow 10 (-unit).toNat else 1
  let down := if unit < 0 then 1 else Nat.pow 10 unit.toNat
  let size := w.den * down
  let c := w.value * up / size
  let lowFits := if w.closed then w.low * up ≤ c * size else w.low * up < c * size
  let highFits :=
    if w.closed then (c + 1) * size ≤ w.high * up else (c + 1) * size < w.high * up
  let middle := (2 * c + 1) * size
  let point := 2 * (w.value * up)
  if lowFits && highFits then
    some (if point < middle || point = middle && c % 2 = 0 then c else c + 1)
  else if lowFits then some c
  else if highFits then some (c + 1)
  else none

/-- The digits of a number without zeros at the end, and how many zeros were dropped. -/
def significant (n : Nat) : List Char × Nat :=
  let digits := Nat.toDigits 10 n
  let kept := (digits.reverse.dropWhile (· == '0')).reverse
  (kept, digits.length - kept.length)

/-- Searches the grids from coarse to fine; returns the digits and the decimal exponent of
    the first one. -/
def Window.search (w : Window) (top : Int) (digits : Nat) : Nat → List Char × Int
  | 0 => (['0'], 0)
  | fuel + 1 =>
    let unit := top + 1 - digits
    match w.gridPoint? unit with
    | some c => ((significant c).1, unit + ((Nat.toDigits 10 c).length : Int) - 1)
    | none => w.search top (digits + 1) fuel

/-- The shortest digits that read back as the given double, and the exponent of the first. -/
def shortestDigits (b : Binary) : List Char × Int :=
  let w := Window.ofBinary b
  w.search (magnitude w.value w.den) 1 18

/-! ## Section 2: Layout -/

/-- A written exponent: its sign and at least two digits. -/
def exponentText (e : Int) : String :=
  let digits := toString e.natAbs
  (if e < 0 then "e-" else "e+") ++ (if digits.length < 2 then "0" ++ digits else digits)

/-- Positional notation from `10 ^ -4` up to below `10 ^ 16`, always with a point; otherwise
    one digit before the point and an exponent. -/
def layout (digits : List Char) (e : Int) : String :=
  if -4 ≤ e && e < 16 then
    if e < 0 then
      "0." ++ String.ofList (List.replicate ((-e).toNat - 1) '0' ++ digits)
    else
      let width := e.toNat + 1
      let whole := digits.take width ++ List.replicate (width - digits.length) '0'
      let rest := digits.drop width
      String.ofList whole ++ "." ++ String.ofList (if rest.isEmpty then ['0'] else rest)
  else
    let rest := digits.drop 1
    String.ofList (digits.take 1) ++ (if rest.isEmpty then "" else "." ++ String.ofList rest)
      ++ exponentText e

/-- The shortest decimal that reads back as the same double. -/
def shortest (x : Float) : String :=
  match Binary.ofFloat? x with
  | some b =>
    let text :=
      if b.mantissa = 0 then "0.0"
      else let (digits, e) := shortestDigits b; layout digits e
    if b.negative then "-" ++ text else text
  | none => if x.isNaN then "nan" else if 0 < x then "inf" else "-inf"

/-- A nonnegative quotient with a fixed number of places, a half going to the even digit. -/
def fixed (places num den : Nat) : String :=
  let digits := Nat.toDigits 10 (roundDiv (num * Nat.pow 10 places) den)
  let padded := List.replicate (places + 1 - digits.length) '0' ++ digits
  let whole := padded.length - places
  String.ofList (padded.take whole) ++ "." ++ String.ofList (padded.drop whole)

/-! ## Section 3: Reading -/

/-- Splits off a sign. -/
def readSign : List Char → Bool × List Char
  | '-' :: cs => (true, cs)
  | '+' :: cs => (false, cs)
  | cs => (false, cs)

/-- The number written by decimal digits. -/
def digitsValue (cs : List Char) : Nat := cs.foldl (fun n c => n * 10 + (c.toNat - 48)) 0

/-- Reads an exponent part, which may be absent. -/
def readExponent? : List Char → Option Int
  | [] => some 0
  | c :: cs =>
    if c = 'e' || c = 'E' then
      let (negative, ds) := readSign cs
      if ds.isEmpty || !ds.all Char.isDigit then none
      else some (if negative then -(digitsValue ds : Int) else digitsValue ds)
    else none

/-- A decimal exponent for a number of digits, brought within bounds beyond which every
    number of doubles is too large, or rounds to zero. -/
def clampScale (digits : Nat) (scale : Int) : Int :=
  if 400 < digits + scale then 400 else if digits + scale < -400 then -400 - digits else scale

/-- Reads digits with an optional point and exponent as an exact rational; one that no
    double can be near to is replaced by another such. -/
def readDigits? (cs : List Char) : Option Rat :=
  let whole := cs.takeWhile Char.isDigit
  let rest := cs.dropWhile Char.isDigit
  let (places, rest) := match rest with
    | '.' :: r => (r.takeWhile Char.isDigit, r.dropWhile Char.isDigit)
    | r => ([], r)
  if whole.isEmpty && places.isEmpty then none
  else (readExponent? rest).map fun e =>
    let digits := (whole ++ places).dropWhile (· == '0')
    let scale := clampScale digits.length (e - places.length)
    let n := digitsValue digits
    if scale < 0 then mkRat n (Nat.pow 10 (-scale).toNat) else mkRat (n * Nat.pow 10 scale.toNat) 1

/-- Reads a double: a decimal, `inf`, or `nan`, with an optional sign and blanks around it.
    The digits may be of any script and in groups. -/
def read? (s : String) : Option Float := do
  let cs ← Text.ungroup? false ((Text.stripWhile Text.isBlank s.toList).map Text.plainDigit)
  let (negative, cs) := readSign (cs.map Char.toLower)
  let signed (x : Float) := if negative then -x else x
  if cs = "nan".toList then return 0.0 / 0.0
  else if cs = "inf".toList || cs = "infinity".toList then return signed (1.0 / 0.0)
  else (readDigits? cs).map fun q => signed ((nearestFloat? q).getD (1.0 / 0.0))

end Redial.Decimal
