/-! # Exact values of double-precision numbers

    A double is decoded into the rational number it stands for, or into one of the three
    values that are no number of the line; a rational is rounded back to the nearest
    double, a half going to the even neighbour.  Powers are written as `Nat.pow`, whose
    meaning does not depend on what is imported. -/

namespace Redial

/-! ## Section 1: Exact values -/

/-- What a stored number stands for. -/
inductive Exact where
  | finite (q : Rat)
  | positiveInfinity
  | negativeInfinity
  | undefined

namespace Exact

/-- Strictly below; nothing is below or above an undefined value. -/
def lt : Exact → Exact → Bool
  | finite a, finite b => a < b
  | finite _, positiveInfinity => true
  | negativeInfinity, finite _ => true
  | negativeInfinity, positiveInfinity => true
  | _, _ => false

/-- Equal; an undefined value equals nothing. -/
def eq : Exact → Exact → Bool
  | finite a, finite b => a == b
  | positiveInfinity, positiveInfinity => true
  | negativeInfinity, negativeInfinity => true
  | _, _ => false

/-- Below or equal. -/
def le (a b : Exact) : Bool := a.lt b || a.eq b

end Exact

/-! ## Section 2: Rounding -/

/-- The quotient rounded to the nearest integer, a half to the even neighbour. -/
def roundDiv (num den : Nat) : Nat :=
  let q := num / den
  let r := num % den
  if 2 * r < den then q
  else if den < 2 * r then q + 1
  else q + q % 2

/-- A rational without its fraction. -/
def truncateRat (q : Rat) : Int := Int.tdiv q.num q.den

/-! ## Section 3: Doubles -/

/-- A finite double as sign, integer mantissa and binary exponent. -/
structure Binary where
  negative : Bool
  mantissa : Nat
  exponent : Int

namespace Binary

/-- The rational `± mantissa * 2 ^ exponent`. -/
def toRat (b : Binary) : Rat :=
  let magnitude : Rat :=
    if b.exponent < 0 then mkRat b.mantissa (Nat.pow 2 (-b.exponent).toNat)
    else mkRat (b.mantissa * Nat.pow 2 b.exponent.toNat) 1
  if b.negative then -magnitude else magnitude

/-- Decodes a double; infinities and undefined values have no binary form. -/
def ofFloat? (x : Float) : Option Binary :=
  let bits := x.toBits.toNat
  let field : Nat := bits / Nat.pow 2 52 % 2048
  let fraction : Nat := bits % Nat.pow 2 52
  let negative : Bool := Nat.pow 2 63 ≤ bits
  if field = 2047 then none
  else if field = 0 then some ⟨negative, fraction, -1074⟩
  else some ⟨negative, fraction + Nat.pow 2 52, (field : Int) - 1075⟩

/-- The double with the given bit pattern of magnitude and sign. -/
def encode (negative : Bool) (magnitude : Nat) : Float :=
  Float.ofBits (UInt64.ofNat (magnitude + if negative then Nat.pow 2 63 else 0))

/-- The binary exponent at which a positive quotient has a mantissa of 53 bits, no smaller
    than the exponent of the least doubles. -/
def scaleOf (num den : Nat) : Int :=
  let guess : Int := (num.log2 : Int) - den.log2 - 52
  let fits :=
    if guess < 0 then den * Nat.pow 2 52 ≤ num * Nat.pow 2 (-guess).toNat
    else den * Nat.pow 2 (guess.toNat + 52) ≤ num
  max (-1074) (if fits then guess else guess - 1)

/-- The double nearest to a positive quotient; none if it is beyond the largest double. -/
def nearestPositive? (negative : Bool) (num den : Nat) : Option Float :=
  let e := scaleOf num den
  let m : Nat :=
    if e < 0 then roundDiv (num * Nat.pow 2 (-e).toNat) den
    else roundDiv num (den * Nat.pow 2 e.toNat)
  let (m, e) : Nat × Int := if m = Nat.pow 2 53 then (Nat.pow 2 52, e + 1) else (m, e)
  if 971 < e then none
  else if m < Nat.pow 2 52 then some (encode negative m)
  else some (encode negative ((e + 1075).toNat * Nat.pow 2 52 + (m - Nat.pow 2 52)))

end Binary

/-- The double nearest to a rational; none if it is beyond the largest double. -/
def nearestFloat? (q : Rat) : Option Float :=
  if q.num = 0 then some 0
  else Binary.nearestPositive? (q.num < 0) q.num.natAbs q.den

/-- What a double stands for. -/
def Exact.ofFloat (x : Float) : Exact :=
  match Binary.ofFloat? x with
  | some b => .finite b.toRat
  | none =>
    if x.isNaN then .undefined
    else if 0 < x then .positiveInfinity
    else .negativeInfinity

end Redial
