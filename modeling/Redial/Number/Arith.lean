import Redial.Number.Decimal

/-! # Arithmetic of times and intervals

    The operations that clocks and backoff intervals need, so that one definition of a
    policy runs on doubles and can be reasoned about on exact rationals. -/

namespace Redial

/-! ## Section 1: The operations -/

/-- Numbers that times and intervals are computed in. -/
class Arith (R : Type) where
  /-- The value that is stored. -/
  exact : R → Exact
  /-- Whether a minus sign is written; a stored zero may have one. -/
  negative : R → Bool
  /-- The stored number nearest to a rational; none if the rational is out of range. -/
  nearest? : Rat → Option R
  zero : R
  add : R → R → R
  sub : R → R → R
  mul : R → R → R
  div : R → R → R
  /-- How the number is written. -/
  text : R → String

/-! ## Section 2: Doubles and rationals -/

/-- Doubles: every operation rounds to the nearest. -/
instance : Arith Float where
  exact := Exact.ofFloat
  negative x := Nat.pow 2 63 ≤ x.toBits.toNat
  nearest? := nearestFloat?
  zero := 0
  add x y := x + y
  sub x y := x - y
  mul x y := x * y
  div x y := x / y
  text := Decimal.shortest

/-- Exact rationals: no operation rounds. -/
instance : Arith Rat where
  exact := Exact.finite
  negative q := q < 0
  nearest? := some
  zero := 0
  add p q := p + q
  sub p q := p - q
  mul p q := p * q
  div p q := p / q
  text q := toString q.num ++ "/" ++ toString q.den

namespace Arith

variable {R : Type} [Arith R]

/-- The number with a fixed count of decimal places. -/
def fixed (places : Nat) (x : R) : String :=
  match exact x with
  | .finite q =>
    (if negative x then "-" else "") ++ Decimal.fixed places q.num.natAbs q.den
  | .positiveInfinity => "inf"
  | .negativeInfinity => "-inf"
  | .undefined => "nan"

end Arith

end Redial
