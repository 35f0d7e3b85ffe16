import Redial.Number.Arith

/-! # Numbers as callers give them

    A number may be given as an integer of any size, as a truth value that counts as 0
    or 1, or as a real.  Integers are exact among themselves and are rounded where they
    meet a real; comparisons are always exact. -/

namespace Redial

/-! ## Section 1: Numbers and their faults -/

/-- A number as given by a caller. -/
inductive Number (R : Type) where
  | whole (n : Int)
  | truth (b : Bool)
  | real (x : R)

/-- Why an arithmetic operation has no result. -/
inductive ArithFault where
  /-- An integer beyond the range of the reals it meets. -/
  | integerTooLarge
  /-- A quotient of integers beyond the range of the reals. -/
  | quotientTooLarge
  /-- A division of integers by zero. -/
  | divisionByZero
  /-- A division of reals by zero. -/
  | realDivisionByZero
  /-- An undefined value has no integer part. -/
  | undefinedToInteger
  /-- An infinite value has no integer part. -/
  | infiniteToInteger
  /-- The length of a pause is undefined. -/
  | undefinedPause
  /-- The length of a sleep is below zero. -/
  | negativeSleep
  /-- A pause is longer than a clock can count. -/
  | pauseTooLong
  deriving DecidableEq

/-- The message of an arithmetic fault. -/
def ArithFault.message : ArithFault → String
  | integerTooLarge => "int too large to convert to float"
  | quotientTooLarge => "integer division result too large for a float"
  | divisionByZero => "division by zero"
  | realDivisionByZero => "float division by zero"
  | undefinedToInteger => "cannot convert float NaN to integer"
  | infiniteToInteger => "cannot convert float infinity to integer"
  | undefinedPause => "Invalid value NaN (not a number)"
  | negativeSleep => "sleep length must be non-negative"
  | pauseTooLong => "timestamp out of range for platform time_t"

namespace Number

variable {R : Type}

/-- The integer that a number is, unless it is a real. -/
def int? : Number R → Option Int
  | whole n => some n
  | truth b => some (if b then 1 else 0)
  | real _ => none

@[simp] theorem int?_whole (n : Int) : (whole n : Number R).int? = some n := rfl

variable [Arith R]

/-- The exact value of a number. -/
def exact : Number R → Exact
  | whole n => .finite n
  | truth b => .finite (if b then 1 else 0)
  | real x => Arith.exact x

/-- How a number is written in messages. -/
def text : Number R → String
  | whole n => toString n
  | truth b => if b then "True" else "False"
  | real x => Arith.text x

/-! ## Section 2: Comparison -/

/-- Strictly below, exactly. -/
def lt (a b : Number R) : Bool := a.exact.lt b.exact

/-- Below or equal, exactly. -/
def le (a b : Number R) : Bool := a.exact.le b.exact

/-- Equal, exactly. -/
def eq (a b : Number R) : Bool := a.exact.eq b.exact

/-! ## Section 3: Arithmetic -/

/-- The number as a real, rounded. -/
def toReal : Number R → Except ArithFault R
  | real x => .ok x
  | whole n => match Arith.nearest? (n : Rat) with
    | some x => .ok x
    | none => .error .integerTooLarge
  | truth b => match Arith.nearest? (if b then 1 else 0) with
    | some x => .ok x
    | none => .error .integerTooLarge

/-- An operation that is exact on integers and works on reals otherwise. -/
def lift (onInts : Int → Int → Int) (onReals : R → R → R) (a b : Number R) :
    Except ArithFault (Number R) :=
  match a.int?, b.int? with
  | some m, some n => .ok (whole (onInts m n))
  | _, _ => do
    let x ← a.toReal
    let y ← b.toReal
    return real (onReals x y)

def add (a b : Number R) : Except ArithFault (Number R) := lift (· + ·) Arith.add a b

def sub (a b : Number R) : Except ArithFault (Number R) := lift (· - ·) Arith.sub a b

def mul (a b : Number R) : Except ArithFault (Number R) := lift (· * ·) Arith.mul a b

/-- The quotient, always a real: of two integers the real nearest to the exact quotient. -/
def div (a b : Number R) : Except ArithFault R :=
  match a.int?, b.int? with
  | some m, some n =>
    if n = 0 then .error .divisionByZero
    else match Arith.nearest? ((m : Rat) / (n : Rat)) with
      | some x => .ok x
      | none => .error .quotientTooLarge
  | _, _ => do
    let x ← a.toReal
    let y ← b.toReal
    if (Arith.exact y).eq (.finite 0) then .error .realDivisionByZero
    else return Arith.div x y

/-- The number without its fraction. -/
def truncate (a : Number R) : Except ArithFault Int :=
  match a.exact with
  | .finite q => .ok (truncateRat q)
  | .undefined => .error .undefinedToInteger
  | _ => .error .infiniteToInteger

/-- Whether the number is below zero. -/
def isNegative (a : Number R) : Bool := a.lt (whole 0)

/-- Whether the number is above zero. -/
def isPositive (a : Number R) : Bool := (whole 0).lt a

/-- Whether the number is zero. -/
def isZero (a : Number R) : Bool := a.eq (whole 0)

/-! ## Section 4: Small laws -/

@[simp] theorem sub_whole (m n : Int) : sub (whole m : Number R) (whole n) = .ok (whole (m - n)) := rfl

end Number

end Redial
