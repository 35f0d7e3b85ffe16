import Redial.Text.CharTable

/-! # Decimal digits

    The decimal digits of any script, and digits in groups: a single underscore may
    stand between two digits, and says nothing. -/

namespace Redial.Text

/-- The value of a decimal digit of any script. -/
def digitValue? (c : Char) : Option Nat :=
  (decimalZeros.find? fun z => z ≤ c.toNat && c.toNat < z + 10).map fun z => c.toNat - z

/-- A decimal digit of any script as one of ASCII; any other character as it is. -/
def plainDigit (c : Char) : Char :=
  match digitValue? c with
  | some d => Char.ofNat (48 + d)
  | none => c

/-- Drops the underscores between digits; `after` tells whether a digit came last.  An
    underscore anywhere else is no part of a number. -/
def ungroup? (after : Bool) : List Char → Option (List Char)
  | [] => some []
  | '_' :: c :: rest =>
    if after && c.isDigit then (ungroup? true rest).map (c :: ·) else none
  | c :: rest => if c = '_' then none else (ungroup? c.isDigit rest).map (c :: ·)

end Redial.Text
