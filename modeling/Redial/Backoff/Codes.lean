import Redial.Fault

/-! # The codes of a policy

    A policy is given the status codes that require a pause, as a list or a tuple.
    Values of other kinds are taken as they are, and are found out when a status is
    looked for in them. -/

namespace Redial.Backoff

/-- The codes in order, as a value. -/
def codesOf (codes : List Int) : Value := .tuple (codes.map .int)

/-- Whether a status is one of the given codes.  A byte string holds small numbers only, a
    text holds none, and what has no items cannot be looked into. -/
def holds (codes : Value) (status : Int) : Except Fault Bool :=
  match codes with
  | .list items => .ok (items.any fun item => item.same (.int status))
  | .tuple items => .ok (items.any fun item => item.same (.int status))
  | .bytes data =>
    if 0 ≤ status && status < 256 then .ok (data.contains (UInt8.ofNat status.toNat))
    else .error .notAByte
  | .text _ => .error .notInText
  | v => .error (.noItems v.kindName)

/-- The codes one by one. -/
def listCodes (codes : Value) : Except Fault (List Value) :=
  match codes with
  | .list items => .ok items
  | .tuple items => .ok items
  | .bytes data => .ok (data.map fun b => .int b.toNat)
  | .text s => .ok (s.toList.map fun c => .text c.toString)
  | v => .error (.notListed v.kindName)

end Redial.Backoff
