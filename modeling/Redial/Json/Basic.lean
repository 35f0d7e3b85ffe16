/-! # JSON values

    Values whose numbers are integers and whose objects keep the order of their fields,
    as scenarios and their outcomes are written down, and the ways in which a
    description is taken apart: what is absent reads as nothing. -/

namespace Redial

/-! ## Section 1: Values -/

/-- A JSON value. -/
inductive Json where
  | null
  | bool (b : Bool)
  | int (n : Int)
  | str (s : String)
  | arr (xs : List Json)
  | obj (fields : List (String × Json))

namespace Json

instance : Inhabited Json := ⟨null⟩

/-! ## Section 2: Objects -/

/-- A field of an object. -/
def get? (j : Json) (name : String) : Option Json :=
  match j with
  | obj fields => fields.lookup name
  | _ => none

/-- A field that is given and not null. -/
def given? (j : Json) (name : String) : Option Json :=
  match j.get? name with
  | some null => none
  | other => other

/-- A field of an object, null if it is absent. -/
def get (j : Json) (name : String) : Json := (j.get? name).getD null

/-- The fields of an object. -/
def fields : Json → List (String × Json)
  | obj fields => fields
  | _ => []

/-! ## Section 3: Arrays -/

/-- The items of an array. -/
def items : Json → List Json
  | arr xs => xs
  | _ => []

/-- How many items an array has. -/
def size (j : Json) : Nat := j.items.length

/-- The item at a position, null if there is none. -/
def item (j : Json) (i : Nat) : Json := (j.items[i]?).getD null

/-- What is made of each item of a field. -/
def each {α : Type} (j : Json) (name : String) (f : Json → α) : List α := (j.get name).items.map f

/-! ## Section 4: Leaves -/

/-- A text, if the value is one. -/
def text? : Json → Option String
  | str s => some s
  | _ => none

/-- A text, empty if the value is none. -/
def text (j : Json) : String := j.text?.getD ""

/-- An integer; a truth value counts as zero or one. -/
def integer : Json → Int
  | int n => n
  | bool b => if b then 1 else 0
  | _ => 0

/-- An integer that is not negative. -/
def index (j : Json) : Nat := j.integer.toNat

/-- Whether the value counts as true: everything does but nothing, zero, and what is empty. -/
def isTrue : Json → Bool
  | null => false
  | bool b => b
  | int n => n != 0
  | str s => s != ""
  | arr xs => !xs.isEmpty
  | obj fields => !fields.isEmpty

/-- The text at a position. -/
def txt (j : Json) (i : Nat) : String := (j.item i).text

/-- The integer at a position. -/
def num (j : Json) (i : Nat) : Int := (j.item i).integer

/-- A text in a field, or else another one. -/
def textOr (j : Json) (name other : String) : String := ((j.get? name).map text).getD other

end Json

end Redial
