import Redial.Number.Basic
import Redial.Text.Quoted

/-! # Open values

    Header values and settings may be given as anything: nothing, numbers, texts, byte
    strings, members of an enumeration, lists and tuples of values, or objects known by
    name only.  A value has a plain text, which is used on its own, and a listed text,
    which is used inside lists. -/

namespace Redial

/-! ## Section 1: Values -/

/-- A value as given by a caller. -/
inductive Value where
  | nothing
  | number (n : Number Float)
  | text (s : String)
  | bytes (bs : List UInt8)
  /-- A real number that compares with no number.  Each occurrence is the same as itself
      only. -/
  | notANumber (occurrence : Nat)
  /-- A member of an enumeration, with its name and the value it stands for. -/
  | member (enumeration : Nat) (name : String) (value : Value)
  | list (items : List Value)
  | tuple (items : List Value)
  /-- An object of which only the name is known. -/
  | object (name : String)

namespace Value

instance : Inhabited Value := ⟨nothing⟩

/-- An integer value. -/
def int (n : Int) : Value := number (.whole n)

/-- A truth value. -/
def bool (b : Bool) : Value := number (.truth b)

/-- The number that a value is. -/
def number? : Value → Option (Number Float)
  | number n => some n
  | notANumber _ => some (.real (0.0 / 0.0))
  | _ => none

/-! ## Section 2: Text -/

mutual

/-- The text of a value inside a list. -/
def listed : Value → String
  | nothing => "None"
  | number n => n.text
  | text s => Text.quoted s
  | bytes bs => Text.quotedBytes bs
  | notANumber _ => "nan"
  | member _ name value => "<Mode." ++ name ++ ": " ++ listed value ++ ">"
  | list items => "[" ++ listedItems items ++ "]"
  | tuple [item] => "(" ++ listed item ++ ",)"
  | tuple items => "(" ++ listedItems items ++ ")"
  | object name => name

/-- The texts of the items of a list, separated by commas. -/
def listedItems : List Value → String
  | [] => ""
  | [item] => listed item
  | item :: items => listed item ++ ", " ++ listedItems items

end

/-- The text of a value on its own. -/
def plain : Value → String
  | text s => s
  | member _ name _ => "Mode." ++ name
  | v => listed v

/-! ## Section 3: Equality and truth -/

mutual

/-- Equality of values: numbers compare by their exact value, members by their enumeration
    and name, all else by kind and content. -/
def same : Value → Value → Bool
  | nothing, nothing => true
  | number m, number n => m.eq n
  | text s, text t => s == t
  | bytes a, bytes b => a == b
  | notANumber m, notANumber n => m == n
  | member e m _, member f n _ => e == f && m == n
  | list xs, list ys => sameItems xs ys
  | tuple xs, tuple ys => sameItems xs ys
  | object m, object n => m == n
  | _, _ => false

/-- Equality of two lists of values. -/
def sameItems : List Value → List Value → Bool
  | [], [] => true
  | x :: xs, y :: ys => same x y && sameItems xs ys
  | _, _ => false

end

/-- Whether a value counts as set: everything does but nothing, zero, and what is empty. -/
def isSet : Value → Bool
  | nothing => false
  | number n => !n.isZero
  | text s => s != ""
  | bytes bs => !bs.isEmpty
  | list items => !items.isEmpty
  | tuple items => !items.isEmpty
  | notANumber _ => true
  | member _ _ _ => true
  | object _ => true

/-- Whether the value is absent. -/
def isNothing : Value → Bool
  | nothing => true
  | _ => false

/-- The name of the kind of a value, as messages show it. -/
def kindName : Value → String
  | nothing => "NoneType"
  | number (.whole _) => "int"
  | number (.truth _) => "bool"
  | number (.real _) => "float"
  | text _ => "str"
  | bytes _ => "bytes"
  | notANumber _ => "float"
  | member _ _ _ => "Mode"
  | list _ => "list"
  | tuple _ => "tuple"
  | object _ => "object"

/-- The kind of a value, as messages list it. -/
def kindText : Value → String
  | member _ _ _ => "<enum 'Mode'>"
  | v => "<class '" ++ v.kindName ++ "'>"

@[simp] theorem isSet_bool (b : Bool) : (bool b).isSet = b := by
  cases b <;> decide

end Value

end Redial
