import Recheck.Decimal

/-!
# JSON values

A document is a value; the fields of an object keep their order.
-/

namespace Recheck

inductive Json
  | null
  | bool (value : Bool)
  | number (value : Number)
  | text (value : Text)
  | array (items : List Json)
  | object (fields : List (Text × Json))

namespace Json

def int (n : Int) : Json := number (.whole n)

/-- A whole number that is not negative. -/
def nat (n : Nat) : Json := int n

def texts (items : List Text) : Json := array (items.map text)

/-- A value, or null in its absence. -/
def option {α : Type} (encode : α → Json) : Option α → Json
  | none => null
  | some a => encode a

/-- The value of the first field with the name. -/
def field? (name : Text) : Json → Option Json
  | object fields => fields.lookup name
  | _ => none

end Json

end Recheck
