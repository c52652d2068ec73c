import Recheck.Json

/-!
# Fields of JSON documents

Lenient access to documents whose shape is known: what is missing reads as absent.
-/

namespace Recheck.Json

/-- The value of a field, null in its absence. -/
def entry (name : Text) (j : Json) : Json := (j.field? name).getD null

def text? : Json → Option Text
  | text t => some t
  | _ => none

def items? : Json → Option (List Json)
  | array items => some items
  | _ => none

def bool? : Json → Option Bool
  | bool b => some b
  | _ => none

def number? : Json → Option Number
  | number n => some n
  | _ => none

def whole? : Json → Option Int
  | number (.whole n) => some n
  | _ => none

def fields : Json → List (Text × Json)
  | object fields => fields
  | _ => []

/-- The text in a field, none in its absence. -/
def textAt? (name : Text) (j : Json) : Option Text := (j.entry name).text?

/-- The text in a field, empty in its absence. -/
def textAt (name : Text) (j : Json) : Text := (j.textAt? name).getD []

def itemsAt (name : Text) (j : Json) : List Json := (j.entry name).items?.getD []

def texts? (j : Json) : Option (List Text) :=
  j.items?.map fun items => items.map fun item => item.text?.getD []

def textsAt (name : Text) (j : Json) : List Text := (j.entry name).texts?.getD []

/-- The truth value in a field, or another in its absence. -/
def flagAt (name : Text) (absent : Bool) (j : Json) : Bool := ((j.entry name).bool?).getD absent

/-- The whole number in a field, zero in its absence. -/
def wholeAt (name : Text) (j : Json) : Int := ((j.entry name).whole?).getD 0

/-- The number in a field, zero in its absence. -/
def numberAt (name : Text) (j : Json) : Number := ((j.entry name).number?).getD (.whole 0)

end Recheck.Json
