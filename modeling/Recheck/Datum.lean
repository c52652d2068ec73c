import Recheck.Json

/-!
# Data of documents

The values that a configuration file or a JSON document can hold.
-/

namespace Recheck

inductive Datum
  | null
  | bool (value : Bool)
  | int (value : Int)
  | real (value : Float)
  | text (value : Text)
  | moment
  | list (items : List Datum)
  | table (fields : List (Text × Datum))

namespace Datum

mutual

def ofJson : Json → Datum
  | .null => null
  | .bool b => bool b
  | .number (.whole n) => int n
  | .number (.real x) => real x
  | .text t => text t
  | .array items => list (ofItems items)
  | .object fields => table (ofFields fields)

def ofItems : List Json → List Datum
  | [] => []
  | item :: items => ofJson item :: ofItems items

def ofFields : List (Text × Json) → List (Text × Datum)
  | [] => []
  | (name, value) :: fields => (name, ofJson value) :: ofFields fields

end

end Datum

end Recheck
