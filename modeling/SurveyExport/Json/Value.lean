import SurveyExport.KeyMap

/-!
# JSON values

Forms, submissions and options arrive as JSON. A value keeps the fields of an object in the order
in which they were written, and keeps a repeated key as often as it was written, because some
readers refuse a repeated key and others merge it (`Json.merged`).

What is well formed but cannot be held is `flawed`. It is refused where a value is needed and passed
over where values are ignored, as those of unknown keys are.
-/

namespace SurveyExport

/-- A JSON value. -/
inductive Json where
  | null
  | bool (b : Bool)
  /-- A number without fraction and exponent that fits 64 bits, with or without sign. -/
  | int (n : Int)
  /-- Any other number. -/
  | float (x : Float)
  | text (s : String)
  | array (items : List Json)
  /-- The fields in the order written. -/
  | object (fields : List (String × Json))
  /-- A number beyond the range, a text with half of a pair of codes, an object with such a key, or
  an array or object that is nested too deep. -/
  | flawed
deriving Inhabited

namespace Json

mutual

/-- The value with repeated keys merged: the first place and the last value of a key count. -/
def merged : Json → Json
  | .array items => .array (mergedItems items)
  | .object fields => .object (mergedFields fields [])
  | v => v

/-- The items with repeated keys merged. -/
def mergedItems : List Json → List Json
  | [] => []
  | v :: rest => merged v :: mergedItems rest

/-- Puts the fields one after the other into the fields `done`. -/
def mergedFields : List (String × Json) → List (String × Json) → List (String × Json)
  | [], done => done
  | (k, v) :: rest, done => mergedFields rest (Entries.put k (merged v) done)

end

mutual

/-- Whether nothing in the value is flawed. -/
def isSound : Json → Bool
  | .flawed => false
  | .array items => areSound items
  | .object fields => fieldsAreSound fields
  | _ => true

/-- Whether nothing in the items is flawed. -/
def areSound : List Json → Bool
  | [] => true
  | v :: rest => isSound v && areSound rest

/-- Whether nothing in the fields is flawed. -/
def fieldsAreSound : List (String × Json) → Bool
  | [] => true
  | (_, v) :: rest => isSound v && fieldsAreSound rest

end

/-- The value, if nothing in it is flawed. -/
def sound? (v : Json) : Option Json := if v.isSound then some v else none

/-- The value of a field; of a repeated key the first. -/
def field? (v : Json) (key : String) : Option Json :=
  match v with
  | .object fields => Entries.lookup key fields
  | _ => none

/-- Whether the value is an object. -/
def isObject : Json → Bool
  | .object _ => true
  | _ => false

end Json

end SurveyExport
