import SurveyExport.Json.Token
import SurveyExport.Json.Value

/-!
# Reading JSON

The reader is a machine with a stack of the arrays and objects that are open. Each token moves the
machine one step, so reading is a fold over the tokens. An array or object inside 127 others is
flawed.
-/

namespace SurveyExport.Json

/-- An open array or object; what it holds so far is kept in reverse. -/
inductive Frame where
  | array (items : List Json)
  /-- An object, the key whose value is being read, and whether no key is flawed. -/
  | object (fields : List (String × Json)) (key : String) (sound : Bool)

/-- What may come next. -/
inductive Expecting where
  | value
  /-- A value, or the end of the array just opened. -/
  | firstItem
  | key
  /-- A key, or the end of the object just opened. -/
  | firstKey
  | colon
  /-- The value is complete: a comma, an end, or nothing. -/
  | after (v : Json)

/-- The greatest number of arrays and objects that hold each other. -/
def maxDepth : Nat := 127

/-- The end of an array or object that the open ones on the stack hold. -/
def close (v : Json) (sound : Bool) (stack : List Frame) : Expecting × List Frame :=
  (.after (if sound && stack.length < maxDepth then v else .flawed), stack)

/-- A token where a value may stand. -/
def startValue? (stack : List Frame) : Token → Option (Expecting × List Frame)
  | .openArray => some (.firstItem, .array [] :: stack)
  | .openObject => some (.firstKey, .object [] "" true :: stack)
  | .text s => some (.after (.text s), stack)
  | .int n => some (.after (.int n), stack)
  | .float x => some (.after (.float x), stack)
  | .brokenText | .hugeNumber => some (.after .flawed, stack)
  | .bool b => some (.after (.bool b), stack)
  | .null => some (.after .null, stack)
  | _ => none

/-- A token where a key must stand. -/
def readKey? (fields : List (String × Json)) (sound : Bool) (stack : List Frame) :
    Token → Option (Expecting × List Frame)
  | .text k => some (.colon, .object fields k sound :: stack)
  | .brokenText => some (.colon, .object fields "" false :: stack)
  | _ => none

/-- One step of the machine. -/
def step? : Expecting × List Frame → Token → Option (Expecting × List Frame)
  | (.value, stack), t => startValue? stack t
  | (.firstItem, .array _ :: stack), .closeArray => some (close (.array []) true stack)
  | (.firstItem, stack), t => startValue? stack t
  | (.firstKey, .object _ _ _ :: stack), .closeObject => some (close (.object []) true stack)
  | (.key, .object fields _ sound :: stack), t => readKey? fields sound stack t
  | (.firstKey, .object fields _ sound :: stack), t => readKey? fields sound stack t
  | (.colon, stack), .colon => some (.value, stack)
  | (.after v, .array items :: stack), .comma => some (.value, .array (v :: items) :: stack)
  | (.after v, .array items :: stack), .closeArray =>
    some (close (.array (v :: items).reverse) true stack)
  | (.after v, .object fields k sound :: stack), .comma =>
    some (.key, .object ((k, v) :: fields) "" sound :: stack)
  | (.after v, .object fields k sound :: stack), .closeObject =>
    some (close (.object ((k, v) :: fields).reverse) sound stack)
  | _, _ => none

/-- The value of a sequence of tokens, if it is exactly one value. -/
def ofTokens? (tokens : List Token) : Option Json := do
  match ← tokens.foldlM step? (.value, []) with
  | (.after v, []) => some v
  | _ => none

/-- Reads the JSON value that a text consists of, with repeated keys kept; parts of it may be
flawed. -/
def readParts? (s : String) : Option Json := do ofTokens? (← tokens? s.toList)

/-- Reads the JSON value that a text consists of, with repeated keys kept. -/
def read? (s : String) : Option Json := (readParts? s).bind sound?

end SurveyExport.Json
