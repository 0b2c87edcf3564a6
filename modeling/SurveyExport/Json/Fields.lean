import SurveyExport.Json.Value

/-!
# Reading records from JSON

A record with declared fields is written as an object, in which unknown keys are ignored and a
declared key may stand only once, or as an array of its fields in their declared order, in which
fields at the end may be missing. A value that may be absent is also absent when it is `null`.
-/

namespace SurveyExport.Json

/-- The text of a value that is one. -/
def text? : Json → Option String
  | .text s => some s
  | _ => none

/-- The truth value of a value that is one. -/
def bool? : Json → Option Bool
  | .bool b => some b
  | _ => none

/-- Reads one of several names: the name, or an object with the name as its only key. -/
def named? {α : Type} (ofName? : String → Option α) : Json → Option α
  | .text s => ofName? s
  | .object [(s, .null)] => ofName? s
  | _ => none

/-- The items of an array. -/
def items? : Json → Option (List Json)
  | .array items => some items
  | _ => none

/-- The fields of an object. -/
def objectFields? : Json → Option (List (String × Json))
  | .object fields => some fields
  | _ => none

/-- The list that an array holds, if each item can be read. -/
def list? {α : Type} (read : Json → Option α) (v : Json) : Option (List α) := do
  (← v.items?).mapM read

/-- The map that an object holds, if each value can be read; the last of a repeated key counts. -/
def map? {α : Type} (read : Json → Option α) (v : Json) : Option (KeyMap α) := do
  let entries ← (← v.objectFields?).mapM fun e ↦ (read e.2).map fun x ↦ (e.1, x)
  some (KeyMap.ofList entries)

/-- The declared fields of a record; `none` if a declared key is repeated. -/
def declaredFields? (names : List String) : List (String × Json) → Option (List (String × Json))
  | [] => some []
  | (k, v) :: rest => do
    let others ← declaredFields? names rest
    if names.contains k then
      if (Entries.lookup k others).isSome then none else some ((k, v) :: others)
    else some others

/-- The fields of a record with the given names, written as an object or as an array. -/
def fields? (names : List String) : Json → Option (List (String × Json))
  | .object fields => declaredFields? names fields
  | .array items => if items.length ≤ names.length then some (names.zip items) else none
  | _ => none

/-- Reads a field that must be there. -/
def required {α : Type} (read : Json → Option α) (fields : List (String × Json)) (name : String) :
    Option α :=
  (Entries.lookup name fields).bind read

/-- Reads a field that has a default. -/
def defaulted {α : Type} (read : Json → Option α) (default : α) (fields : List (String × Json))
    (name : String) : Option α :=
  match Entries.lookup name fields with
  | none => some default
  | some v => read v

/-- Reads a field that may be absent or `null`. -/
def optional {α : Type} (read : Json → Option α) (fields : List (String × Json))
    (name : String) : Option (Option α) :=
  match Entries.lookup name fields with
  | none | some .null => some none
  | some v => (read v).map some

end SurveyExport.Json
