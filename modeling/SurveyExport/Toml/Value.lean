import SurveyExport.Json.Value

/-!
# TOML documents

A document is a tree of tables. How a table came to be decides what may still be added to it: a
table written in braces is closed, one that a header names is defined once, one that a header only
passes through may be defined later, and one made by dotted keys grows by dotted keys only.
-/

namespace SurveyExport.Toml

/-- How a table came to be. -/
inductive Origin where
  /-- Written in braces. -/
  | inline
  /-- Named by a header. -/
  | header
  /-- Passed through by a header. -/
  | implied
  /-- Made by dotted keys. -/
  | dotted
deriving DecidableEq

/-- A value of a document. -/
inductive Value where
  | text (s : String)
  | int (n : Int)
  | float (x : Float)
  | bool (b : Bool)
  /-- A date, a time or both, as written. -/
  | time (written : String)
  | array (items : List Value)
  /-- The tables that headers in double brackets append. -/
  | tables (items : List (List (String × Value)))
  | table (origin : Origin) (entries : List (String × Value))

/-- The entries of a table, in the order of their keys' first use. -/
abbrev Body := List (String × Value)

mutual

/-- The value as JSON; a time becomes an object, which no option accepts. -/
def Value.toJson : Value → Json
  | .text s => .text s
  | .int n => .int n
  | .float x => .float x
  | .bool b => .bool b
  | .time written => .object [("time", .text written)]
  | .array items => .array (itemsToJson items)
  | .tables items => .array (tablesToJson items)
  | .table _ entries => .object (entriesToJson entries)

/-- The items as JSON. -/
def itemsToJson : List Value → List Json
  | [] => []
  | v :: rest => v.toJson :: itemsToJson rest

/-- The tables as JSON. -/
def tablesToJson : List (List (String × Value)) → List Json
  | [] => []
  | entries :: rest => .object (entriesToJson entries) :: tablesToJson rest

/-- The entries as JSON. -/
def entriesToJson : List (String × Value) → List (String × Json)
  | [] => []
  | (k, v) :: rest => (k, v.toJson) :: entriesToJson rest

end

/--
Gives a dotted key a value; no key may have one already. The key may lead through tables that were
passed through by headers or made by dotted keys, but it ends in one of the latter kind or where it
began; `mayEnd` says whether it may end in this table.
-/
def putKey? (v : Value) : Bool → List String → Body → Option Body
  | _, [], _ => none
  | mayEnd, [k], entries =>
    if mayEnd && (Entries.lookup k entries).isNone then some (entries ++ [(k, v)]) else none
  | _, k :: rest, entries => do
    match Entries.lookup k entries with
    | none => some (entries ++ [(k, .table .dotted (← putKey? v true rest []))])
    | some (.table .dotted inner) =>
      some (Entries.put k (.table .dotted (← putKey? v true rest inner)) entries)
    | some (.table .implied inner) =>
      some (Entries.put k (.table .implied (← putKey? v false rest inner)) entries)
    | some (.tables items) =>
      match items.reverse with
      | last :: before =>
        let last ← putKey? v false rest last
        some (Entries.put k (.tables (last :: before).reverse) entries)
      | [] => none
    | _ => none

/--
Applies a change to the table that a path leads to, where tables on the way are made as needed; of
tables appended by headers the last one is meant.
-/
def updateAt? (change : Body → Option Body) : List String → Body → Option Body
  | [], entries => change entries
  | k :: rest, entries => do
    match Entries.lookup k entries with
    | none => some (entries ++ [(k, .table .implied (← updateAt? change rest []))])
    | some (.table origin inner) =>
      if origin = .inline then none
      else some (Entries.put k (.table origin (← updateAt? change rest inner)) entries)
    | some (.tables items) =>
      match items.reverse with
      | last :: before =>
        let last ← updateAt? change rest last
        some (Entries.put k (.tables (last :: before).reverse) entries)
      | [] => none
    | _ => none

/-- Defines the table that a header names. -/
def define? (path : List String) (entries : Body) : Option Body := do
  let k ← path.getLast?
  updateAt? (fun entries ↦
    match Entries.lookup k entries with
    | none => some (entries ++ [(k, .table .header [])])
    | some (.table .implied inner) => some (Entries.put k (.table .header inner) entries)
    | _ => none) path.dropLast entries

/-- Appends a table for a header in double brackets. -/
def append? (path : List String) (entries : Body) : Option Body := do
  let k ← path.getLast?
  updateAt? (fun entries ↦
    match Entries.lookup k entries with
    | none => some (entries ++ [(k, .tables [[]])])
    | some (.tables items) => some (Entries.put k (.tables (items ++ [[]])) entries)
    | _ => none) path.dropLast entries

end SurveyExport.Toml
