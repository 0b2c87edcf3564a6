import SurveyExport.Form.Basic

/-!
# Forms as JSON

The library's own JSON for forms: each node is tagged by its kind, absent fields and empty lists
are left out, and only `randomize` is always there. The reader also accepts each record as an array
of its fields in declared order.
-/

namespace SurveyExport

namespace Choice

/-- The names of the fields of a choice. -/
def fieldNames : List String := ["name", "label"]

/-- Reads a choice. -/
def ofJson? (v : Json) : Option Choice := do
  let fields ← v.fields? fieldNames
  some ⟨← Json.required Json.text? fields "name", ← Json.optional Label.ofJson? fields "label"⟩

/-- The choice as JSON. -/
def toJson (c : Choice) : Json :=
  .object (("name", .text c.name) :: (c.label.toList.map fun l ↦ ("label", l.toJson)))

end Choice

/-- A field that is left out if it is absent. -/
def Json.presentField (name : String) (v : Option Json) : List (String × Json) :=
  v.toList.map fun v ↦ (name, v)

/-- A list field that is left out if it is empty. -/
def Json.listField (name : String) (items : List Json) : List (String × Json) :=
  if items.isEmpty then [] else [(name, .array items)]

namespace Question

/-- The names of the fields of a question. -/
def fieldNames : List String :=
  ["name", "xpath", "question_type", "label", "choices", "itemset", "choice_filter", "randomize",
    "hxl"]

/-- Reads a question from its fields. -/
def ofFields? (fields : List (String × Json)) : Option Question := do
  some {
    name := ← Json.required Json.text? fields "name"
    xpath := ← Json.required Json.text? fields "xpath"
    type := .ofName (← Json.required Json.text? fields "question_type")
    label := ← Json.optional Label.ofJson? fields "label"
    choices := ← Json.defaulted (Json.list? Choice.ofJson?) [] fields "choices"
    itemset := ← Json.optional Json.text? fields "itemset"
    choiceFilter := ← Json.optional Json.text? fields "choice_filter"
    randomize := ← Json.defaulted Json.bool? false fields "randomize"
    hashtag := ← Json.optional Json.text? fields "hxl" }

/-- The fields of a question as JSON. -/
def toFields (q : Question) : List (String × Json) :=
  [("name", .text q.name), ("xpath", .text q.xpath), ("question_type", .text q.type.name)] ++
    Json.presentField "label" (q.label.map Label.toJson) ++
    Json.listField "choices" (q.choices.map Choice.toJson) ++
    Json.presentField "itemset" (q.itemset.map .text) ++
    Json.presentField "choice_filter" (q.choiceFilter.map .text) ++
    [("randomize", .bool q.randomize)] ++
    Json.presentField "hxl" (q.hashtag.map .text)

end Question

namespace Node

/-- The names of the fields of a group. -/
def groupFieldNames : List String := ["name", "xpath", "label", "children"]

/-- The kind tag of a group. -/
def kindOf : Occurrence → String
  | .once => "group"
  | .repeated => "repeat"

/-- The occurrence that a kind tag stands for. -/
def occurrence? : String → Option Occurrence
  | "group" => some .once
  | "repeat" => some .repeated
  | _ => none

/-- The fields of an object without its kind tag, and the tag; the tag may stand only once. -/
def untag? (fields : List (String × Json)) : Option (String × List (String × Json)) := do
  match fields.filter (·.1 == "kind") with
  | [(_, .text kind)] => some (kind, fields.filter (·.1 != "kind"))
  | _ => none

/-- Reads the fields of a group other than its children. -/
def groupHead? (kind : String) (body : Json) :
    Option (Occurrence × String × String × Option Label) := do
  let occurrence ← occurrence? kind
  let fields ← body.fields? groupFieldNames
  some (occurrence, ← Json.required Json.text? fields "name",
    ← Json.required Json.text? fields "xpath", ← Json.optional Label.ofJson? fields "label")

mutual

/-- Reads a node: an object tagged by its kind, or an array that begins with the kind. -/
def ofJson? : Json → Option Node
  | .object fields => do
    let (kind, body) ← untag? fields
    if kind = "field" then some (.question (← Question.ofFields?
      (← (Json.object body).fields? Question.fieldNames)))
    else
      let (occurrence, name, xpath, label) ← groupHead? kind (.object body)
      some (.group occurrence name xpath label (← childrenOfFields? fields))
  | .array (.text kind :: body) => do
    if kind = "field" then some (.question (← Question.ofFields?
      (← (Json.array body).fields? Question.fieldNames)))
    else
      let (occurrence, name, xpath, label) ← groupHead? kind (.array body)
      some (.group occurrence name xpath label (← childrenAt? 3 body))
  | _ => none

/-- Reads the children in the fields of an object. -/
def childrenOfFields? : List (String × Json) → Option (List Node)
  | [] => none
  | (k, v) :: rest => if k = "children" then children? v else childrenOfFields? rest

/-- Reads the children at a place of an array. -/
def childrenAt? : Nat → List Json → Option (List Node)
  | _, [] => none
  | 0, v :: _ => children? v
  | n + 1, _ :: rest => childrenAt? n rest

/-- Reads an array of nodes. -/
def children? : Json → Option (List Node)
  | .array items => listOfJson? items
  | _ => none

/-- Reads nodes one after the other. -/
def listOfJson? : List Json → Option (List Node)
  | [] => some []
  | v :: rest => do
    let n ← ofJson? v
    some (n :: (← listOfJson? rest))

end

mutual

/-- The node as JSON. -/
def toJson : Node → Json
  | .group occurrence name xpath label children =>
    .object ([("kind", .text (kindOf occurrence)), ("name", .text name), ("xpath", .text xpath)] ++
      Json.presentField "label" (label.map Label.toJson) ++
      [("children", .array (listToJson children))])
  | .question q => .object (("kind", .text "field") :: q.toFields)

/-- The nodes as JSON. -/
def listToJson : List Node → List Json
  | [] => []
  | n :: rest => toJson n :: listToJson rest

end

end Node

namespace Form

/-- The names of the fields of a form. -/
def fieldNames : List String :=
  ["name", "title", "id_string", "default_language", "children", "itemsets"]

/-- Reads a form. -/
def ofJson? (v : Json) : Option Form := do
  let fields ← v.fields? fieldNames
  some {
    name := ← Json.required Json.text? fields "name"
    title := ← Json.optional Json.text? fields "title"
    idString := ← Json.optional Json.text? fields "id_string"
    defaultLanguage := ← Json.optional Json.text? fields "default_language"
    children := ← Json.required Node.children? fields "children"
    itemsets := ← Json.defaulted (Json.map? (Json.list? Choice.ofJson?)) KeyMap.empty fields
      "itemsets" }

/-- The value of the field of shared choice lists, which is left out if there are none. -/
def itemsetsValue (f : Form) : Option Json :=
  if f.itemsets.isEmpty then none
  else some (.object (f.itemsets.toList.map fun e ↦ (e.1, .array (e.2.map Choice.toJson))))

/-- The form as JSON. -/
def toJson (f : Form) : Json :=
  .object ([("name", .text f.name)] ++
    Json.presentField "title" (f.title.map .text) ++
    Json.presentField "id_string" (f.idString.map .text) ++
    Json.presentField "default_language" (f.defaultLanguage.map .text) ++
    [("children", .array (Node.listToJson f.children))] ++
    Json.presentField "itemsets" f.itemsetsValue)

end Form

end SurveyExport
