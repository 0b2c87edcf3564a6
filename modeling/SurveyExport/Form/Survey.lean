import SurveyExport.Form.Basic
import SurveyExport.Json.Reader
import SurveyExport.Json.Writer
import SurveyExport.Text.Lowercase

/-!
# Forms from survey definitions

A survey definition is JSON made by the tools that design surveys: a tree of elements, each with a
type and a name. Elements of type `group` and `repeat` become groups and all others questions, whose
own children are no nodes of the form: for a select question they are its choices. The xpath of a
node is computed from the names on the path to it.

* A definition that is not JSON, or whose fields have the wrong types, is `notJson`; the values of
  unknown fields only have to be well formed.
* A survey or an element that becomes a node must have a name that is not blank.
-/

namespace SurveyExport

/-- Why a survey definition is no form. -/
inductive FormError where
  /-- The text is not JSON of the right shape. -/
  | notJson
  /-- The survey has no name. -/
  | unnamedSurvey
  /-- An element of a type, below a path, has no name. -/
  | unnamedElement (type path : String)
deriving DecidableEq, Repr

namespace FormError

/-- What is wrong with the form, in words. -/
def message : FormError → String
  | notJson => "invalid json in form schema"
  | unnamedSurvey => "invalid form schema: survey has no name"
  | unnamedElement type path =>
    let place := if path.isEmpty then "/" else path
    s!"invalid form schema: element of type \x60{type}\x60 under \x60{place}\x60 has no name"

end FormError

namespace Survey

/-- A choice of a survey definition; a name that is not text is kept as JSON. -/
def choice? (v : Json) : Option Choice := do
  let fields ← v.fields? ["name", "label"]
  let name ← Entries.lookup "name" fields
  let label ← Json.optional Label.ofJson? fields "label"
  match ← name.sound? with
  | .text s => some ⟨s, label⟩
  | other => some ⟨other.merged.write, label⟩

/-- An element of a survey definition, as it is written. -/
structure Element where
  type : String
  name : Option String
  label : Option Label
  choices : List Choice
  itemset : Option String
  choiceFilter : Option String
  parameters : KeyMap Json
  /-- Attributes of the element's instance. -/
  attributes : KeyMap Json
  children : List Element

/-- The names of the fields of an element. -/
def elementFieldNames : List String :=
  ["type", "name", "label", "children", "choices", "itemset", "choice_filter", "parameters",
    "instance"]

/-- Reads an element from its fields and its children. -/
def element? (v : Json) (children : List Element) : Option Element := do
  let fields ← v.fields? elementFieldNames
  some {
    type := ← Json.defaulted Json.text? "" fields "type"
    name := ← Json.optional Json.text? fields "name"
    label := ← Json.optional Label.ofJson? fields "label"
    choices := ← Json.defaulted (Json.list? choice?) [] fields "choices"
    itemset := ← Json.optional Json.text? fields "itemset"
    choiceFilter := ← Json.optional Json.text? fields "choice_filter"
    parameters := ← Json.defaulted (Json.map? Json.sound?) KeyMap.empty fields "parameters"
    attributes := ← Json.defaulted (Json.map? Json.sound?) KeyMap.empty fields "instance"
    children }

mutual

/-- Reads an element, written as an object or as an array of its fields. -/
def ofJson? : Json → Option Element
  | .object fields => do element? (.object fields) (← childrenOfFields? fields)
  | .array items => do element? (.array items) (← childrenAt? 3 items)
  | _ => none

/-- Reads the children in the fields of an object. -/
def childrenOfFields? : List (String × Json) → Option (List Element)
  | [] => some []
  | (k, v) :: rest => if k = "children" then children? v else childrenOfFields? rest

/-- Reads the children at a place of an array. -/
def childrenAt? : Nat → List Json → Option (List Element)
  | _, [] => some []
  | 0, v :: _ => children? v
  | n + 1, _ :: rest => childrenAt? n rest

/-- Reads an array of elements. -/
def children? : Json → Option (List Element)
  | .array items => listOfJson? items
  | _ => none

/-- Reads elements one after the other. -/
def listOfJson? : List Json → Option (List Element)
  | [] => some []
  | v :: rest => do
    let e ← ofJson? v
    some (e :: (← listOfJson? rest))

end

/-- Whether a parameter is switched on. -/
def isOn : Json → Bool
  | .bool b => b
  | .text s => ["true", "yes", "1"].contains (Text.lowercaseAscii (Text.trim s))
  | .int n => n == 1
  | _ => false

/-- The choices of an element: its own, or for a select question without any its children. -/
def choicesOf (type : QuestionType) (own : List Choice) (children : List Element) : List Choice :=
  if type.isSelect && own.isEmpty then
    children.filterMap fun c ↦ c.name.map fun name ↦ ⟨name, c.label⟩
  else own

/-- The path of an element with a name below a path. -/
def childPath (path name : String) : String := if path.isEmpty then name else path ++ "/" ++ name

/-- The name of an element that becomes a node. -/
def nameOf (path type : String) (name : Option String) : Except FormError String :=
  match name with
  | some name => if (Text.trim name).isEmpty then .error (.unnamedElement type path) else .ok name
  | none => .error (.unnamedElement type path)

/-- The occurrence of the elements of a type that become groups. -/
def occurrence? : String → Option Occurrence
  | "group" => some .once
  | "repeat" => some .repeated
  | _ => none

mutual

/-- The node that an element below a path becomes. -/
def node (path : String) : Element → Except FormError Node
  | ⟨type, name, label, choices, itemset, choiceFilter, parameters, attributes, children⟩ => do
    let name ← nameOf path type name
    let xpath := childPath path name
    match occurrence? type with
    | some occurrence => pure (.group occurrence name xpath label (← nodes xpath children))
    | none =>
      let questionType := QuestionType.ofName type
      pure (.question {
        name, xpath, label, itemset, choiceFilter
        type := questionType
        choices := choicesOf questionType choices children
        randomize := (parameters.get? "randomize").any isOn
        hashtag := (attributes.get? "hxl").bind Json.text? })

/-- The nodes that elements below a path become. -/
def nodes (path : String) : List Element → Except FormError (List Node)
  | [] => pure []
  | e :: rest => do
    let n ← node path e
    pure (n :: (← nodes path rest))

end

end Survey

/-- A survey definition, as it is written. -/
structure Survey where
  name : String
  title : Option String
  idString : Option String
  defaultLanguage : Option String
  children : List Survey.Element
  choices : KeyMap (List Choice)

namespace Survey

/-- The names of the fields of a survey definition. -/
def fieldNames : List String :=
  ["name", "title", "id_string", "default_language", "children", "choices"]

/-- Reads a survey definition. -/
def ofValue? (v : Json) : Option Survey := do
  let fields ← v.fields? fieldNames
  some {
    name := ← Json.required Json.text? fields "name"
    title := ← Json.optional Json.text? fields "title"
    idString := ← Json.optional Json.text? fields "id_string"
    defaultLanguage := ← Json.optional Json.text? fields "default_language"
    children := ← Json.defaulted children? [] fields "children"
    choices := ← Json.defaulted (Json.map? (Json.list? choice?)) KeyMap.empty fields "choices" }

/-- The form that a survey definition describes. -/
def toForm (s : Survey) : Except FormError Form := do
  if (Text.trim s.name).isEmpty then .error .unnamedSurvey
  pure {
    name := s.name
    title := s.title
    idString := s.idString
    defaultLanguage := s.defaultLanguage
    children := ← nodes "" s.children
    itemsets := s.choices }

end Survey

/-- The form that the text of a survey definition describes. -/
def Form.ofSurveyText (text : String) : Except FormError Form :=
  match (Json.readParts? text).bind Survey.ofValue? with
  | some survey => survey.toForm
  | none => .error .notJson

end SurveyExport
