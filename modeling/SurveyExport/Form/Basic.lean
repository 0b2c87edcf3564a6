import SurveyExport.Form.Question

/-!
# Forms

A form is an ordered tree. Its inner nodes are groups; a group either occurs once in each
submission or is repeated any number of times. Its leaves are questions. Every node carries its
xpath: the names on the path to it, without the form's own, with slashes between.
-/

namespace SurveyExport

/-- How often a group occurs inside the group around it. -/
inductive Occurrence where
  | once
  | repeated
deriving DecidableEq, Repr

/-- A node of a form. -/
inductive Node where
  | group (occurrence : Occurrence) (name xpath : String) (label : Option Label)
    (children : List Node)
  | question (q : Question)

namespace Node

/-- The xpath of a node. -/
def xpath : Node → String
  | .group _ _ xpath _ _ => xpath
  | .question q => q.xpath

/-- The label of a node. -/
def label : Node → Option Label
  | .group _ _ _ label _ => label
  | .question q => q.label

mutual

/-- The questions below a node, in the order declared. -/
def questions : Node → List Question
  | .group _ _ _ _ children => questionsOfAll children
  | .question q => [q]

/-- The questions below nodes, in the order declared. -/
def questionsOfAll : List Node → List Question
  | [] => []
  | n :: rest => questions n ++ questionsOfAll rest

end

mutual

/-- The labels of a node, of the nodes below it and of the choices listed with questions. -/
def labels : Node → List Label
  | .group _ _ _ label children => label.toList ++ labelsOfAll children
  | .question q => q.label.toList ++ q.choices.flatMap fun c ↦ c.label.toList

/-- The labels of nodes and of all below them. -/
def labelsOfAll : List Node → List Label
  | [] => []
  | n :: rest => labels n ++ labelsOfAll rest

end

end Node

/-- A form. -/
structure Form where
  /-- The form's name; the root section of an export has the same name. -/
  name : String
  title : Option String := none
  idString : Option String := none
  defaultLanguage : Option String := none
  children : List Node
  /-- The shared choice lists by their names. -/
  itemsets : KeyMap (List Choice) := KeyMap.empty

namespace Form

/-- All questions of the form, in the order declared. -/
def questions (f : Form) : List Question := Node.questionsOfAll f.children

/-- The languages of the labels in the form's tree, sorted and each once. -/
def languages (f : Form) : List String :=
  (KeyMap.ofList (((Node.labelsOfAll f.children).flatMap Label.languages).map fun l ↦ (l, ()))).keys

end Form

end SurveyExport
