import SurveyExport.Json.Fields

/-!
# Labels

A label is one text or a text for each of several languages. Which text is shown follows a fixed
preference: the language asked for, then the form's default language, then the first language in
alphabetical order.

* `Label.languages_sorted`: the languages of a label come in strictly increasing order.
-/

namespace SurveyExport

/-- A label: plain, or with a text for each language. -/
inductive Label where
  | plain (text : String)
  | translated (texts : KeyMap String)
deriving DecidableEq, Repr

namespace Label

/-- The languages of a label, sorted. -/
def languages : Label → List String
  | .plain _ => []
  | .translated texts => texts.keys

/-- The text in a language; without it, or if it is missing, that of the first language. -/
def textIn (language : Option String) : Label → Option String
  | .plain text => some text
  | .translated texts => (language.bind texts.get?) <|> texts.values.head?

/-- Reads a label: a text, or an object of texts. -/
def ofJson? : Json → Option Label
  | .text s => some (.plain s)
  | .object fields => (Json.map? Json.text? (.object fields)).map .translated
  | _ => none

/-- The label as JSON. -/
def toJson : Label → Json
  | .plain text => .text text
  | .translated texts => .object (texts.toList.map fun e ↦ (e.1, .text e.2))

/-- The languages of a label strictly increase. -/
theorem languages_sorted (l : Label) : l.languages.Pairwise (· < ·) := by
  cases l with
  | plain => exact .nil
  | translated texts => simpa [languages, KeyMap.keys, List.pairwise_map] using texts.sorted

end Label

/-- The languages that labels are shown in, in the order of preference. -/
structure LabelLanguages where
  /-- The language asked for. -/
  target : Option String
  /-- The form's default language. -/
  default : Option String
deriving DecidableEq, Repr

namespace LabelLanguages

/-- The text that the preference picks. -/
def preferred (langs : LabelLanguages) : Label → Option String
  | .plain text => some text
  | .translated texts =>
    langs.target.bind texts.get? <|> langs.default.bind texts.get? <|> texts.values.head?

/-- The text that is shown for a label; none if it is missing or empty. -/
def textOf (langs : LabelLanguages) (label : Option Label) : Option String :=
  (label.bind langs.preferred).filter (· ≠ "")

/-- A text that is shown is never empty. -/
theorem textOf_ne_empty {langs : LabelLanguages} {label : Option Label} {text : String}
    (h : langs.textOf label = some text) : text ≠ "" := by
  simpa using (Option.filter_eq_some_iff.1 h).2

end LabelLanguages

end SurveyExport
