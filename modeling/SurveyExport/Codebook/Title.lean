import SurveyExport.Options.Basic
import SurveyExport.Text.Search

/-!
# Column titles

A column is titled by its xpath or, where titles are truncated, by the part of it that names the
column: the question's name, the question's and the choice's name, or the last segment of a
component's xpath. The group delimiter then takes the place of the slashes.

* `pointKeys` gives the keys of the four components of a geopoint question.
-/

namespace SurveyExport

/-- What a column shows, as far as its title depends on it. -/
inductive Titled where
  | question (name : String)
  | choice (question choice : String)
  | component
  | column
deriving DecidableEq, Repr

namespace Titled

/-- The title before the delimiter is set. -/
def base (truncate : Bool) (xpath : String) (shown : Titled) : String :=
  if truncate then
    match shown with
    | .question name => name
    | .choice asked chosen => asked ++ "/" ++ chosen
    | .component => Text.lastSegment xpath
    | .column => xpath
  else xpath

/-- A text with the delimiter in place of slashes. -/
def delimited (delimiter : Delimiter) (s : String) : String :=
  match delimiter with
  | .slash => s
  | .dot => String.ofList (s.toList.map fun c ↦ if c = '/' then '.' else c)

/-- The title of a column. -/
def title (delimiter : Delimiter) (truncate : Bool) (xpath : String) (shown : Titled) : String :=
  delimited delimiter (base truncate xpath shown)

end Titled

/-- The title of a column under the given options. -/
def Options.columnTitle (options : Options) (xpath : String) (shown : Titled) : String :=
  shown.title options.groupDelimiter options.truncatesTitles xpath

/-- The endings of the keys of a geopoint's components, in output order. -/
def pointSuffixes : List String := ["latitude", "longitude", "altitude", "precision"]

/-- The path before the last name of an xpath, with its slash, and the name. -/
def splitName (xpath : String) : String × String :=
  match Text.splitLast? '/' xpath with
  | some (before, name) => (before ++ "/", name)
  | none => ("", xpath)

/-- The keys of the components of a geopoint question. -/
def pointKeys (xpath : String) : List String :=
  let (path, name) := splitName xpath
  pointSuffixes.map fun suffix ↦ path ++ "_" ++ name ++ "_" ++ suffix

/-- A geopoint question has four components. -/
@[simp] theorem length_pointKeys (xpath : String) : (pointKeys xpath).length = 4 := rfl

end SurveyExport
