import SurveyExport.Options.Basic

/-!
# Options as JSON

The keys that options have in configuration files. A missing key has its default and an unknown
key is ignored.
-/

namespace SurveyExport

namespace IndexTags

/-- Reads the two marks; both must be there. -/
def ofFields? (fields : List (String × Json)) : Option IndexTags := do
  some ⟨← Json.required Json.text? fields "open", ← Json.required Json.text? fields "close"⟩

/-- Reads the two marks; both must be there. -/
def ofJson? (v : Json) : Option IndexTags := do ofFields? (← v.fields? ["open", "close"])

/-- The two marks as JSON. -/
def toJson (t : IndexTags) : Json :=
  .object [("open", .text t.opening), ("close", .text t.closing)]

end IndexTags

namespace Options

/-- The keys of the options, in order. -/
def fieldNames : List String :=
  ["split_select_multiples", "binary_select_multiples", "value_select_multiples",
    "show_choice_labels", "include_labels", "include_labels_only", "remove_group_name",
    "truncate_group_title", "group_delimiter", "include_images", "include_hxl", "include_reviews",
    "target_language", "na_rep", "index_tags", "host", "columns"]

/-- Reads options from fields; `delimiter?` and `tags?` read the two fields with a form of their
own. -/
def ofFieldsWith? (delimiter? : Json → Option Delimiter) (tags? : Json → Option IndexTags)
    (fields : List (String × Json)) : Option Options := do
  let flag := fun default name ↦ Json.defaulted Json.bool? default fields name
  some {
    splitSelectMultiples := ← flag true "split_select_multiples"
    binarySelectMultiples := ← flag false "binary_select_multiples"
    valueSelectMultiples := ← flag false "value_select_multiples"
    showChoiceLabels := ← flag false "show_choice_labels"
    includeLabels := ← flag false "include_labels"
    includeLabelsOnly := ← flag false "include_labels_only"
    removeGroupName := ← flag false "remove_group_name"
    truncateGroupTitle := ← flag false "truncate_group_title"
    groupDelimiter := ← Json.defaulted delimiter? .slash fields "group_delimiter"
    includeImages := ← flag false "include_images"
    includeHashtags := ← flag false "include_hxl"
    includeReviews := ← flag false "include_reviews"
    targetLanguage := ← Json.optional Json.text? fields "target_language"
    naRep := ← Json.defaulted Json.text? "n/a" fields "na_rep"
    indexTags := ← Json.defaulted tags? {} fields "index_tags"
    host := ← Json.optional Json.text? fields "host"
    columns := ← Json.optional (Json.list? Json.text?) fields "columns" }

/-- Reads options. -/
def ofJson? (v : Json) : Option Options := do
  ofFieldsWith? Delimiter.ofJson? IndexTags.ofJson? (← v.fields? fieldNames)

/-- A text that may be absent, as JSON. -/
def textOrNull : Option String → Json
  | some s => .text s
  | none => .null

/-- The options as JSON, with every key. -/
def toJson (o : Options) : Json :=
  .object [
    ("split_select_multiples", .bool o.splitSelectMultiples),
    ("binary_select_multiples", .bool o.binarySelectMultiples),
    ("value_select_multiples", .bool o.valueSelectMultiples),
    ("show_choice_labels", .bool o.showChoiceLabels),
    ("include_labels", .bool o.includeLabels),
    ("include_labels_only", .bool o.includeLabelsOnly),
    ("remove_group_name", .bool o.removeGroupName),
    ("truncate_group_title", .bool o.truncateGroupTitle),
    ("group_delimiter", .text o.groupDelimiter.text),
    ("include_images", .bool o.includeImages),
    ("include_hxl", .bool o.includeHashtags),
    ("include_reviews", .bool o.includeReviews),
    ("target_language", textOrNull o.targetLanguage),
    ("na_rep", .text o.naRep),
    ("index_tags", o.indexTags.toJson),
    ("host", textOrNull o.host),
    ("columns", match o.columns with
      | some names => .array (names.map .text)
      | none => .null)]

end Options

end SurveyExport
