import SurveyExport.Form.NativeJson
import SurveyExport.Proofs.Form.Paths
import SurveyExport.Proofs.Json.Fields
import SurveyExport.Proofs.Json.Writing
import SurveyExport.Proofs.Text.Blank

/-!
# Native JSON gives a form back

A form is written as JSON with what is absent or empty left out, and read back from it
(`Form.ofJson?_toJson`). The one thing that need not come back is the type of a question, which is
written by its name: a type that is not known must have a name that no known type has, and without
blanks around it. Forms that come from survey definitions have only such types
(`Survey.isNamed_of_toForm`).

The JSON of a form holds no numbers, so its text is read back, too, if the groups of the form are
not nested too deep for the reader of texts.
-/

namespace SurveyExport

/-- The value of a list field that is left out if it is empty. -/
def Json.listValue (items : List Json) : Option Json :=
  if items.isEmpty then none else some (.array items)

theorem Json.listField_eq (name : String) (items : List Json) :
    listField name items = presentField name (listValue items) := by
  cases items <;> rfl

theorem Json.listValue_map {α : Type} (write : α → Json) (xs : List α) :
    listValue (xs.map write) = some (.array (xs.map write)) ∨
      listValue (xs.map write) = none ∧ xs = [] := by
  cases xs with
  | nil => exact .inr ⟨rfl, rfl⟩
  | cons => exact .inl rfl

/-! ### Labels and choices -/

theorem Label.ofJson?_toJson : Json.ReadsBack Label.ofJson? Label.toJson := by
  intro l
  cases l with
  | plain text => rfl
  | translated texts =>
    have hread := Json.readsBack_text.map texts
    rw [toJson, ofJson?, hread]
    rfl

theorem Label.toJson_ne_null (l : Label) : l.toJson ≠ .null := by cases l <;> exact nofun

namespace Choice

/-- The fields of a choice with their values. -/
def entries (c : Choice) : List (String × Option Json) :=
  [("name", some (.text c.name)), ("label", c.label.map Label.toJson)]

theorem nodup_entries (c : Choice) : (c.entries.map (·.1)).Nodup :=
  show fieldNames.Nodup by decide

theorem toJson_eq (c : Choice) : c.toJson = .object (Json.presentFields c.entries) := by
  rw [toJson]
  cases h : c.label <;> simp [entries, Json.presentFields, h]

/-- A choice is read back. -/
theorem ofJson?_toJson : Json.ReadsBack ofJson? toJson := by
  intro c
  have hnodup := c.nodup_entries
  have hfields : (Json.object (Json.presentFields c.entries)).fields? fieldNames =
    some (Json.presentFields c.entries) := Json.fields?_presentFields hnodup
  have hname := Json.readsBack_text.required_eq hnodup (x := c.name) (.head _)
  have hlabel := Label.ofJson?_toJson.optional_eq hnodup Label.toJson_ne_null (.tail _ (.head _))
  rw [toJson_eq, ofJson?, hfields]
  simp only [Option.bind_eq_bind, Option.bind_some, hname, hlabel]

end Choice

/-! ### Questions -/

namespace QuestionType

/-- The type is read back from its name. -/
def IsNamed (t : QuestionType) : Prop := ofName t.name = t

instance : DecidablePred IsNamed := fun t ↦ inferInstanceAs (Decidable (ofName t.name = t))

/-- Every type that a name stands for is read back from its own name. -/
theorem isNamed_ofName (s : String) : (ofName s).IsNamed := by
  generalize h : ofName s = t
  cases t with
  | other name =>
    have hname : name = Text.trim s := by
      unfold ofName at h
      split at h <;> cases h
      rfl
    -- the blanks around the name are gone already
    have htrim : ofName name = ofName s := by
      rw [hname]
      unfold ofName
      rw [Text.trim_trim]
    exact htrim.trans h
  | _ => decide

end QuestionType

namespace Question

/-- The fields of a question with their values. -/
def entries (q : Question) : List (String × Option Json) :=
  [("name", some (.text q.name)), ("xpath", some (.text q.xpath)),
    ("question_type", some (.text q.type.name)), ("label", q.label.map Label.toJson),
    ("choices", Json.listValue (q.choices.map Choice.toJson)), ("itemset", q.itemset.map .text),
    ("choice_filter", q.choiceFilter.map .text), ("randomize", some (.bool q.randomize)),
    ("hxl", q.hashtag.map .text)]

theorem nodup_entries (q : Question) : (q.entries.map (·.1)).Nodup :=
  show fieldNames.Nodup by decide

theorem toFields_eq (q : Question) : q.toFields = Json.presentFields q.entries := by
  simp [toFields, entries, Json.presentFields, Json.presentField, Json.listField_eq]

/-- A question is read back from its fields. -/
theorem ofFields?_toFields {q : Question} (h : q.type.IsNamed) :
    ofFields? q.toFields = some q := by
  have hnodup := q.nodup_entries
  have hname : Json.required Json.text? (Json.presentFields q.entries) "name" = some q.name :=
    Json.readsBack_text.required_eq hnodup (by simp [entries])
  have hxpath : Json.required Json.text? (Json.presentFields q.entries) "xpath" = some q.xpath :=
    Json.readsBack_text.required_eq hnodup (by simp [entries])
  have htype : Json.required Json.text? (Json.presentFields q.entries) "question_type" =
      some q.type.name :=
    Json.readsBack_text.required_eq hnodup (by simp [entries])
  have hlabel : Json.optional Label.ofJson? (Json.presentFields q.entries) "label" =
      some q.label :=
    Label.ofJson?_toJson.optional_eq hnodup Label.toJson_ne_null (by simp [entries])
  have hchoices : Json.defaulted (Json.list? Choice.ofJson?) [] (Json.presentFields q.entries)
      "choices" = some q.choices :=
    Choice.ofJson?_toJson.list.defaulted_eq hnodup (by simp [entries]) (Json.listValue_map _ _)
  have hitemset : Json.optional Json.text? (Json.presentFields q.entries) "itemset" =
      some q.itemset :=
    Json.readsBack_text.optional_eq hnodup (fun _ ↦ nofun) (by simp [entries])
  have hfilter : Json.optional Json.text? (Json.presentFields q.entries) "choice_filter" =
      some q.choiceFilter :=
    Json.readsBack_text.optional_eq hnodup (fun _ ↦ nofun) (by simp [entries])
  have hrandomize : Json.defaulted Json.bool? false (Json.presentFields q.entries) "randomize" =
      some q.randomize :=
    Json.readsBack_bool.defaulted_eq hnodup (by simp [entries]) (.inl rfl)
  have hhashtag : Json.optional Json.text? (Json.presentFields q.entries) "hxl" =
      some q.hashtag :=
    Json.readsBack_text.optional_eq hnodup (fun _ ↦ nofun) (by simp [entries])
  rw [toFields_eq]
  simp only [ofFields?, Option.bind_eq_bind, Option.bind_some, hname, hxpath, htype, hlabel,
    hchoices, hitemset, hfilter, hrandomize, hhashtag]
  rw [h]

end Question

/-! ### Nodes -/

namespace Node

/-- The fields of a group with their values. -/
def groupEntries (name xpath : String) (label : Option Label) (children : List Node) :
    List (String × Option Json) :=
  [("name", some (.text name)), ("xpath", some (.text xpath)), ("label", label.map Label.toJson),
    ("children", some (.array (listToJson children)))]

theorem nodup_groupEntries (name xpath : String) (label : Option Label) (children : List Node) :
    ((groupEntries name xpath label children).map (·.1)).Nodup :=
  show groupFieldNames.Nodup by decide

theorem toJson_group (occurrence : Occurrence) (name xpath : String) (label : Option Label)
    (children : List Node) :
    toJson (.group occurrence name xpath label children) =
      .object (("kind", .text (kindOf occurrence)) ::
        Json.presentFields (groupEntries name xpath label children)) := by
  simp [toJson, groupEntries, Json.presentFields, Json.presentField]

theorem toJson_question (q : Question) :
    toJson (.question q) = .object (("kind", .text "field") :: q.toFields) := rfl

/-- The kind of a node is told from its other fields. -/
theorem untag?_cons (kind : String) {fields : List (String × Json)}
    (h : "kind" ∉ fields.map (·.1)) :
    untag? (("kind", .text kind) :: fields) = some (kind, fields) := by
  have hnone : fields.filter (·.1 == "kind") = [] := by
    rw [List.filter_eq_nil_iff]
    intro e he hkind
    exact h (List.mem_map.2 ⟨e, he, eq_of_beq hkind⟩)
  have hall : fields.filter (·.1 != "kind") = fields := by
    rw [List.filter_eq_self]
    intro e he
    exact bne_iff_ne.2 fun hkind ↦ h (List.mem_map.2 ⟨e, he, hkind⟩)
  simp only [untag?, List.filter_cons, hnone, hall]
  rfl

theorem childrenOfFields?_eq (fields : List (String × Json)) :
    childrenOfFields? fields = (Entries.lookup "children" fields).bind children? := by
  induction fields with
  | nil => rfl
  | cons e rest ih =>
    obtain ⟨k, v⟩ := e
    rw [childrenOfFields?, Entries.lookup]
    split
    · rfl
    · exact ih

theorem occurrence?_kindOf (occurrence : Occurrence) :
    occurrence? (kindOf occurrence) = some occurrence := by
  cases occurrence <;> rfl

theorem kindOf_ne_field (occurrence : Occurrence) : kindOf occurrence ≠ "field" := by
  cases occurrence <;> decide

/-- A question is read back as a node. -/
theorem ofJson?_question {q : Question} (h : q.type.IsNamed) :
    ofJson? (toJson (.question q)) = some (.question q) := by
  have hkind : "kind" ∉ q.toFields.map (·.1) := by
    rw [Question.toFields_eq]
    intro hmem
    have hname : "kind" ∈ Question.fieldNames :=
      (Json.map_fst_presentFields_sublist q.entries).subset hmem
    exact absurd hname (by decide)
  have hfields : (Json.object q.toFields).fields? Question.fieldNames = some q.toFields := by
    rw [Question.toFields_eq]
    exact Json.fields?_presentFields q.nodup_entries
  rw [toJson_question, ofJson?, untag?_cons _ hkind]
  simp only [Option.bind_eq_bind, Option.bind_some, if_true, hfields,
    Question.ofFields?_toFields h]

/-- A group is read back, if the nodes in it are. -/
theorem ofJson?_group {children : List Node} (h : listOfJson? (listToJson children) = some children)
    (occurrence : Occurrence) (name xpath : String) (label : Option Label) :
    ofJson? (toJson (.group occurrence name xpath label children)) =
      some (.group occurrence name xpath label children) := by
  have hnodup := nodup_groupEntries name xpath label children
  have hkind : "kind" ∉
      (Json.presentFields (groupEntries name xpath label children)).map (·.1) := by
    intro hmem
    have hname : "kind" ∈ groupFieldNames := (Json.map_fst_presentFields_sublist _).subset hmem
    exact absurd hname (by decide)
  have hfields : (Json.object (Json.presentFields (groupEntries name xpath label children))).fields?
      groupFieldNames = some (Json.presentFields (groupEntries name xpath label children)) :=
    Json.fields?_presentFields hnodup
  have hname : Json.required Json.text?
      (Json.presentFields (groupEntries name xpath label children)) "name" = some name :=
    Json.readsBack_text.required_eq hnodup (by simp [groupEntries])
  have hxpath : Json.required Json.text?
      (Json.presentFields (groupEntries name xpath label children)) "xpath" = some xpath :=
    Json.readsBack_text.required_eq hnodup (by simp [groupEntries])
  have hlabel : Json.optional Label.ofJson?
      (Json.presentFields (groupEntries name xpath label children)) "label" = some label :=
    Label.ofJson?_toJson.optional_eq hnodup Label.toJson_ne_null (by simp [groupEntries])
  have hhead : groupHead? (kindOf occurrence)
      (.object (Json.presentFields (groupEntries name xpath label children))) =
        some (occurrence, name, xpath, label) := by
    simp only [groupHead?, occurrence?_kindOf, hfields, hname, hxpath, hlabel,
      Option.bind_eq_bind, Option.bind_some]
  have hchildren : childrenOfFields? (("kind", .text (kindOf occurrence)) ::
      Json.presentFields (groupEntries name xpath label children)) = some children := by
    have hlookup : Entries.lookup "children"
        (Json.presentFields (groupEntries name xpath label children)) =
          some (.array (listToJson children)) :=
      Json.lookup_presentFields hnodup (by simp [groupEntries])
    rw [childrenOfFields?, if_neg (by decide), childrenOfFields?_eq, hlookup, Option.bind_some,
      children?]
    exact h
  rw [toJson_group, ofJson?, untag?_cons _ hkind]
  simp only [Option.bind_eq_bind, Option.bind_some, if_neg (kindOf_ne_field occurrence), hhead,
    hchildren]

/-- **Nodes are read back**, if the types of their questions are. -/
theorem listOfJson?_listToJson {nodes : List Node}
    (h : ∀ q ∈ questionsOfAll nodes, q.type.IsNamed) :
    listOfJson? (listToJson nodes) = some nodes := by
  induction nodes using forest_induction with
  | nil => rfl
  | group occurrence name xpath label children rest ihc ihr =>
    have hchildren := ihc fun q hq ↦ h q (List.mem_append_left _ hq)
    have hrest := ihr fun q hq ↦ h q (List.mem_append_right _ hq)
    rw [listToJson, listOfJson?, ofJson?_group hchildren, hrest]
    rfl
  | question q rest ih =>
    have hrest := ih fun q hq ↦ h q (List.mem_append_right _ hq)
    rw [listToJson, listOfJson?, ofJson?_question (h q List.mem_cons_self), hrest]
    rfl

end Node

/-! ### Forms -/

namespace Form

/-- The fields of a form with their values. -/
def entries (f : Form) : List (String × Option Json) :=
  [("name", some (.text f.name)), ("title", f.title.map .text),
    ("id_string", f.idString.map .text), ("default_language", f.defaultLanguage.map .text),
    ("children", some (.array (Node.listToJson f.children))), ("itemsets", f.itemsetsValue)]

theorem nodup_entries (f : Form) : (f.entries.map (·.1)).Nodup :=
  show fieldNames.Nodup by decide

theorem toJson_eq (f : Form) : f.toJson = .object (Json.presentFields f.entries) := by
  simp [toJson, entries, Json.presentFields, Json.presentField]

/-- **A form is read back from its native JSON**, if the types of its questions are. -/
theorem ofJson?_toJson {f : Form} (h : ∀ q ∈ f.questions, q.type.IsNamed) :
    ofJson? f.toJson = some f := by
  have hnodup := f.nodup_entries
  have hfields : (Json.object (Json.presentFields f.entries)).fields? fieldNames =
    some (Json.presentFields f.entries) := Json.fields?_presentFields hnodup
  have hname : Json.required Json.text? (Json.presentFields f.entries) "name" = some f.name :=
    Json.readsBack_text.required_eq hnodup (by simp [entries])
  have htitle : Json.optional Json.text? (Json.presentFields f.entries) "title" = some f.title :=
    Json.readsBack_text.optional_eq hnodup (fun _ ↦ nofun) (by simp [entries])
  have hid : Json.optional Json.text? (Json.presentFields f.entries) "id_string" =
      some f.idString :=
    Json.readsBack_text.optional_eq hnodup (fun _ ↦ nofun) (by simp [entries])
  have hlanguage : Json.optional Json.text? (Json.presentFields f.entries) "default_language" =
      some f.defaultLanguage :=
    Json.readsBack_text.optional_eq hnodup (fun _ ↦ nofun) (by simp [entries])
  have hchildren : Json.required Node.children? (Json.presentFields f.entries) "children" =
      some f.children := by
    have hlookup : Entries.lookup "children" (Json.presentFields f.entries) =
        some (.array (Node.listToJson f.children)) :=
      Json.lookup_presentFields hnodup (by simp [entries])
    rw [Json.required, hlookup, Option.bind_some, Node.children?]
    exact Node.listOfJson?_listToJson h
  have hitemsets : Json.defaulted (Json.map? (Json.list? Choice.ofJson?)) KeyMap.empty
      (Json.presentFields f.entries) "itemsets" = some f.itemsets := by
    refine Choice.ofJson?_toJson.list.map.defaulted_eq hnodup (v := f.itemsetsValue)
      (by simp [entries]) ?_
    rw [itemsetsValue]
    split
    · rename_i hempty
      exact .inr ⟨rfl, KeyMap.ext_entries (List.isEmpty_iff.1 hempty)⟩
    · exact .inl rfl
  rw [toJson_eq, ofJson?, hfields]
  simp only [Option.bind_eq_bind, Option.bind_some, hname, htitle, hid, hlanguage, hchildren,
    hitemsets]

end Form

/-! ### Forms that surveys describe -/

namespace Survey

/-- The questions of the nodes made from elements have types that names stand for. -/
theorem isNamed_of_nodes {es : List Element} {path : String} {ns : List Node}
    (h : nodes path es = .ok ns) : ∀ q ∈ Node.questionsOfAll ns, q.type.IsNamed := by
  induction es using elements_induction generalizing path ns with
  | nil =>
    obtain rfl := Except.ok.inj h
    exact fun _ hq ↦ absurd hq List.not_mem_nil
  | cons e rest ihc ihr =>
    obtain ⟨n, ns', hnode, hrest, rfl⟩ := nodes_cons_eq_ok_iff.1 h
    obtain ⟨name, -, -, hnode⟩ := node_eq_ok_iff.1 hnode
    refine List.forall_mem_append.2 ⟨?_, ihr hrest⟩
    split at hnode
    · obtain ⟨ns, hchildren, rfl⟩ := hnode
      exact ihc hchildren
    · subst hnode
      intro q hq
      obtain rfl := List.mem_singleton.1 hq
      exact QuestionType.isNamed_ofName e.type

/-- The questions of a form that a survey describes have types that names stand for. -/
theorem isNamed_of_toForm {survey : Survey} {form : Form} (h : survey.toForm = .ok form) :
    ∀ q ∈ form.questions, q.type.IsNamed := by
  obtain ⟨-, ns, hnodes, rfl⟩ := toForm_eq_ok_iff.1 h
  exact isNamed_of_nodes hnodes

end Survey

/-! ### The text of a form -/

namespace Json

/-- An array of parts that are read back from their texts. -/
theorem rewritable_array {α : Type} {write : α → Json} (h : ∀ x, Rewritable (write x))
    (xs : List α) : Rewritable (.array (xs.map write)) :=
  rewritable_array_iff.2 (List.forall_mem_map.2 fun x _ ↦ h x)

/-- An object of parts that are read back from their texts. -/
theorem rewritable_map {α : Type} {write : α → Json} (h : ∀ x, Rewritable (write x))
    (m : KeyMap α) : Rewritable (.object (m.toList.map fun e ↦ (e.1, write e.2))) :=
  rewritable_object_iff.2 (List.forall_mem_map.2 fun e _ ↦ h e.2)

/-- A field that is absent, or whose value is read back from its text. -/
def FieldRewritable (e : String × Option Json) : Prop := ∀ v ∈ e.2, Rewritable v

theorem fieldRewritable_some (k : String) {v : Json} (h : Rewritable v) :
    FieldRewritable (k, some v) := by
  rintro _ ⟨⟩
  exact h

theorem fieldRewritable_map {α : Type} (k : String) {write : α → Json}
    (h : ∀ x, Rewritable (write x)) (o : Option α) : FieldRewritable (k, o.map write) := by
  intro v hv
  obtain ⟨x, -, rfl⟩ := Option.map_eq_some_iff.1 hv
  exact h x

/-- A record of fields whose values are read back from their texts. -/
theorem rewritable_presentFields {entries : List (String × Option Json)}
    (h : ∀ e ∈ entries, FieldRewritable e) : Rewritable (.object (presentFields entries)) := by
  refine .object fun k v hkv ↦ ?_
  obtain ⟨e, he, hv⟩ := List.mem_flatMap.1 hkv
  obtain ⟨w, hw, heq⟩ := List.mem_map.1 hv
  obtain ⟨-, rfl⟩ := Prod.mk.inj heq
  exact h e he w (Option.mem_toList.1 hw)

end Json

theorem Label.rewritable_toJson (l : Label) : Json.Rewritable l.toJson := by
  cases l with
  | plain text => exact .text text
  | translated texts => exact Json.rewritable_map .text texts

theorem Choice.rewritable_toJson (c : Choice) : Json.Rewritable c.toJson := by
  rw [toJson_eq]
  refine Json.rewritable_presentFields ?_
  simp only [entries, List.forall_mem_cons]
  exact ⟨Json.fieldRewritable_some _ (.text _),
    Json.fieldRewritable_map _ Label.rewritable_toJson _, fun _ he ↦ absurd he List.not_mem_nil⟩

theorem Question.fieldRewritable_of_mem_entries (q : Question) :
    ∀ e ∈ q.entries, Json.FieldRewritable e := by
  have htext (k s : String) : Json.FieldRewritable (k, some (.text s)) :=
    Json.fieldRewritable_some k (.text s)
  have htexts (k : String) (o : Option String) : Json.FieldRewritable (k, o.map .text) :=
    Json.fieldRewritable_map k .text o
  have hlabel := Json.fieldRewritable_map "label" Label.rewritable_toJson q.label
  have hchoices : Json.FieldRewritable
      ("choices", Json.listValue (q.choices.map Choice.toJson)) := by
    intro v hv
    rcases Json.listValue_map Choice.toJson q.choices with h | ⟨h, -⟩
    · cases h ▸ hv
      exact Json.rewritable_array Choice.rewritable_toJson q.choices
    · cases h ▸ hv
  have hrandomize := Json.fieldRewritable_some "randomize" (.bool q.randomize)
  simp only [entries, List.forall_mem_cons]
  exact ⟨htext _ _, htext _ _, htext _ _, hlabel, hchoices, htexts _ _, htexts _ _, hrandomize,
    htexts _ _, fun _ he ↦ absurd he List.not_mem_nil⟩

theorem Node.rewritable_listToJson (nodes : List Node) :
    ∀ v ∈ listToJson nodes, Json.Rewritable v := by
  have htext (k s : String) : Json.FieldRewritable (k, some (.text s)) :=
    Json.fieldRewritable_some k (.text s)
  induction nodes using forest_induction with
  | nil => exact fun _ hv ↦ absurd hv List.not_mem_nil
  | group occurrence name xpath label children rest ihc ihr =>
    have hlabel := Json.fieldRewritable_map "label" Label.rewritable_toJson label
    have hchildren := Json.fieldRewritable_some "children" (.array ihc)
    have hfields : ∀ e ∈ groupEntries name xpath label children, Json.FieldRewritable e := by
      simp only [groupEntries, List.forall_mem_cons]
      exact ⟨htext _ _, htext _ _, hlabel, hchildren, fun _ he ↦ absurd he List.not_mem_nil⟩
    rw [listToJson, List.forall_mem_cons, toJson_group]
    exact ⟨Json.rewritable_presentFields
      (List.forall_mem_cons.2 ⟨htext "kind" (kindOf occurrence), hfields⟩), ihr⟩
  | question q rest ih =>
    rw [listToJson, List.forall_mem_cons, toJson_question, Question.toFields_eq]
    exact ⟨Json.rewritable_presentFields
      (List.forall_mem_cons.2 ⟨htext "kind" "field", q.fieldRewritable_of_mem_entries⟩), ih⟩

namespace Form

/-- The JSON of a form is read back from its text. -/
theorem rewritable_toJson (f : Form) : Json.Rewritable f.toJson := by
  have htexts (k : String) (o : Option String) : Json.FieldRewritable (k, o.map .text) :=
    Json.fieldRewritable_map k .text o
  have hname := Json.fieldRewritable_some "name" (.text f.name)
  have hchildren := Json.fieldRewritable_some "children"
    (.array (Node.rewritable_listToJson f.children))
  have hitemsets : Json.FieldRewritable ("itemsets", f.itemsetsValue) := by
    intro v hv
    rw [itemsetsValue] at hv
    split at hv
    · cases hv
    · cases hv
      exact Json.rewritable_map (Json.rewritable_array Choice.rewritable_toJson) f.itemsets
  rw [toJson_eq]
  refine Json.rewritable_presentFields ?_
  simp only [entries, List.forall_mem_cons]
  exact ⟨hname, htexts _ _, htexts _ _, htexts _ _, hchildren, hitemsets,
    fun _ he ↦ absurd he List.not_mem_nil⟩

/-- **A form that a survey describes is the form of its native JSON**, and of the text of that JSON
if it is not nested deeper than texts are read. -/
theorem ofJson?_toJson_of_ofSurveyText {text : String} {f : Form} (h : ofSurveyText text = .ok f) :
    ofJson? f.toJson = some f ∧
      (f.toJson.depth ≤ Json.maxDepth →
        (Json.read? f.toJson.write).bind ofJson? = some f) := by
  have hnamed : ∀ q ∈ f.questions, q.type.IsNamed := by
    rw [ofSurveyText] at h
    split at h
    · exact Survey.isNamed_of_toForm h
    · cases h
  have hvalue := ofJson?_toJson hnamed
  refine ⟨hvalue, fun hdepth ↦ ?_⟩
  rw [Json.read?_write f.rewritable_toJson hdepth, Option.bind_some]
  exact hvalue

/-- A survey with a repeated group, labels in two languages, choices given in three ways and a
question of an unknown type. -/
def villageSurvey : Json := .object [
  ("name", .text "village"),
  ("default_language", .text "en"),
  ("children", .array [
    .object [("type", .text "repeat"), ("name", .text "home"),
      ("label", .object [("en", .text "Home"), ("ar", .text "\u0628\u064a\u062a")]),
      ("children", .array [
        .object [("type", .text " select1 "), ("name", .text "roof"),
          ("children", .array [.object [("name", .text "tin")]])],
        .object [("type", .text "select one"), ("name", .text "wall"),
          ("choices", .array [.object [("name", .text "mud"), ("label", .text "Mud")]])]])],
    .object [("type", .text "select"), ("name", .text "water"), ("itemset", .text "sources"),
      ("parameters", .object [("randomize", .text "Yes")])],
    .object [("type", .text " odd "), ("name", .text "x"),
      ("instance", .object [("hxl", .text "#x")])]]),
  ("choices", .object [("sources", .array [.object [("name", .text "well")]])])]

/-- The form that the survey describes. -/
def villageForm : Form where
  name := "village"
  defaultLanguage := some "en"
  children := [
    .group .repeated "home" "home"
      (some (.translated (KeyMap.ofList [("en", "Home"), ("ar", "\u0628\u064a\u062a")]))) [
        .question {
          name := "roof", xpath := "home/roof", type := .selectOne, choices := [⟨"tin", none⟩] },
        .question {
          name := "wall", xpath := "home/wall", type := .selectOne
          choices := [⟨"mud", some (.plain "Mud")⟩] }],
    .question {
      name := "water", xpath := "water", type := .selectMultiple, itemset := some "sources"
      randomize := true },
    .question { name := "x", xpath := "x", type := .other "odd", hashtag := some "#x" }]
  itemsets := KeyMap.ofList [("sources", [⟨"well", none⟩])]

theorem toForm_villageSurvey :
    (Survey.ofValue? villageSurvey).map Survey.toForm = some (.ok villageForm) := by
  -- the reader recurses through lists inside of lists, so its equations unfold it level by level
  simp [villageSurvey, Survey.ofValue?, Survey.ofJson?, Survey.childrenOfFields?,
    Survey.children?, Survey.listOfJson?, Survey.element?, Survey.elementFieldNames,
    Survey.fieldNames, Survey.choice?, Json.fields?, Json.declaredFields?, Entries.lookup,
    Json.defaulted, Json.optional, Json.required, Json.text?, Json.map?, Json.list?,
    Json.objectFields?, Json.items?, Json.sound?, Json.isSound, Label.ofJson?]
  rfl

theorem ofJson?_toJson_villageForm :
    ofSurveyText villageSurvey.write = .ok villageForm ∧
      ofJson? villageForm.toJson = some villageForm ∧
      (Json.read? villageForm.toJson.write).bind ofJson? = some villageForm := by
  have hrewritable : Json.Rewritable villageSurvey := by
    simp [villageSurvey, Json.rewritable_object_iff, Json.rewritable_array_iff,
      Json.Rewritable.text]
  have hread : Json.readParts? villageSurvey.write = some villageSurvey :=
    Json.readParts?_of_spells (Json.spells_write hrewritable).isSpace (by decide)
  have hform : ofSurveyText villageSurvey.write = .ok villageForm := by
    rw [ofSurveyText, hread, Option.bind_some]
    have hsurvey := toForm_villageSurvey
    cases h : Survey.ofValue? villageSurvey with
    | none => rw [h] at hsurvey; cases hsurvey
    | some survey =>
      rw [h] at hsurvey
      exact Option.some.inj hsurvey
  obtain ⟨hvalue, htext⟩ := ofJson?_toJson_of_ofSurveyText hform
  exact ⟨hform, hvalue, htext (by decide)⟩

end Form

end SurveyExport
