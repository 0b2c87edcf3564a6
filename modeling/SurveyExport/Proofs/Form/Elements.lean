import Mathlib.Data.List.Forall2
import SurveyExport.Proofs.Form.Paths
import SurveyExport.Proofs.Json.Writing

/-!
# Elements and the nodes they become

A survey definition is a tree of elements, and a form is a tree of nodes. An element becomes a node
if it is reached from the root of the survey through groups and repeats only; what lies inside of a
question is not reached, whatever its type and name.

* `Survey.Reaches` says which elements are reached, and `Survey.reachedAll` lists them depth first,
  each with the elements around it (`Survey.exists_mem_reachedAll_iff`).
* `Survey.exists_nodes_iff`: the elements become nodes just if all that are reached have names.
* `Survey.forall₂_mirrors_of_nodes`: the nodes in pre-order are those of the elements reached, one
  for each, in order.
* **`Form.mirrors_ofSurveyText`** says both of the text of a survey definition.
-/

namespace SurveyExport

/-- A node is what a type says: `group` and `repeat` are the types of groups, all others those of
questions. -/
inductive Node.IsOfType : String → Node → Prop
  | group {name xpath : String} {label : Option Label} {children : List Node} :
    IsOfType "group" (.group .once name xpath label children)
  | repeated {name xpath : String} {label : Option Label} {children : List Node} :
    IsOfType "repeat" (.group .repeated name xpath label children)
  | question {type : String} {q : Question} (hgroup : type ≠ "group") (hrepeat : type ≠ "repeat")
    (htype : q.type = QuestionType.ofName type) : IsOfType type (.question q)

namespace Survey

/-- An element whose children become nodes. -/
def Element.IsGroup (e : Element) : Prop := e.type = "group" ∨ e.type = "repeat"

instance (e : Element) : Decidable e.IsGroup := inferInstanceAs (Decidable (_ ∨ _))

/-- An element with a name that is not blank. -/
def Element.IsNamed (e : Element) : Prop :=
  ∃ name, e.name = some name ∧ (Text.trim name).isEmpty = false

/-! ### What is reached -/

/-- `Reaches es e` says that `e` is one of the elements `es`, or is reached from the children of one
of them that is a group. -/
inductive Reaches : List Element → Element → Prop
  | here {es : List Element} {e : Element} : e ∈ es → Reaches es e
  | inside {es : List Element} {g e : Element} : g ∈ es → g.IsGroup → Reaches g.children e →
    Reaches es e

/-- An element in its place in a survey. -/
structure Position where
  /-- The elements around it, from outside in. -/
  around : List Element
  element : Element

mutual

/-- An element and the elements that are reached from its children, depth first. -/
def reached (around : List Element) : Element → List Position
  | ⟨type, name, label, choices, itemset, choiceFilter, parameters, attributes, children⟩ =>
    let e : Element :=
      ⟨type, name, label, choices, itemset, choiceFilter, parameters, attributes, children⟩
    ⟨around, e⟩ :: if e.IsGroup then reachedAll (around ++ [e]) children else []

/-- The elements that are reached from elements, depth first. -/
def reachedAll (around : List Element) : List Element → List Position
  | [] => []
  | e :: rest => reached around e ++ reachedAll around rest

end

theorem reached_eq (around : List Element) (e : Element) :
    reached around e =
      ⟨around, e⟩ :: if e.IsGroup then reachedAll (around ++ [e]) e.children else [] := by
  cases e
  rfl

@[simp] theorem reachedAll_nil (around : List Element) : reachedAll around [] = [] := rfl

@[simp] theorem reachedAll_cons (around : List Element) (e : Element) (rest : List Element) :
    reachedAll around (e :: rest) = reached around e ++ reachedAll around rest := rfl

/-- What is reached from a list is its first element, or is reached from that element's children, or
from the rest. -/
theorem reaches_cons_iff {e x : Element} {rest : List Element} :
    Reaches (e :: rest) x ↔ x = e ∨ e.IsGroup ∧ Reaches e.children x ∨ Reaches rest x := by
  constructor
  · intro h
    cases h with
    | here hx =>
      rcases List.mem_cons.1 hx with rfl | hx
      · exact .inl rfl
      · exact .inr (.inr (.here hx))
    | inside hg hgroup h =>
      rcases List.mem_cons.1 hg with rfl | hg
      · exact .inr (.inl ⟨hgroup, h⟩)
      · exact .inr (.inr (.inside hg hgroup h))
  · rintro (rfl | ⟨hgroup, h⟩ | h)
    · exact .here List.mem_cons_self
    · exact .inside List.mem_cons_self hgroup h
    · cases h with
      | here hx => exact .here (List.mem_cons_of_mem _ hx)
      | inside hg hgroup h => exact .inside (List.mem_cons_of_mem _ hg) hgroup h

theorem not_reaches_nil {x : Element} : ¬ Reaches [] x := by
  rintro (h | ⟨h, -, -⟩) <;> exact absurd h List.not_mem_nil

/-- The list has exactly the elements that are reached. -/
theorem exists_mem_reachedAll_iff {around es : List Element} {x : Element} :
    (∃ p ∈ reachedAll around es, p.element = x) ↔ Reaches es x := by
  induction es using elements_induction generalizing around with
  | nil => simp [not_reaches_nil]
  | cons e rest ihc ihr =>
    rw [reaches_cons_iff, ← @ihc (around ++ [e]), ← @ihr around]
    simp only [reachedAll_cons, reached_eq, List.mem_append, List.mem_cons, List.mem_ite_nil_right]
    constructor
    · rintro ⟨p, (rfl | ⟨hgroup, hp⟩) | hp, rfl⟩
      · exact .inl rfl
      · exact .inr (.inl ⟨hgroup, p, hp, rfl⟩)
      · exact .inr (.inr ⟨p, hp, rfl⟩)
    · rintro (rfl | ⟨hgroup, p, hp, rfl⟩ | ⟨p, hp, rfl⟩)
      · exact ⟨_, .inl (.inl rfl), rfl⟩
      · exact ⟨p, .inl (.inr ⟨hgroup, hp⟩), rfl⟩
      · exact ⟨p, .inr hp, rfl⟩

/-! ### What becomes a node -/

theorem Element.isGroup_iff {e : Element} : e.IsGroup ↔ occurrence? e.type ≠ none := by
  rw [IsGroup, occurrence?.eq_def]
  split <;> simp_all

/-- A group occurs as its type says. -/
theorem isOfType_group {type name xpath : String} {occurrence : Occurrence} {label : Option Label}
    {children : List Node} (h : occurrence? type = some occurrence) :
    (Node.group occurrence name xpath label children).IsOfType type := by
  rw [occurrence?.eq_def] at h
  split at h
  · cases h
    exact .group
  · cases h
    exact .repeated
  · cases h

/-- Elements become nodes just if all that are reached from them have names. -/
theorem exists_nodes_iff {es : List Element} {path : String} :
    (∃ ns, nodes path es = .ok ns) ↔ ∀ e, Reaches es e → e.IsNamed := by
  induction es using elements_induction generalizing path with
  | nil => exact iff_of_true ⟨[], rfl⟩ fun e h ↦ absurd h not_reaches_nil
  | cons e rest ihc ihr =>
    have hfirst : (∃ n, node path e = .ok n) ↔
        e.IsNamed ∧ (e.IsGroup → ∀ x, Reaches e.children x → x.IsNamed) := by
      simp only [node_eq_ok_iff]
      constructor
      · rintro ⟨n, name, hname, hblank, hn⟩
        refine ⟨⟨name, hname, hblank⟩, fun hgroup ↦ ?_⟩
        split at hn
        · obtain ⟨ns, hns, -⟩ := hn
          exact ihc.1 ⟨ns, hns⟩
        · rename_i hnone
          exact absurd hnone (Element.isGroup_iff.1 hgroup)
      · rintro ⟨⟨name, hname, hblank⟩, hchildren⟩
        cases hoccurrence : occurrence? e.type with
        | none => exact ⟨_, name, hname, hblank, rfl⟩
        | some occurrence =>
          have hgroup : e.IsGroup := Element.isGroup_iff.2 (by simp [hoccurrence])
          obtain ⟨ns, hns⟩ := (@ihc (childPath path name)).2 (hchildren hgroup)
          exact ⟨_, name, hname, hblank, ns, hns, rfl⟩
    have hall : (∃ ns, nodes path (e :: rest) = .ok ns) ↔
        (∃ n, node path e = .ok n) ∧ ∃ ns, nodes path rest = .ok ns := by
      simp only [nodes_cons_eq_ok_iff]
      exact ⟨fun ⟨_, n, ns, hn, hns, _⟩ ↦ ⟨⟨n, hn⟩, ns, hns⟩,
        fun ⟨⟨n, hn⟩, ns, hns⟩ ↦ ⟨_, n, ns, hn, hns, rfl⟩⟩
    rw [hall, hfirst, ihr]
    simp only [reaches_cons_iff, or_imp, forall_and, forall_eq, and_imp, and_assoc]
    tauto

/-! ### Which node an element becomes -/

/-- A path is spelled by the names of the elements on it. -/
def Spells (around : List Element) (path : String) : Prop :=
  ∃ names, around.map (·.name) = names.map some ∧ path = Text.join "/" names

/-- A node is that of an element in its place. -/
structure Mirrors (p : Position) (n : Node) : Prop where
  /-- It is a group, a repeated group or a question as the type of the element says. -/
  kind : n.IsOfType p.element.type
  label : n.label = p.element.label
  /-- Its xpath is the names on the way to the element and the name of the element, with slashes
  between. -/
  xpath : Spells (p.around ++ [p.element]) n.xpath

/-- Below a path whose names are not empty stands the path with one more name. -/
theorem Spells.childPath {around : List Element} {path name : String} {e : Element}
    (h : Spells around path) (hpath : around ≠ [] → path ≠ "") (hname : e.name = some name) :
    Spells (around ++ [e]) (childPath path name) := by
  obtain ⟨names, hnames, rfl⟩ := h
  refine ⟨names ++ [name], by simp [hnames, hname], ?_⟩
  cases around with
  | nil =>
    obtain rfl := List.map_eq_nil_iff.1 hnames.symm
    rfl
  | cons g around =>
    have hne : names ≠ [] := by rintro rfl; cases hnames
    have hslash : "/".intercalate (names ++ [name]) = "/".intercalate names ++ "/" ++ name := by
      rw [String.intercalate_append_of_ne_nil hne (List.cons_ne_nil _ _),
        String.intercalate_singleton]
    rw [Survey.childPath, if_neg (by simpa using hpath (List.cons_ne_nil _ _))]
    exact hslash.symm

/-- The nodes that elements become are those of the elements reached, one for each, in order. -/
theorem forall₂_mirrors_of_nodes {es around : List Element} {path : String} {ns : List Node}
    (h : nodes path es = .ok ns) (hspells : Spells around path)
    (hpath : around ≠ [] → path ≠ "") :
    List.Forall₂ Mirrors (reachedAll around es) (Node.preorderOfAll ns) := by
  induction es using elements_induction generalizing around path ns with
  | nil =>
    obtain rfl := Except.ok.inj h
    exact .nil
  | cons e rest ihc ihr =>
    obtain ⟨n, ns', hnode, hrest, rfl⟩ := nodes_cons_eq_ok_iff.1 h
    obtain ⟨name, hname, hblank, hnode⟩ := node_eq_ok_iff.1 hnode
    have hchild := hspells.childPath hpath hname
    have hbehind := ihr hrest hspells hpath
    rw [reachedAll_cons, reached_eq]
    split at hnode
    · rename_i occurrence hoccurrence
      obtain ⟨ns, hchildren, rfl⟩ := hnode
      have hgroup : e.IsGroup := Element.isGroup_iff.2 (by simp [hoccurrence])
      have hbelow := ihc hchildren hchild fun _ ↦ childPath_ne_empty (ne_empty_of_not_blank hblank)
      rw [if_pos hgroup, Node.preorderOfAll_group, List.cons_append]
      exact .cons ⟨isOfType_group hoccurrence, rfl, hchild⟩ (List.rel_append hbelow hbehind)
    · rename_i hoccurrence
      subst hnode
      have hgroup : ¬ e.IsGroup := fun h ↦ Element.isGroup_iff.1 h hoccurrence
      rw [if_neg hgroup, Node.preorderOfAll_question]
      exact .cons ⟨.question (fun h ↦ hgroup (.inl h)) (fun h ↦ hgroup (.inr h)) rfl, rfl, hchild⟩
        hbehind

end Survey

namespace Form

/-- **The form of a survey definition has its elements for nodes.** There is a form just if the
survey and all elements reached have names; then its nodes are those of the elements reached, one
for each and in the same order. -/
theorem mirrors_ofSurveyText {text : String} {survey : Survey}
    (h : (Json.readParts? text).bind Survey.ofValue? = some survey) :
    let positions := Survey.reachedAll [] survey.children
    ((∃ form, ofSurveyText text = .ok form) ↔ (Text.trim survey.name).isEmpty = false ∧
      ∀ e, Survey.Reaches survey.children e → e.IsNamed) ∧
    (∀ e, (∃ p ∈ positions, p.element = e) ↔ Survey.Reaches survey.children e) ∧
    ∀ form, ofSurveyText text = .ok form →
      List.Forall₂ Survey.Mirrors positions (Node.preorderOfAll form.children) := by
  have hform : ofSurveyText text = survey.toForm := by rw [ofSurveyText, h]
  simp only [hform, Survey.toForm_eq_ok_iff]
  refine ⟨?_, fun _ ↦ Survey.exists_mem_reachedAll_iff, ?_⟩
  · rw [← @Survey.exists_nodes_iff _ ""]
    exact ⟨fun ⟨_, hname, ns, hns, _⟩ ↦ ⟨hname, ns, hns⟩,
      fun ⟨hname, ns, hns⟩ ↦ ⟨_, hname, ns, hns, rfl⟩⟩
  · rintro _ ⟨-, ns, hns, rfl⟩
    exact Survey.forall₂_mirrors_of_nodes hns ⟨[], rfl, rfl⟩ (absurd rfl ·)

/-- A survey with a repeat inside of a group. What lies in its two questions has no name, and the
type of the second is a group's but for blanks. -/
def shelterSurvey : Json := .object [
  ("name", .text "shelter"),
  ("children", .array [
    .object [("type", .text "group"), ("name", .text "camp"),
      ("children", .array [
        .object [("type", .text "repeat"), ("name", .text "tent"),
          ("children", .array [
            .object [("type", .text "text"), ("name", .text "owner"),
              ("children", .array [.object [("type", .text "repeat")]])]])]])],
    .object [("type", .text " group "), ("name", .text "rest"),
      ("children", .array [.object [("name", .text " ")]])]])]

/-- The form that the survey describes. -/
def shelterForm : Form where
  name := "shelter"
  children := [
    .group .once "camp" "camp" none [
      .group .repeated "tent" "camp/tent" none [
        .question { name := "owner", xpath := "camp/tent/owner", type := .text }]],
    .question { name := "rest", xpath := "rest", type := .other "group" }]

theorem toForm_shelterSurvey :
    (Survey.ofValue? shelterSurvey).map Survey.toForm = some (.ok shelterForm) := by
  simp [shelterSurvey, Survey.ofValue?, Survey.ofJson?, Survey.childrenOfFields?,
    Survey.children?, Survey.listOfJson?, Survey.element?, Survey.elementFieldNames,
    Survey.fieldNames, Json.fields?, Json.declaredFields?, Entries.lookup,
    Json.defaulted, Json.optional, Json.required, Json.text?]
  rfl

theorem mirrors_shelterSurvey : ∃ survey,
    (Json.readParts? shelterSurvey.write).bind Survey.ofValue? = some survey ∧
    ofSurveyText shelterSurvey.write = .ok shelterForm ∧
    (∀ e, Survey.Reaches survey.children e → e.IsNamed) ∧
    List.Forall₂ Survey.Mirrors (Survey.reachedAll [] survey.children)
      (Node.preorderOfAll shelterForm.children) := by
  have hrewritable : Json.Rewritable shelterSurvey := by
    simp [shelterSurvey, Json.rewritable_object_iff, Json.rewritable_array_iff,
      Json.Rewritable.text]
  have hread : Json.readParts? shelterSurvey.write = some shelterSurvey :=
    Json.readParts?_of_spells (Json.spells_write hrewritable).isSpace (by decide)
  obtain ⟨survey, hsurvey, hform⟩ := Option.map_eq_some_iff.1 toForm_shelterSurvey
  have htext : (Json.readParts? shelterSurvey.write).bind Survey.ofValue? = some survey := by
    rw [hread, Option.bind_some, hsurvey]
  have hok : ofSurveyText shelterSurvey.write = .ok shelterForm := by
    rw [ofSurveyText, htext]
    exact hform
  obtain ⟨hiff, -, hmirrors⟩ := mirrors_ofSurveyText htext
  exact ⟨survey, htext, hok, (hiff.1 ⟨_, hok⟩).2, hmirrors _ hok⟩

end Form

end SurveyExport
