import SurveyExport.Proofs.Form.Tree
import SurveyExport.Proofs.KeyMap

/-!
# The languages of a form

Labels stand in two places: in the tree of a form, at its groups and questions and at the choices
listed with questions (`Node.Bears`), and in the table of its shared choice lists (`Form.Offers`).
The languages of a form are collected from the tree alone. So they are exactly the languages of the
tree's labels, in strictly increasing order (`Form.mem_languages_iff`), and a language is missed
just if it is used in the table only (`Form.languages_complete_iff`).
-/

namespace SurveyExport

/-- A label has a text in a language. -/
def Label.IsIn (l : Label) (language : String) : Prop :=
  ∃ texts text, l = .translated texts ∧ texts.get? language = some text

theorem Label.mem_languages_iff {l : Label} {language : String} :
    language ∈ l.languages ↔ l.IsIn language := by
  cases l with
  | plain text => simp [languages, IsIn]
  | translated texts => simp [languages, IsIn, KeyMap.mem_keys_iff]

namespace Node

/-- `Bears nodes l` says that a node of a forest, at any depth, or a choice listed with a question
of it has the label `l`. -/
inductive Bears : List Node → Label → Prop
  | group {nodes children : List Node} {occurrence : Occurrence} {name xpath : String} {l : Label} :
    .group occurrence name xpath (some l) children ∈ nodes → Bears nodes l
  | question {nodes : List Node} {q : Question} {l : Label} :
    .question q ∈ nodes → q.label = some l → Bears nodes l
  | choice {nodes : List Node} {q : Question} {c : Choice} {l : Label} :
    .question q ∈ nodes → c ∈ q.choices → c.label = some l → Bears nodes l
  | inside {nodes children : List Node} {occurrence : Occurrence} {name xpath : String}
    {label : Option Label} {l : Label} : .group occurrence name xpath label children ∈ nodes →
    Bears children l → Bears nodes l

theorem not_bears_nil {l : Label} : ¬ Bears [] l := by
  rintro (h | ⟨h, -⟩ | ⟨h, -, -⟩ | ⟨h, -⟩) <;> exact absurd h List.not_mem_nil

/-- The labels of a larger forest: those of a smaller one are among them. -/
theorem Bears.mono {nodes nodes' : List Node} {l : Label} (h : Bears nodes l)
    (hsub : nodes ⊆ nodes') : Bears nodes' l := by
  cases h with
  | group hn => exact .group (hsub hn)
  | question hn hl => exact .question (hsub hn) hl
  | choice hn hc hl => exact .choice (hsub hn) hc hl
  | inside hn h => exact .inside (hsub hn) h

/-- A label of a forest is one of its first node, or of the rest. -/
theorem bears_cons_iff {n : Node} {rest : List Node} {l : Label} :
    Bears (n :: rest) l ↔ Bears [n] l ∨ Bears rest l := by
  constructor
  · intro h
    cases h with
    | group hn =>
      exact (List.mem_cons.1 hn).imp (fun h ↦ .group (List.mem_singleton.2 h)) .group
    | question hn hl =>
      exact (List.mem_cons.1 hn).imp (fun h ↦ .question (List.mem_singleton.2 h) hl)
        fun h ↦ .question h hl
    | choice hn hc hl =>
      exact (List.mem_cons.1 hn).imp (fun h ↦ .choice (List.mem_singleton.2 h) hc hl)
        fun h ↦ .choice h hc hl
    | inside hn h =>
      exact (List.mem_cons.1 hn).imp (fun hg ↦ .inside (List.mem_singleton.2 hg) h)
        fun hg ↦ .inside hg h
  · rintro (h | h)
    · exact h.mono (List.cons_subset_cons _ (List.nil_subset _))
    · exact h.mono (List.subset_cons_self _ _)

theorem bears_group_iff {occurrence : Occurrence} {name xpath : String} {label : Option Label}
    {children : List Node} {l : Label} :
    Bears [.group occurrence name xpath label children] l ↔ label = some l ∨ Bears children l := by
  constructor
  · intro h
    cases h with
    | group hn =>
      cases List.mem_singleton.1 hn
      exact .inl rfl
    | question hn => cases List.mem_singleton.1 hn
    | choice hn => cases List.mem_singleton.1 hn
    | inside hn h =>
      cases List.mem_singleton.1 hn
      exact .inr h
  · rintro (rfl | h)
    · exact .group List.mem_cons_self
    · exact .inside List.mem_cons_self h

theorem bears_question_iff {q : Question} {l : Label} :
    Bears [.question q] l ↔ q.label = some l ∨ ∃ c ∈ q.choices, c.label = some l := by
  constructor
  · intro h
    cases h with
    | group hn => cases List.mem_singleton.1 hn
    | question hn hl =>
      cases List.mem_singleton.1 hn
      exact .inl hl
    | choice hn hc hl =>
      cases List.mem_singleton.1 hn
      exact .inr ⟨_, hc, hl⟩
    | inside hn => cases List.mem_singleton.1 hn
  · rintro (hl | ⟨c, hc, hl⟩)
    · exact .question List.mem_cons_self hl
    · exact .choice List.mem_cons_self hc hl

/-- The labels that are collected are those that the forest bears. -/
theorem mem_labelsOfAll_iff {nodes : List Node} {l : Label} :
    l ∈ labelsOfAll nodes ↔ Bears nodes l := by
  induction nodes using forest_induction with
  | nil => exact iff_of_false List.not_mem_nil not_bears_nil
  | group occurrence name xpath label children rest ihc ihr =>
    rw [bears_cons_iff, bears_group_iff, ← ihc, ← ihr, labelsOfAll, labels, List.mem_append,
      List.mem_append, Option.mem_toList]
  | question q rest ih =>
    rw [bears_cons_iff, bears_question_iff, ← ih, labelsOfAll, labels]
    simp only [List.mem_append, List.mem_flatMap, Option.mem_toList]

end Node

namespace Form

variable {f : Form} {language : String}

/-- A label in the tree of the form is in the language. -/
def Speaks (f : Form) (language : String) : Prop :=
  ∃ l, Node.Bears f.children l ∧ l.IsIn language

/-- The label of a choice in one of the shared lists is in the language. -/
def Offers (f : Form) (language : String) : Prop :=
  ∃ list choices, f.itemsets.get? list = some choices ∧
    ∃ c ∈ choices, ∃ l, c.label = some l ∧ l.IsIn language

/-- The languages that are collected are those of the labels in the tree. -/
theorem mem_languages_iff : language ∈ f.languages ↔ f.Speaks language := by
  have hcollected : language ∈ (Node.labelsOfAll f.children).flatMap Label.languages ↔
      f.Speaks language := by
    simp only [List.mem_flatMap, Node.mem_labelsOfAll_iff, Label.mem_languages_iff, Speaks]
  rw [← hcollected, languages, KeyMap.mem_keys_iff]
  constructor
  · rintro ⟨_, h⟩
    obtain ⟨l, hl, heq⟩ := List.mem_map.1 (KeyMap.mem_of_get?_ofList h)
    obtain ⟨rfl, -⟩ := Prod.mk.inj heq
    exact hl
  · intro h
    exact ⟨(), KeyMap.get?_ofList fun _ ↦
      iff_of_true (List.mem_map.2 ⟨language, h, rfl⟩) rfl⟩

/-- **The languages of a form are those of the labels in its tree**, in strictly increasing order.
They are those of all its labels just if each language of a shared list is also one of the tree. -/
theorem languages_complete_iff (f : Form) :
    f.languages.Pairwise (· < ·) ∧ (∀ language, language ∈ f.languages ↔ f.Speaks language) ∧
      ((∀ language, language ∈ f.languages ↔ f.Speaks language ∨ f.Offers language) ↔
        ∀ language, f.Offers language → f.Speaks language) := by
  refine ⟨KeyMap.keys_sorted _, fun _ ↦ mem_languages_iff, forall_congr' fun language ↦ ?_⟩
  rw [mem_languages_iff]
  exact ⟨fun h hoffers ↦ h.2 (.inr hoffers), fun h ↦ ⟨.inl, fun hl ↦ hl.elim id h⟩⟩

end Form

end SurveyExport
