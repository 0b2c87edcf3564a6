import SurveyExport.Form.Survey
import SurveyExport.Proofs.Form.Tree

/-!
# The xpaths of a form that a survey describes

In a form made from a survey definition the xpath of a node is the names on the way to it with
slashes between. So whatever lies in a repeated group has the group's xpath and a slash before its
own (`Node.NestedAll.section_prefix`), and therefore comes after it in the order of texts
(`Form.lt_of_encloses`). Forms in native JSON carry their xpaths and need not have this shape.
-/

namespace SurveyExport

namespace Node

mutual

/-- The xpath of a node below a path, and of all nodes below it, is spelled by their names. -/
def Nested (path : String) : Node → Prop
  | .group _ name xpath _ children =>
    name ≠ "" ∧ xpath = Survey.childPath path name ∧ NestedAll xpath children
  | .question q => q.name ≠ "" ∧ q.xpath = Survey.childPath path q.name

/-- The same for all nodes of a forest. -/
def NestedAll (path : String) : List Node → Prop
  | [] => True
  | n :: rest => Nested path n ∧ NestedAll path rest

end

@[simp] theorem nestedAll_nil (path : String) : NestedAll path [] := trivial

@[simp] theorem nestedAll_cons {path : String} {n : Node} {rest : List Node} :
    NestedAll path (n :: rest) ↔ Nested path n ∧ NestedAll path rest := Iff.rfl

@[simp] theorem nested_group {path name xpath : String} {occurrence : Occurrence}
    {label : Option Label} {children : List Node} :
    Nested path (.group occurrence name xpath label children) ↔
      name ≠ "" ∧ xpath = Survey.childPath path name ∧ NestedAll xpath children := Iff.rfl

@[simp] theorem nested_question {path : String} {q : Question} :
    Nested path (.question q) ↔ q.name ≠ "" ∧ q.xpath = Survey.childPath path q.name := Iff.rfl

end Node

/-! ### What a survey becomes -/

namespace Survey

/-- The question that an element with a name becomes. -/
def Element.question (e : Element) (name xpath : String) : Question :=
  { name, xpath, label := e.label, itemset := e.itemset, choiceFilter := e.choiceFilter
    type := QuestionType.ofName e.type
    choices := choicesOf (QuestionType.ofName e.type) e.choices e.children
    randomize := (e.parameters.get? "randomize").any isOn
    hashtag := (e.attributes.get? "hxl").bind Json.text? }

/-- An outcome in two stages is reached just if both are. -/
theorem bind_eq_ok_iff {ε α β : Type} {x : Except ε α} {f : α → Except ε β} {b : β} :
    x.bind f = .ok b ↔ ∃ a, x = .ok a ∧ f a = .ok b := by
  cases x <;> simp [Except.bind]

/-- The name of a node is that of its element, which is not blank. -/
theorem nameOf_eq_ok_iff {path type : String} {name? : Option String} {name : String} :
    nameOf path type name? = .ok name ↔ name? = some name ∧ (Text.trim name).isEmpty = false := by
  cases name? with
  | none => simp [nameOf]
  | some n =>
    rw [nameOf, Option.some_inj]
    split
    · rename_i hblank
      refine iff_of_false nofun ?_
      rintro ⟨rfl, hname⟩
      rw [hblank] at hname
      cases hname
    · rename_i hname
      rw [Except.ok.injEq]
      exact ⟨fun h ↦ ⟨h, h ▸ Bool.eq_false_iff.2 hname⟩, And.left⟩

/-- An element with a name becomes a group, if its children become nodes, or else a question. -/
theorem node_eq_ok_iff {path : String} {e : Element} {n : Node} :
    node path e = .ok n ↔ ∃ name, e.name = some name ∧ (Text.trim name).isEmpty = false ∧
      match occurrence? e.type with
      | some occurrence => ∃ ns, nodes (childPath path name) e.children = .ok ns ∧
        n = .group occurrence name (childPath path name) e.label ns
      | none => n = .question (e.question name (childPath path name)) := by
  have hnode : node path e = (nameOf path e.type e.name).bind fun name ↦
      match occurrence? e.type with
      | some occurrence => (nodes (childPath path name) e.children).bind fun ns ↦
        .ok (.group occurrence name (childPath path name) e.label ns)
      | none => .ok (.question (e.question name (childPath path name))) := by
    cases e
    rfl
  rw [hnode, bind_eq_ok_iff]
  simp only [nameOf_eq_ok_iff, and_assoc]
  refine exists_congr fun name ↦ and_congr_right fun _ ↦ and_congr_right fun _ ↦ ?_
  cases occurrence? e.type with
  | some occurrence => simp only [bind_eq_ok_iff, Except.ok.injEq, eq_comm (a := n)]
  | none => simp only [Except.ok.injEq, eq_comm (a := n)]

/-- Elements become nodes one after the other. -/
theorem nodes_cons_eq_ok_iff {path : String} {e : Element} {rest : List Element} {ns : List Node} :
    nodes path (e :: rest) = .ok ns ↔
      ∃ n ns', node path e = .ok n ∧ nodes path rest = .ok ns' ∧ ns = n :: ns' := by
  have hnodes : nodes path (e :: rest) = (node path e).bind fun n ↦
      (nodes path rest).bind fun ns' ↦ .ok (n :: ns') := rfl
  simp only [hnodes, bind_eq_ok_iff, Except.ok.injEq, exists_and_left, eq_comm (a := ns)]

/-- A survey with a name becomes a form, if its elements become nodes. -/
theorem toForm_eq_ok_iff {survey : Survey} {form : Form} :
    survey.toForm = .ok form ↔ (Text.trim survey.name).isEmpty = false ∧
      ∃ ns, nodes "" survey.children = .ok ns ∧ form =
        ⟨survey.name, survey.title, survey.idString, survey.defaultLanguage, ns,
          survey.choices⟩ := by
  have htoForm : survey.toForm = if (Text.trim survey.name).isEmpty then .error .unnamedSurvey
      else (nodes "" survey.children).bind fun ns ↦ .ok
        ⟨survey.name, survey.title, survey.idString, survey.defaultLanguage, ns,
          survey.choices⟩ := by
    rw [toForm]
    split <;> rfl
  rw [htoForm]
  split
  · rename_i hblank
    simp [hblank]
  · rename_i hname
    simp only [Bool.eq_false_iff.2 hname, bind_eq_ok_iff, Except.ok.injEq, true_and,
      eq_comm (a := form)]

/-- Induction on a list of elements, with a hypothesis for the children of the first. -/
@[elab_as_elim]
theorem elements_induction {P : List Element → Prop} (nil : P [])
    (cons : ∀ e rest, P e.children → P rest → P (e :: rest)) : ∀ es, P es
  | [] => nil
  | ⟨type, name, label, choices, itemset, choiceFilter, parameters, attributes, children⟩ :: rest =>
    cons ⟨type, name, label, choices, itemset, choiceFilter, parameters, attributes, children⟩ rest
      (elements_induction nil cons children) (elements_induction nil cons rest)

/-! ### Surveys give nested xpaths -/

/-- A name that is not blank is not empty. -/
theorem ne_empty_of_not_blank {name : String} (h : (Text.trim name).isEmpty = false) :
    name ≠ "" := by
  rintro rfl
  exact absurd h (by decide)

/-- The nodes made from elements have nested xpaths. -/
theorem nestedAll_of_nodes {es : List Element} {path : String} {ns : List Node}
    (h : nodes path es = .ok ns) : Node.NestedAll path ns := by
  induction es using elements_induction generalizing path ns with
  | nil =>
    obtain rfl := Except.ok.inj h
    exact trivial
  | cons e rest ihc ihr =>
    obtain ⟨n, ns', hnode, hrest, rfl⟩ := nodes_cons_eq_ok_iff.1 h
    obtain ⟨name, -, hblank, hnode⟩ := node_eq_ok_iff.1 hnode
    refine ⟨?_, ihr hrest⟩
    split at hnode
    · obtain ⟨ns, hchildren, rfl⟩ := hnode
      exact Node.nested_group.2 ⟨ne_empty_of_not_blank hblank, rfl, ihc hchildren⟩
    · subst hnode
      exact Node.nested_question.2 ⟨ne_empty_of_not_blank hblank, rfl⟩

/-- The xpaths of a form that a survey describes are nested. -/
theorem nestedAll_of_toForm {survey : Survey} {form : Form} (h : survey.toForm = .ok form) :
    Node.NestedAll "" form.children := by
  obtain ⟨-, ns, hnodes, rfl⟩ := toForm_eq_ok_iff.1 h
  exact nestedAll_of_nodes hnodes

end Survey

/-! ### What lies in a repeated group is named after it -/

/-- The path below a path, as characters. -/
theorem Survey.toList_childPath {path name : String} (hpath : path ≠ "") :
    (Survey.childPath path name).toList = path.toList ++ '/' :: name.toList := by
  rw [childPath, if_neg (by simpa using hpath)]
  simp

theorem Survey.childPath_ne_empty {path name : String} (hname : name ≠ "") :
    Survey.childPath path name ≠ "" := by
  rw [childPath]
  split
  · exact hname
  · intro h
    have := congrArg String.toList h
    simp at this

namespace Node

/-- Below a path every xpath begins with the path and a slash. -/
theorem NestedAll.path_prefix {path owner s : String} {nodes : List Node} {n : Node}
    (h : NestedAll path nodes) (hpath : path ≠ "") (hn : LiesIn owner nodes s n) :
    path.toList ++ ['/'] <+: n.xpath.toList := by
  induction nodes using forest_induction generalizing path owner s n with
  | nil => exact absurd hn not_liesIn_nil
  | group occurrence name xpath label children rest ihc ihr =>
    obtain ⟨⟨hname, hxpath, hchildren⟩, hrest⟩ := h
    have hchild : path.toList ++ ['/'] <+: xpath.toList := by
      rw [hxpath, Survey.toList_childPath hpath]
      exact ⟨name.toList, by simp⟩
    -- below the group even its own xpath is a prefix
    have hbelow : ∀ {owner}, LiesIn owner children s n → path.toList ++ ['/'] <+: n.xpath.toList :=
      fun h ↦ hchild.trans ((List.prefix_append _ _).trans
        (ihc hchildren (hxpath ▸ Survey.childPath_ne_empty hname) h))
    rcases liesIn_cons_iff.1 hn with hn | hn
    · rcases liesIn_group_iff.1 hn with ⟨-, rfl⟩ | hn
      · exact hchild
      · exact hbelow hn
    · exact ihr hrest hpath hn
  | question q rest ih =>
    obtain ⟨⟨hname, hxpath⟩, hrest⟩ := h
    rcases liesIn_cons_iff.1 hn with hn | hn
    · obtain ⟨-, rfl⟩ := liesIn_question_iff.1 hn
      rw [xpath, hxpath, Survey.toList_childPath hpath]
      exact ⟨q.name.toList, by simp⟩
    · exact ih hrest hpath hn

/-- What lies in a section other than that of the forest is named after the section. -/
theorem NestedAll.section_prefix {path owner s : String} {nodes : List Node} {n : Node}
    (h : NestedAll path nodes) (hn : LiesIn owner nodes s n) :
    s = owner ∨ s.toList ++ ['/'] <+: n.xpath.toList := by
  induction nodes using forest_induction generalizing path owner s n with
  | nil => exact absurd hn not_liesIn_nil
  | group occurrence name xpath label children rest ihc ihr =>
    obtain ⟨⟨hname, hxpath, hchildren⟩, hrest⟩ := h
    rcases liesIn_cons_iff.1 hn with hn | hn
    · cases occurrence with
      | once =>
        rcases liesIn_group_iff.1 hn with ⟨rfl, -⟩ | hn
        · exact .inl rfl
        · exact ihc hchildren hn
      | repeated =>
        rcases liesIn_group_iff.1 hn with ⟨rfl, -⟩ | hn
        · exact .inl rfl
        · -- the group opens the section itself, or a group inside it does
          rcases ihc hchildren hn with rfl | hprefix
          · exact .inr (hchildren.path_prefix (hxpath ▸ Survey.childPath_ne_empty hname) hn)
          · exact .inr hprefix
    · exact ihr hrest hn
  | question q rest ih =>
    obtain ⟨-, hrest⟩ := h
    rcases liesIn_cons_iff.1 hn with hn | hn
    · exact .inl (liesIn_question_iff.1 hn).1
    · exact ih hrest hn

end Node

/-- A text comes before the longer texts that begin with it. -/
theorem Text.lt_of_prefix {s t : String} {c : Char} (h : s.toList ++ [c] <+: t.toList) : s < t := by
  obtain ⟨rest, hrest⟩ := h
  show s.toList < t.toList
  rw [← hrest]
  generalize s.toList = cs
  induction cs with
  | nil => exact List.nil_lt_cons _ _
  | cons d cs ih => exact List.cons_lt_cons_iff.2 (.inr ⟨rfl, ih⟩)

namespace Form

variable {form : Form} {s : String}

/-- A question of a section other than the root lies below the section's repeated group. -/
theorem below_of_holds (h : Node.NestedAll "" form.children) (hs : s ≠ form.name) {q : Question}
    (hq : form.Holds s q) : s.toList ++ ['/'] <+: q.xpath.toList :=
  (h.section_prefix hq).resolve_left hs

/-- A repeated group inside another lies below it. -/
theorem below_of_encloses (h : Node.NestedAll "" form.children) (hs : s ≠ form.name) {x : String}
    (hx : form.Encloses s x) : s.toList ++ ['/'] <+: x.toList := by
  obtain ⟨name, label, children, hx⟩ := hx
  exact (h.section_prefix hx).resolve_left hs

/-- A repeated group inside another comes after it in the order of texts. -/
theorem lt_of_encloses (h : Node.NestedAll "" form.children) (hs : s ≠ form.name) {x : String}
    (hx : form.Encloses s x) : s < x :=
  Text.lt_of_prefix (below_of_encloses h hs hx)

end Form

end SurveyExport
