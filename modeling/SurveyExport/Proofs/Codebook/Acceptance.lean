import SurveyExport.Proofs.Codebook.Check

/-!
# Acceptance of forms

Which forms have a codebook, and which error the others give, both said by the tree in pre-order.

The visit compares like with like: a question with the questions before it, a repeated group with
the repeated groups before it and with the form's name. A group that occurs once is compared with
nothing. `Node.AtFault` is this rule for one node, and `Form.Refuses` picks the first node at fault.

A form is *consistent* if its nodes, of whichever kind, have distinct xpaths. Acceptance neither
implies this nor follows from it. The two differ by the pairs of nodes that are never compared
(`Form.KindsApart`), and by the one comparison that involves no second node, that of a repeated
group with the form's name.

* `Codebook.ofForm_accepts` is the exact condition on each side, and the difference.
-/

namespace SurveyExport

namespace Node

/-- The xpath of a group that occurs once. -/
def once? : Node → Option String
  | .group .once _ xpath _ _ => some xpath
  | _ => none

/-- A node is at fault, given the sections and the question xpaths before it: a repeated group that
opens one of these sections, and a question without a name or with one of these xpaths. -/
inductive AtFault (sections xpaths : List String) : Node → CodebookError → Prop
  | taken {name x : String} {label : Option Label} {children : List Node} (h : x ∈ sections) :
      AtFault sections xpaths (.group .repeated name x label children) (.duplicateRepeat x)
  | unnamed {q : Question} (h : q.name = "") :
      AtFault sections xpaths (.question q) (.unnamedQuestion q.xpath)
  | question {q : Question} (hname : q.name ≠ "") (h : q.xpath ∈ xpaths) :
      AtFault sections xpaths (.question q) (.duplicateQuestion q.xpath)

theorem AtFault.mono {sections sections' xpaths xpaths' : List String} {n : Node}
    {e : CodebookError} (h : AtFault sections xpaths n e) (hs : sections ⊆ sections')
    (hx : xpaths ⊆ xpaths') : AtFault sections' xpaths' n e := by
  cases h with
  | taken h => exact .taken (hs h)
  | unnamed h => exact .unnamed h
  | question hname h => exact .question hname (hx h)

/-- The nodes `before` give the check no reason to refuse. -/
structure Passes (sections xpaths : List String) (before : List Node) : Prop where
  /-- The repeated groups open distinct sections. -/
  sections_nodup : (before.filterMap repeated?).Nodup
  /-- None of the sections is there already. -/
  sections_new : ∀ x ∈ before.filterMap repeated?, x ∉ sections
  /-- The questions have distinct xpaths. -/
  xpaths_nodup : ((before.filterMap leaf?).map (·.xpath)).Nodup
  /-- None of the xpaths is there already. -/
  xpaths_new : ∀ q ∈ before.filterMap leaf?, q.xpath ∉ xpaths
  /-- The questions have names. -/
  named : ∀ q ∈ before.filterMap leaf?, q.name ≠ ""

end Node

namespace Placement

/-- The check does not look at the sections that questions belong to. -/
theorem check_map_unowned (sections xpaths : List String) (ps : List Placement) :
    check sections xpaths (ps.map unowned) = check sections xpaths ps := by
  induction ps generalizing sections xpaths with
  | nil => rfl
  | cons p rest ih => cases p <;> simp [check, unowned, ih]

end Placement

namespace Node

/-- The check passes nodes just if they give it no reason to refuse. -/
theorem check_eq_ok_iff {sections xpaths : List String} {nodes : List Node} :
    Placement.check sections xpaths (nodes.filterMap seen?) = .ok () ↔
      Passes sections xpaths nodes := by
  rw [Placement.check_eq_ok_iff, filterMap_opens?_seen?, filterMap_question?_seen?]
  exact ⟨fun ⟨⟨h₁, h₂⟩, ⟨h₃, h₄⟩, h₅⟩ ↦ ⟨h₁, h₂, h₃, h₄, h₅⟩,
    fun ⟨h₁, h₂, h₃, h₄, h₅⟩ ↦ ⟨⟨h₁, h₂⟩, ⟨h₃, h₄⟩, h₅⟩⟩

/-- The check of a first node: a fault of the node is the error, and without one the check goes on
with the node among those before. -/
theorem check_cons (sections xpaths : List String) (n : Node) (rest : List Node) :
    (∃ e, AtFault sections xpaths n e ∧
      Placement.check sections xpaths ((n :: rest).filterMap seen?) = .error e) ∨
    ((∀ e, ¬ AtFault sections xpaths n e) ∧
      Placement.check sections xpaths ((n :: rest).filterMap seen?) =
        Placement.check (n.repeated?.toList ++ sections) (n.leaf?.toList.map (·.xpath) ++ xpaths)
          (rest.filterMap seen?)) := by
  rcases n with ⟨_ | _, name, x, label, children⟩ | q
  · exact .inr ⟨fun e h ↦ (nomatch h), rfl⟩
  · simp only [List.filterMap_cons, seen?, Placement.check, List.contains_iff_mem]
    by_cases hx : x ∈ sections
    · exact .inl ⟨_, .taken hx, if_pos hx⟩
    · refine .inr ⟨fun e h ↦ ?_, if_neg hx⟩
      cases h with
      | taken h => exact hx h
  · simp only [List.filterMap_cons, seen?, Placement.check, List.contains_iff_mem,
      String.isEmpty_iff]
    by_cases hname : q.name = ""
    · exact .inl ⟨_, .unnamed hname, if_pos hname⟩
    · rw [if_neg hname]
      by_cases hx : q.xpath ∈ xpaths
      · exact .inl ⟨_, .question hname hx, if_pos hx⟩
      · refine .inr ⟨fun e h ↦ ?_, if_neg hx⟩
        cases h with
        | unnamed h => exact hname h
        | question _ h => exact hx h

/-- A node has at most one fault. -/
theorem AtFault.unique {sections xpaths : List String} {n : Node} {e e' : CodebookError}
    (h : AtFault sections xpaths n e) (h' : AtFault sections xpaths n e') : e = e' := by
  cases h <;> cases h' <;> first | rfl | contradiction

/-- Nodes that pass begin with one that is not at fault, and the rest passes after it. -/
theorem passes_cons_iff {sections xpaths : List String} {n : Node} {rest : List Node} :
    Passes sections xpaths (n :: rest) ↔ (∀ e, ¬ AtFault sections xpaths n e) ∧
      Passes (n.repeated?.toList ++ sections) (n.leaf?.toList.map (·.xpath) ++ xpaths) rest := by
  rw [← check_eq_ok_iff, ← check_eq_ok_iff]
  obtain ⟨e, hfault, hcheck⟩ | ⟨hnone, hcheck⟩ := check_cons sections xpaths n rest
  · rw [hcheck]
    exact ⟨fun h ↦ (nomatch h), fun h ↦ absurd hfault (h.1 e)⟩
  · rw [hcheck]
    exact ⟨fun h ↦ ⟨hnone, h⟩, fun h ↦ h.2⟩

/-- The nodes before a node count in whichever order they are listed. -/
theorem atFault_cons_iff {sections xpaths : List String} {m n : Node} {before : List Node}
    {e : CodebookError} :
    AtFault ((m :: before).filterMap repeated? ++ sections)
        (((m :: before).filterMap leaf?).map (·.xpath) ++ xpaths) n e ↔
      AtFault (before.filterMap repeated? ++ (m.repeated?.toList ++ sections))
        ((before.filterMap leaf?).map (·.xpath) ++ (m.leaf?.toList.map (·.xpath) ++ xpaths))
        n e := by
  have hsections (x : String) : x ∈ (m :: before).filterMap repeated? ++ sections ↔
      x ∈ before.filterMap repeated? ++ (m.repeated?.toList ++ sections) := by
    cases h : m.repeated? <;> simp [h, or_left_comm]
  have hxpaths (x : String) : x ∈ ((m :: before).filterMap leaf?).map (·.xpath) ++ xpaths ↔
      x ∈ (before.filterMap leaf?).map (·.xpath) ++ (m.leaf?.toList.map (·.xpath) ++ xpaths) := by
    cases h : m.leaf? <;> simp [h, or_left_comm]
  exact ⟨fun h ↦ h.mono (fun x ↦ (hsections x).1) fun x ↦ (hxpaths x).1,
    fun h ↦ h.mono (fun x ↦ (hsections x).2) fun x ↦ (hxpaths x).2⟩

/-- The check refuses nodes with an error just if the error is the fault of a node, and the nodes
before it pass. -/
theorem check_eq_error_iff {sections xpaths : List String} {nodes : List Node}
    {e : CodebookError} :
    Placement.check sections xpaths (nodes.filterMap seen?) = .error e ↔
      ∃ before n after, nodes = before ++ n :: after ∧ Passes sections xpaths before ∧
        AtFault (before.filterMap repeated? ++ sections)
          ((before.filterMap leaf?).map (·.xpath) ++ xpaths) n e := by
  induction nodes generalizing sections xpaths with
  | nil => simp [Placement.check]
  | cons m rest ih =>
    have hnil : Passes sections xpaths [] := check_eq_ok_iff.1 rfl
    obtain ⟨e', hfault, hcheck⟩ | ⟨hnone, hcheck⟩ := check_cons sections xpaths m rest
    · -- the first node is at fault, so no longer list of nodes passes
      rw [hcheck]
      constructor
      · rintro ⟨⟩
        exact ⟨[], m, rest, rfl, hnil, hfault⟩
      · rintro ⟨_ | ⟨m', before⟩, n, after, hnodes, hpasses, hn⟩
        · obtain ⟨rfl, rfl⟩ := List.cons_eq_cons.1 hnodes
          rw [hfault.unique hn]
        · obtain ⟨rfl, -⟩ := List.cons_eq_cons.1 hnodes
          exact absurd hfault ((passes_cons_iff.1 hpasses).1 e')
    · rw [hcheck, ih]
      constructor
      · rintro ⟨before, n, after, rfl, hpasses, hn⟩
        exact ⟨m :: before, n, after, rfl, passes_cons_iff.2 ⟨hnone, hpasses⟩,
          atFault_cons_iff.2 hn⟩
      · rintro ⟨_ | ⟨m', before⟩, n, after, hnodes, hpasses, hn⟩
        · obtain ⟨rfl, rfl⟩ := List.cons_eq_cons.1 hnodes
          exact absurd hn (hnone e)
        · obtain ⟨rfl, rfl⟩ := List.cons_eq_cons.1 hnodes
          exact ⟨before, n, after, rfl, (passes_cons_iff.1 hpasses).2, atFault_cons_iff.1 hn⟩

/-- The xpaths of nodes are those of the groups that occur once, of the repeated groups and of the
questions. -/
theorem map_xpath_perm (nodes : List Node) :
    (nodes.map xpath).Perm (nodes.filterMap once? ++
      (nodes.filterMap repeated? ++ (nodes.filterMap leaf?).map (·.xpath))) := by
  induction nodes with
  | nil => exact .nil
  | cons n rest ih =>
    rcases n with ⟨_ | _, name, x, label, children⟩ | q
    · exact ih.cons x
    · exact (ih.cons x).trans List.perm_middle.symm
    · rw [← List.append_assoc] at ih ⊢
      exact (ih.cons q.xpath).trans List.perm_middle.symm

end Node

namespace Form

/-- The xpaths of the groups that occur once, in pre-order. -/
def groups (form : Form) : List String := (Node.preorderOfAll form.children).filterMap Node.once?

/-- A form is consistent if it has a name, its questions have names, and no two of its nodes have
the same xpath. -/
structure Consistent (form : Form) : Prop where
  named : Text.trim form.name ≠ ""
  questions_named : ∀ q ∈ form.questions, q.name ≠ ""
  xpaths_nodup : ((Node.preorderOfAll form.children).map Node.xpath).Nodup

/-- A form is admitted if it has a name, its questions have names and distinct xpaths, and its
repeated groups have distinct xpaths other than the form's name. -/
structure Admitted (form : Form) : Prop where
  named : Text.trim form.name ≠ ""
  questions_named : ∀ q ∈ form.questions, q.name ≠ ""
  questions_nodup : (form.questions.map (·.xpath)).Nodup
  sections_nodup : (form.name :: form.repeats).Nodup

/-- No xpath is shared by nodes that are not compared with each other: a group that occurs once and
any other node, or a repeated group and a question. -/
structure KindsApart (form : Form) : Prop where
  groups_nodup : form.groups.Nodup
  groups_repeats : form.groups.Disjoint form.repeats
  groups_questions : form.groups.Disjoint (form.questions.map (·.xpath))
  repeats_questions : form.repeats.Disjoint (form.questions.map (·.xpath))

/-- A form is refused with an error: it has no name, or the error is the fault of the first node at
fault in pre-order. -/
def Refuses (form : Form) (e : CodebookError) : Prop :=
  if Text.trim form.name = "" then e = .unnamedForm
  else ∃ before n after, Node.preorderOfAll form.children = before ++ n :: after ∧
    Node.Passes [form.name] [] before ∧
    Node.AtFault (before.filterMap Node.repeated? ++ [form.name])
      ((before.filterMap Node.leaf?).map (·.xpath)) n e

/-- Distinct xpaths of all nodes are distinct xpaths of the nodes of each kind, and no xpath that
nodes of two kinds share. -/
theorem nodup_xpaths_iff {form : Form} :
    ((Node.preorderOfAll form.children).map Node.xpath).Nodup ↔
      form.KindsApart ∧ form.repeats.Nodup ∧ (form.questions.map (·.xpath)).Nodup := by
  rw [(Node.map_xpath_perm _).nodup_iff, Node.filterMap_leaf?_preorderOfAll, List.nodup_append',
    List.nodup_append', List.disjoint_append_right]
  constructor
  · rintro ⟨hg, ⟨hr, hq, hrq⟩, hgr, hgq⟩
    exact ⟨⟨hg, hgr, hgq, hrq⟩, hr, hq⟩
  · rintro ⟨⟨hg, hgr, hgq, hrq⟩, hr, hq⟩
    exact ⟨hg, ⟨hr, hq, hrq⟩, hgr, hgq⟩

/-- A form is consistent, and its name is no repeated group's xpath, just if it is admitted and no
xpath is shared by nodes that are not compared. -/
theorem consistent_and_iff {form : Form} :
    form.Consistent ∧ form.name ∉ form.repeats ↔ form.Admitted ∧ form.KindsApart := by
  constructor
  · rintro ⟨⟨hname, hnames, hnodup⟩, hroot⟩
    obtain ⟨hapart, hrepeats, hquestions⟩ := nodup_xpaths_iff.1 hnodup
    exact ⟨⟨hname, hnames, hquestions, List.nodup_cons.2 ⟨hroot, hrepeats⟩⟩, hapart⟩
  · rintro ⟨⟨hname, hnames, hquestions, hsections⟩, hapart⟩
    obtain ⟨hroot, hrepeats⟩ := List.nodup_cons.1 hsections
    exact ⟨⟨hname, hnames, nodup_xpaths_iff.2 ⟨hapart, hrepeats, hquestions⟩⟩, hroot⟩

end Form

namespace Codebook

variable {form : Form} {options : Options}

/-- A form has a codebook just if it is admitted. -/
theorem exists_ofForm_iff : (∃ book, ofForm form options = .ok book) ↔ form.Admitted := by
  constructor
  · rintro ⟨book, hbook⟩
    obtain ⟨-, hname, hsections, hquestions, hnames⟩ := ofForm_eq_ok_iff.1 hbook
    exact ⟨hname, hnames, hquestions, hsections⟩
  · rintro ⟨hname, hnames, hquestions, hsections⟩
    exact ⟨_, ofForm_eq_ok_iff.2 ⟨rfl, hname, hsections, hquestions, hnames⟩⟩

/-- The error of a form without a codebook. -/
theorem ofForm_eq_error_iff {e : CodebookError} :
    ofForm form options = .error e ↔ form.Refuses e := by
  have hcheck : Placement.check [form.name] [] (placements form) =
      Placement.check [form.name] [] ((Node.preorderOfAll form.children).filterMap Node.seen?) := by
    rw [← Node.map_unowned_placementsOfAll form.name, Placement.check_map_unowned]
    rfl
  rw [Form.Refuses]
  split
  · rename_i hname
    rw [eq_comm]
    simp [ofForm, hname, bind, Except.bind]
  · rename_i hname
    have hnodes : Placement.check [form.name] []
        ((Node.preorderOfAll form.children).filterMap Node.seen?) = .error e ↔ _ :=
      Node.check_eq_error_iff
    simp only [List.append_nil] at hnodes
    rw [← hnodes, ← hcheck]
    cases hres : Placement.check [form.name] [] (placements form) <;>
      simp [ofForm, hname, hres, bind, Except.bind, pure, Except.pure]

/-- **Which forms have a codebook.** A form has one just if it is admitted, and is refused with the
fault of its first node at fault otherwise. Among the forms whose name is no repeated group's
xpath, those with distinct xpaths throughout are the admitted ones in which nodes of different kinds
share none. -/
theorem ofForm_accepts (form : Form) (options : Options) :
    ((∃ book, ofForm form options = .ok book) ↔ form.Admitted) ∧
    (∀ e, ofForm form options = .error e ↔ form.Refuses e) ∧
    (form.Consistent ∧ form.name ∉ form.repeats ↔ form.Admitted ∧ form.KindsApart) :=
  ⟨exists_ofForm_iff, fun _ ↦ ofForm_eq_error_iff, Form.consistent_and_iff⟩

/-- A form with a repeated group `a` beside a question `a`. -/
def namesakeForm : Form where
  name := "visit"
  children :=
    [.question { name := "a", xpath := "a", type := .text },
      .group .repeated "a" "a" none [.question { name := "b", xpath := "a/b", type := .text }]]

example : namesakeForm.Admitted ∧ ¬ namesakeForm.Consistent :=
  ⟨⟨by decide, by decide, by decide, by decide⟩, fun h ↦ absurd h.xpaths_nodup (by decide)⟩

end Codebook

end SurveyExport
