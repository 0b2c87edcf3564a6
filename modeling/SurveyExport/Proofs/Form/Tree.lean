import Mathlib.Data.List.Basic
import Mathlib.Data.List.Pairwise
import SurveyExport.Codebook.Basic

/-!
# The tree of a form

What a form declares, said without the visit that makes a codebook.

* `Node.preorder` lists all nodes depth first, each before the nodes below it.
* `Node.LiesIn` relates a node at any depth to its section: the nearest repeated group around it, or
  the section of the whole forest if there is none.

The visit is tied to both: the sections it opens are the repeated groups in pre-order
(`filterMap_opens?_placementsOfAll`), and it finds a question in a section just if the question lies
there (`question_mem_placementsOfAll`).

A forest is empty, or begins with a group, or begins with a question, and `Node.forest_induction`
follows this; the facts below are stated of forests and not of single nodes.
-/

namespace SurveyExport

/-- A placement without the section that a question belongs to. -/
def Placement.unowned : Placement → Placement
  | .opens xpath => .opens xpath
  | .question _ q => .question "" q

namespace Node

/-! ### Forests -/

/-- Induction on a forest, with a hypothesis for the nodes below its first node. -/
@[elab_as_elim]
theorem forest_induction {P : List Node → Prop} (nil : P [])
    (group : ∀ occurrence name xpath label children rest, P children → P rest →
      P (.group occurrence name xpath label children :: rest))
    (question : ∀ q rest, P rest → P (.question q :: rest)) : ∀ nodes, P nodes
  | [] => nil
  | .group occurrence name xpath label children :: rest =>
    group occurrence name xpath label children rest
      (forest_induction nil group question children) (forest_induction nil group question rest)
  | .question q :: rest => question q rest (forest_induction nil group question rest)

mutual

/-- A node and all nodes below it, depth first, each before the nodes below it. -/
def preorder : Node → List Node
  | .group occurrence name xpath label children =>
    .group occurrence name xpath label children :: preorderOfAll children
  | .question q => [.question q]

/-- Nodes and all nodes below them, depth first. -/
def preorderOfAll : List Node → List Node
  | [] => []
  | n :: rest => preorder n ++ preorderOfAll rest

end

@[simp] theorem preorderOfAll_nil : preorderOfAll [] = [] := rfl

@[simp] theorem preorderOfAll_group (occurrence : Occurrence) (name xpath : String)
    (label : Option Label) (children rest : List Node) :
    preorderOfAll (.group occurrence name xpath label children :: rest) =
      .group occurrence name xpath label children ::
        (preorderOfAll children ++ preorderOfAll rest) := rfl

@[simp] theorem preorderOfAll_question (q : Question) (rest : List Node) :
    preorderOfAll (.question q :: rest) = .question q :: preorderOfAll rest := rfl

/-- The xpath of a repeated group. -/
def repeated? : Node → Option String
  | .group .repeated _ xpath _ _ => some xpath
  | _ => none

/-- The question of a leaf. -/
def leaf? : Node → Option Question
  | .question q => some q
  | _ => none

/-- The questions of a forest are the leaves met in pre-order. -/
theorem filterMap_leaf?_preorderOfAll (nodes : List Node) :
    (preorderOfAll nodes).filterMap leaf? = questionsOfAll nodes := by
  induction nodes using forest_induction with
  | nil => rfl
  | group occurrence name xpath label children rest ihc ihr =>
    simp only [preorderOfAll_group, List.filterMap_cons, List.filterMap_append, ihc, ihr]
    rfl
  | question q rest ih =>
    simp only [preorderOfAll_question, List.filterMap_cons, ih]
    rfl

/-- Of a list without repetitions among its values, two members with the same value are the same. -/
theorem eq_of_nodup_filterMap {α β : Type} {f : α → Option β} {l : List α}
    (h : (l.filterMap f).Nodup) {a b : α} {x : β} (ha : a ∈ l) (hb : b ∈ l) (hax : f a = some x)
    (hbx : f b = some x) : a = b := by
  by_contra hne
  have : Std.Symm fun a b : α ↦ ∀ x, f a = some x → ∀ y, f b = some y → x ≠ y :=
    ⟨fun a b h x hx y hy ↦ (h y hy x hx).symm⟩
  exact (List.pairwise_filterMap.1 h).forall ha hb hne x hax x hbx rfl

/-! ### The section around a node -/

/-- `LiesIn owner nodes s n` says that the node `n` occurs at some depth among `nodes`, and that `s`
is the xpath of the nearest repeated group around it, or `owner` if there is none. -/
inductive LiesIn : String → List Node → String → Node → Prop
  /-- A node of the forest itself lies in the section of the forest. -/
  | top {owner : String} {nodes : List Node} {n : Node} : n ∈ nodes → LiesIn owner nodes owner n
  /-- A group that occurs once opens no section. -/
  | once {owner s name xpath : String} {nodes children : List Node} {label : Option Label}
      {n : Node} : .group .once name xpath label children ∈ nodes →
      LiesIn owner children s n → LiesIn owner nodes s n
  /-- A repeated group opens the section of the nodes below it. -/
  | repeated {owner s name xpath : String} {nodes children : List Node} {label : Option Label}
      {n : Node} : .group .repeated name xpath label children ∈ nodes →
      LiesIn xpath children s n → LiesIn owner nodes s n

/-- Nothing lies in the empty forest. -/
theorem not_liesIn_nil {owner s : String} {n : Node} : ¬ LiesIn owner [] s n := by
  rintro (h | ⟨h, -⟩ | ⟨h, -⟩) <;> exact absurd h List.not_mem_nil

/-- What lies in a larger forest: the nodes of a smaller one keep their sections. -/
theorem LiesIn.mono {owner s : String} {nodes nodes' : List Node} {n : Node}
    (h : LiesIn owner nodes s n) (hsub : nodes ⊆ nodes') : LiesIn owner nodes' s n := by
  cases h with
  | top hn => exact .top (hsub hn)
  | once hg h => exact .once (hsub hg) h
  | repeated hg h => exact .repeated (hsub hg) h

/-- What lies in a forest is its first node, or lies below that node, or lies in the rest. -/
theorem liesIn_cons_iff {owner s : String} {m n : Node} {rest : List Node} :
    LiesIn owner (m :: rest) s n ↔ LiesIn owner [m] s n ∨ LiesIn owner rest s n := by
  constructor
  · intro h
    cases h with
    | top hn =>
      rcases List.mem_cons.1 hn with rfl | hn
      · exact .inl (.top List.mem_cons_self)
      · exact .inr (.top hn)
    | once hg h =>
      rcases List.mem_cons.1 hg with rfl | hg
      · exact .inl (.once List.mem_cons_self h)
      · exact .inr (.once hg h)
    | repeated hg h =>
      rcases List.mem_cons.1 hg with rfl | hg
      · exact .inl (.repeated List.mem_cons_self h)
      · exact .inr (.repeated hg h)
  · rintro (h | h)
    · exact h.mono (List.cons_subset_cons _ (List.nil_subset _))
    · exact h.mono (List.subset_cons_self _ _)

/-- The section of the nodes directly below a group. -/
def sectionBelow (owner xpath : String) : Occurrence → String
  | .once => owner
  | .repeated => xpath

/-- In a group lies the group itself, and what lies below it. -/
theorem liesIn_group_iff {owner s name xpath : String} {occurrence : Occurrence}
    {label : Option Label} {children : List Node} {n : Node} :
    LiesIn owner [.group occurrence name xpath label children] s n ↔
      (s = owner ∧ n = .group occurrence name xpath label children) ∨
        LiesIn (sectionBelow owner xpath occurrence) children s n := by
  constructor
  · intro h
    cases h with
    | top hn => exact .inl ⟨rfl, List.mem_singleton.1 hn⟩
    | once hg h =>
      cases List.mem_singleton.1 hg
      exact .inr h
    | repeated hg h =>
      cases List.mem_singleton.1 hg
      exact .inr h
  · rintro (⟨rfl, rfl⟩ | h)
    · exact .top List.mem_cons_self
    · cases occurrence with
      | once => exact .once List.mem_cons_self h
      | repeated => exact .repeated List.mem_cons_self h

theorem liesIn_question_iff {owner s : String} {q : Question} {n : Node} :
    LiesIn owner [.question q] s n ↔ s = owner ∧ n = .question q := by
  constructor
  · intro h
    cases h with
    | top hn => exact ⟨rfl, List.mem_singleton.1 hn⟩
    | once hg _ => cases List.mem_singleton.1 hg
    | repeated hg _ => cases List.mem_singleton.1 hg
  · rintro ⟨rfl, rfl⟩
    exact .top List.mem_cons_self

/-- A section in which something lies is that of the forest or that of a repeated group. -/
theorem LiesIn.section_eq_or_mem {owner s : String} {nodes : List Node} {n : Node}
    (h : LiesIn owner nodes s n) :
    s = owner ∨ s ∈ (preorderOfAll nodes).filterMap repeated? := by
  induction nodes using forest_induction generalizing owner s n with
  | nil => exact absurd h not_liesIn_nil
  | group occurrence name xpath label children rest ihc ihr =>
    simp only [preorderOfAll_group, List.filterMap_cons, List.filterMap_append]
    rcases liesIn_cons_iff.1 h with h | h
    · cases occurrence with
      | once =>
        rcases liesIn_group_iff.1 h with ⟨rfl, -⟩ | h
        · exact .inl rfl
        · exact (ihc h).imp_right fun h ↦ List.mem_append_left _ h
      | repeated =>
        rcases liesIn_group_iff.1 h with ⟨rfl, -⟩ | h
        · exact .inl rfl
        · -- the section of the children is the one that the group opens
          rcases ihc h with rfl | h
          · exact .inr List.mem_cons_self
          · exact .inr (List.mem_cons_of_mem _ (List.mem_append_left _ h))
    · refine (ihr h).imp_right fun h ↦ ?_
      split
      · exact List.mem_append_right _ h
      · exact List.mem_cons_of_mem _ (List.mem_append_right _ h)
  | question q rest ih =>
    rcases liesIn_cons_iff.1 h with h | h
    · exact .inl (liesIn_question_iff.1 h).1
    · exact (ih h).imp_right fun h ↦ by simpa [repeated?] using h

/-- What lies in a forest is met in pre-order, together with all below it. -/
theorem LiesIn.preorder_sublist {owner s : String} {nodes : List Node} {n : Node}
    (h : LiesIn owner nodes s n) : (preorder n).Sublist (preorderOfAll nodes) := by
  have hself : ∀ {nodes : List Node} {m : Node}, m ∈ nodes →
      (preorder m).Sublist (preorderOfAll nodes) := by
    intro nodes m hm
    induction nodes with
    | nil => cases hm
    | cons m' rest ih =>
      rcases List.mem_cons.1 hm with rfl | hm
      · exact List.sublist_append_left _ _
      · exact (ih hm).trans (List.sublist_append_right _ _)
  induction h with
  | top hn => exact hself hn
  | once hg _ ih | repeated hg _ ih => exact (ih.cons _).trans (hself hg)

theorem LiesIn.mem_preorderOfAll {owner s : String} {nodes : List Node} {n : Node}
    (h : LiesIn owner nodes s n) : n ∈ preorderOfAll nodes :=
  h.preorder_sublist.subset (by cases n <;> exact List.mem_cons_self)

/-! ### Below a repeated group -/

/-- What lies below a repeated group lies in the forest. -/
theorem LiesIn.of_repeated {owner s t name x : String} {label : Option Label}
    {nodes children : List Node} {n : Node}
    (h : LiesIn owner nodes s (.group .repeated name x label children))
    (hn : LiesIn x children t n) : LiesIn owner nodes t n := by
  generalize hg : Node.group .repeated name x label children = g at h
  induction h with
  | top hm => exact .repeated (hg ▸ hm) hn
  | once hm _ ih => exact .once hm (ih hg)
  | repeated hm _ ih => exact .repeated hm (ih hg)

/-- What lies in a section other than that of the forest lies directly below a repeated group. -/
theorem LiesIn.exists_repeated {owner x : String} {nodes : List Node} {n : Node}
    (h : LiesIn owner nodes x n) (hx : x ≠ owner) : ∃ s name label children,
      LiesIn owner nodes s (.group .repeated name x label children) ∧ LiesIn x children x n := by
  induction h with
  | top => exact absurd rfl hx
  | once hm _ ih =>
    obtain ⟨s, name, label, children, hg, hn⟩ := ih hx
    exact ⟨s, name, label, children, .once hm hg, hn⟩
  | @repeated owner s name xpath nodes children label n hm hn ih =>
    by_cases hs : s = xpath
    · subst hs
      exact ⟨owner, name, label, children, .top hm, hn⟩
    · obtain ⟨s', name', label', children', hg, hn'⟩ := ih hs
      exact ⟨s', name', label', children', .repeated hm hg, hn'⟩

/-! ### What the visit of a codebook finds -/

@[simp] theorem placementsOfAll_nil (owner : String) : placementsOfAll owner [] = [] := rfl

@[simp] theorem placementsOfAll_once (owner name xpath : String) (label : Option Label)
    (children rest : List Node) :
    placementsOfAll owner (.group .once name xpath label children :: rest) =
      placementsOfAll owner children ++ placementsOfAll owner rest := rfl

@[simp] theorem placementsOfAll_repeated (owner name xpath : String) (label : Option Label)
    (children rest : List Node) :
    placementsOfAll owner (.group .repeated name xpath label children :: rest) =
      .opens xpath :: (placementsOfAll xpath children ++ placementsOfAll owner rest) := rfl

@[simp] theorem placementsOfAll_question (owner : String) (q : Question) (rest : List Node) :
    placementsOfAll owner (.question q :: rest) =
      .question owner q :: placementsOfAll owner rest := rfl

/-- What the visit sees of a node, but for the section that a question lies in. -/
def seen? : Node → Option Placement
  | .group .once _ _ _ _ => none
  | .group .repeated _ xpath _ _ => some (.opens xpath)
  | .question q => some (.question "" q)

/-- Up to the sections around questions, the visit of a forest is its pre-order. -/
theorem map_unowned_placementsOfAll (owner : String) (nodes : List Node) :
    (placementsOfAll owner nodes).map Placement.unowned =
      (preorderOfAll nodes).filterMap seen? := by
  induction nodes using forest_induction generalizing owner with
  | nil => rfl
  | group occurrence name xpath label children rest ihc ihr =>
    cases occurrence <;> simp [List.filterMap_cons, ihc, ihr, seen?, Placement.unowned]
  | question q rest ih => simp [ih, seen?, Placement.unowned]

theorem filterMap_opens?_seen? (nodes : List Node) :
    (nodes.filterMap seen?).filterMap Placement.opens? = nodes.filterMap repeated? := by
  rw [List.filterMap_filterMap]
  exact List.filterMap_congr fun n _ ↦ by rcases n with ⟨_ | _, _⟩ | _ <;> rfl

theorem filterMap_question?_seen? (nodes : List Node) :
    (nodes.filterMap seen?).filterMap Placement.question? = nodes.filterMap leaf? := by
  rw [List.filterMap_filterMap]
  exact List.filterMap_congr fun n _ ↦ by rcases n with ⟨_ | _, _⟩ | _ <;> rfl

/-- The sections that are opened are the repeated groups in pre-order. -/
theorem filterMap_opens?_placementsOfAll (owner : String) (nodes : List Node) :
    (placementsOfAll owner nodes).filterMap Placement.opens? =
      (preorderOfAll nodes).filterMap repeated? := by
  rw [← filterMap_opens?_seen?, ← map_unowned_placementsOfAll owner, List.filterMap_map]
  exact List.filterMap_congr fun p _ ↦ by cases p <;> rfl

/-- The questions that are found are those of the forest, in declared order. -/
theorem filterMap_question?_placementsOfAll (owner : String) (nodes : List Node) :
    (placementsOfAll owner nodes).filterMap Placement.question? = questionsOfAll nodes := by
  rw [← filterMap_leaf?_preorderOfAll, ← filterMap_question?_seen?,
    ← map_unowned_placementsOfAll owner, List.filterMap_map]
  exact List.filterMap_congr fun p _ ↦ by cases p <;> rfl

/-- A question is found in a section just if it lies there. -/
theorem question_mem_placementsOfAll {owner s : String} {nodes : List Node} {q : Question} :
    .question s q ∈ placementsOfAll owner nodes ↔ LiesIn owner nodes s (.question q) := by
  induction nodes using forest_induction generalizing owner with
  | nil => simp [not_liesIn_nil]
  | group occurrence name xpath label children rest ihc ihr =>
    rw [liesIn_cons_iff, ← ihr]
    cases occurrence with
    | once => simp [liesIn_group_iff, sectionBelow, ← ihc]
    | repeated => simp [liesIn_group_iff, sectionBelow, ← ihc]
  | question q' rest ih =>
    rw [liesIn_cons_iff, ← ih]
    simp [liesIn_question_iff]

end Node

namespace Form

/-- The questions of a section, said by the tree alone. -/
def Holds (form : Form) (s : String) (q : Question) : Prop :=
  Node.LiesIn form.name form.children s (.question q)

/-- `form.Encloses s x` says that a repeated group with the xpath `x` lies in the section `s`. -/
def Encloses (form : Form) (s x : String) : Prop :=
  ∃ name label children, Node.LiesIn form.name form.children s
    (.group .repeated name x label children)

/-- The xpaths of the repeated groups in pre-order. -/
def repeats (form : Form) : List String :=
  (Node.preorderOfAll form.children).filterMap Node.repeated?

/-- A repeated group that lies somewhere in a form is one of its repeated groups. -/
theorem Encloses.mem_repeats {form : Form} {s x : String} (h : form.Encloses s x) :
    x ∈ form.repeats := by
  obtain ⟨name, label, children, h⟩ := h
  exact List.mem_filterMap.2 ⟨_, h.mem_preorderOfAll, rfl⟩

/-- A question found in the visit of a form is one of its questions. -/
theorem Holds.mem_questions {form : Form} {s : String} {q : Question} (h : form.Holds s q) :
    q ∈ form.questions := by
  rw [questions, ← Node.filterMap_question?_placementsOfAll form.name]
  exact List.mem_filterMap.2 ⟨_, Node.question_mem_placementsOfAll.2 h, rfl⟩

/-- Every question of a form lies in some section. -/
theorem exists_holds {form : Form} {q : Question} (h : q ∈ form.questions) :
    ∃ s, form.Holds s q := by
  rw [questions, ← Node.filterMap_question?_placementsOfAll form.name] at h
  obtain ⟨p, hp, hq⟩ := List.mem_filterMap.1 h
  cases p with
  | opens => simp [Placement.question?] at hq
  | question s q' =>
    obtain rfl : q' = q := by simpa [Placement.question?] using hq
    exact ⟨s, Node.question_mem_placementsOfAll.1 hp⟩

end Form

end SurveyExport
