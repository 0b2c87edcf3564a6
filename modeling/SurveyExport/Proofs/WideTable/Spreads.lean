import SurveyExport.Proofs.WideTable.Keys
import SurveyExport.Proofs.WideTable.Trails

/-!
# Forms and submissions that spread

A wide table can keep the columns of instances apart if the form and the submissions let it:

* `Form.Legible` is asked of a form: no name has a bracket, so that instance numbers are read off a
  column's name (`Form.Leads.descends`);
* `Form.Spreads` is that, and that nothing has the name of a metadata column and nothing is left
  out;
* `Record.Tabular` is what is asked of a submission, and what nests as the form declares is tabular
  (`Record.tabular_of_declared`).
-/

namespace SurveyExport

/-! ### Names without brackets -/

/-- The name of a node. -/
def Node.name : Node → String
  | .group _ name _ _ _ => name
  | .question q => q.name

/-- Where names have no character of a kind other than slashes, xpaths have none. -/
theorem Node.NestedAll.not_mem_xpath {c : Char} (hc : c ≠ '/') {path : String} {nodes : List Node}
    (h : NestedAll path nodes) (hpath : c ∉ path.toList)
    (hnames : ∀ n ∈ preorderOfAll nodes, c ∉ n.name.toList) :
    ∀ n ∈ preorderOfAll nodes, c ∉ n.xpath.toList := by
  have hchild : ∀ {path name : String}, c ∉ path.toList → c ∉ name.toList →
      c ∉ (Survey.childPath path name).toList := by
    intro path name hpath hname
    rw [Survey.childPath]
    split
    · exact hname
    · simp [hpath, hname, hc]
  induction nodes using forest_induction generalizing path with
  | nil => exact fun n hn ↦ absurd hn List.not_mem_nil
  | group occurrence name xpath label children rest ihc ihr =>
    obtain ⟨⟨-, hxpath, hchildren⟩, hrest⟩ := h
    simp only [preorderOfAll_group, List.forall_mem_cons, List.forall_mem_append] at hnames ⊢
    obtain ⟨hname, hinside, hbehind⟩ := hnames
    -- the xpath of the group is the path of its children
    have hfree : c ∉ xpath.toList := hxpath ▸ hchild hpath hname
    exact ⟨hfree, ihc hchildren hfree hinside, ihr hrest hpath hbehind⟩
  | question q rest ih =>
    obtain ⟨⟨-, hxpath⟩, hrest⟩ := h
    simp only [preorderOfAll_question, List.forall_mem_cons] at hnames ⊢
    refine ⟨?_, ih hrest hpath hnames.2⟩
    rw [xpath, hxpath]
    exact hchild hpath hnames.1

/-! ### What is asked of the form -/

namespace Form

/-- No element and no choice has a name with an opening bracket. -/
structure Unbracketed (form : Form) : Prop where
  elements : ∀ n ∈ Node.preorderOfAll form.children, '[' ∉ n.name.toList
  choices : ∀ q ∈ form.questions, ∀ c ∈ form.splitChoices q, '[' ∉ c.name.toList

/-- No question and no repeated group has the name of a metadata column. -/
def AvoidsMetadata (form : Form) (options : Options) : Prop :=
  ∀ x ∈ form.repeats ++ form.questions.map (·.xpath),
    x ∉ MetaKey.attachments :: WideTable.extraColumns options

/-- What a form and the options must be like for the numbers of instances to be read off columns. -/
structure Legible (form : Form) (options : Options) : Prop where
  /-- Every xpath is made of the names on the way to it. -/
  nested : Node.NestedAll "" form.children
  /-- The sections have names of their own. -/
  names_nodup : (form.name :: form.repeats).Nodup
  /-- No name has a bracket. -/
  unbracketed : form.Unbracketed
  /-- Numbers stand in brackets. -/
  tags : options.indexTags = {}

/-- What a form and the options must be like for the columns of instances to be told apart from all
others, and to be all there. -/
structure Spreads (form : Form) (options : Options) : Prop extends form.Legible options where
  /-- Nothing has the name of a metadata column. -/
  avoids : form.AvoidsMetadata options
  /-- All columns are kept. -/
  columns : options.columns = none

variable {form : Form} {options : Options} {q : Question} {key : String}

namespace Legible

theorem repeats_nodup (hform : form.Legible options) : form.repeats.Nodup :=
  (List.nodup_cons.1 hform.names_nodup).2

theorem ne_name_of_mem_repeats (hform : form.Legible options) {x : String}
    (hx : x ∈ form.repeats) : x ≠ form.name := by
  rintro rfl
  exact (List.nodup_cons.1 hform.names_nodup).1 hx

/-- The xpath of a repeated group has no bracket. -/
theorem not_mem_of_mem_repeats (hform : form.Legible options) {x : String}
    (hx : x ∈ form.repeats) : '[' ∉ x.toList := by
  obtain ⟨n, hn, hrepeated⟩ := List.mem_filterMap.1 hx
  have hfree := hform.nested.not_mem_xpath (by decide) (by decide) hform.unbracketed.elements n hn
  cases n with
  | question => cases hrepeated
  | group occurrence =>
    cases occurrence with
    | once => cases hrepeated
    | repeated =>
      obtain rfl := Option.some.inj hrepeated
      exact hfree

/-- No column of a question has a bracket in its key. -/
theorem not_mem_ownKeys (hform : form.Legible options) (hq : q ∈ form.questions)
    (hkey : key ∈ form.ownKeys options q) : '[' ∉ key.toList := by
  obtain ⟨s, hs⟩ := exists_holds hq
  have hxpath := hform.nested.not_mem_xpath (by decide) (by decide) hform.unbracketed.elements _
    hs.mem_preorderOfAll
  exact Form.not_mem_ownKeys hkey hxpath (hform.unbracketed.choices q hq) (by decide)

end Legible

namespace Spreads

theorem ne_of_mem_repeats (hform : form.Spreads options) {x : String} (hx : x ∈ form.repeats) :
    x ≠ MetaKey.attachments ∧ x ≠ MetaKey.notes := by
  have hfresh := hform.avoids x (List.mem_append_left _ hx)
  have hnotes : MetaKey.notes ∈ WideTable.extraColumns options := by
    rw [WideTable.extraColumns, hform.columns]
    exact List.mem_append_left _ (by decide)
  exact ⟨fun heq ↦ hfresh (heq ▸ List.mem_cons_self),
    fun heq ↦ hfresh (List.mem_cons_of_mem _ (heq ▸ hnotes))⟩

/-- No column of a question has the name of a metadata column. -/
theorem not_mem_extraColumns (hform : form.Spreads options) (hq : q ∈ form.questions)
    (hkey : key ∈ form.ownKeys options q) : key ∉ WideTable.extraColumns options := by
  refine not_mem_extraColumns_of_mem_ownKeys hkey fun hmem ↦ ?_
  have hxpath : q.xpath ∈ form.repeats ++ form.questions.map (·.xpath) :=
    List.mem_append_right _ (List.mem_map_of_mem hq)
  exact hform.avoids q.xpath hxpath (List.mem_cons_of_mem _ hmem)

end Spreads

/-- A trail descends to the columns of the questions at its end. -/
theorem Leads.descends {s t : String} {r j : Record} {trail : Trail}
    (h : form.Leads s r trail t j) (hform : form.Legible options) (hq : form.Holds t q)
    (hkey : key ∈ form.wideKeys options q) :
    trail.Descends key ∧ (s ≠ form.name → s.toList ++ ['/'] <+: (trail.first key).toList) := by
  induction h with
  | here =>
    have hfree := hform.not_mem_ownKeys hq.mem_questions (mem_ownKeys_of_mem_wideKeys hkey)
    exact ⟨hfree, fun hs ↦ below_of_mem_wideKeys hkey (below_of_holds hform.nested hs hq)⟩
  | @into s x t _ r i j records n rest _ _ hx _ _ ih =>
    obtain ⟨hdescends, hbelow⟩ := ih hq
    have hname : x ≠ form.name := hform.ne_name_of_mem_repeats hx.mem_repeats
    refine ⟨⟨hform.not_mem_of_mem_repeats hx.mem_repeats, hbelow hname, hdescends⟩, ?_⟩
    exact fun hs ↦ below_of_encloses hform.nested hs hx

/-- So does the trail from outside into an instance of a repeated group. -/
theorem Leads.descends_into {x t : String} {i j : Record} {rest : Trail}
    (h : form.Leads x i rest t j) (hform : form.Legible options) (hx : x ∈ form.repeats)
    (hq : form.Holds t q) (hkey : key ∈ form.wideKeys options q) (n : Nat) :
    Trail.Descends ((x, n + 1) :: rest) key := by
  obtain ⟨hdescends, hbelow⟩ := h.descends hform hq hkey
  exact ⟨hform.not_mem_of_mem_repeats hx, hbelow (hform.ne_name_of_mem_repeats hx), hdescends⟩

end Form

/-! ### What is asked of a submission -/

namespace Record

/-- A submission that fits the wide table of a form. -/
structure Tabular (form : Form) (r : Record) : Prop where
  /-- No xpath is given twice, wherever a trail leads. -/
  apart : form.AllLevels (fun _ ↦ KeysApart) form.name r
  /-- No key of the submission itself has a bracket. -/
  unbracketed : ∀ e ∈ r, '[' ∉ (KeyEscape.decode e.1).toList
  /-- The instances in the submission itself are those of repeated groups that the form has
  there. -/
  placed : ∀ key records, (key, .instances records) ∈ r → KeyEscape.decode key ∈ form.repeats →
    form.Encloses form.name (KeyEscape.decode key)

/-- A record of a section holds what the form declares there, and metadata. -/
structure DeclaredIn (form : Form) (options : Options) (s : String) (r : Record) : Prop where
  /-- No xpath is given twice. -/
  apart : r.KeysApart
  /-- A key is the xpath of a question or a repeated group of the section, or that of metadata. -/
  declared : ∀ e ∈ r, (∃ q, form.Holds s q ∧ KeyEscape.decode e.1 = q.xpath ∧ heldBy? e.2 = none) ∨
    form.Encloses s (KeyEscape.decode e.1) ∨
      KeyEscape.decode e.1 ∈ MetaKey.attachments :: WideTable.extraColumns options

/-- A submission that holds what the form declares fits the wide table. -/
theorem tabular_of_declared {form : Form} {options : Options} (hform : form.Spreads options)
    {r : Record} (h : form.AllLevels (DeclaredIn form options) form.name r) : r.Tabular form := by
  refine ⟨fun trail t j hleads ↦ (h trail t j hleads).apart, fun e he ↦ ?_, ?_⟩
  · rcases h.self.declared e he with ⟨q, hq, hkey, -⟩ | hencloses | hextra
    · have hown : q.xpath ∈ form.ownKeys options q := List.mem_cons_self
      rw [hkey]
      exact hform.not_mem_ownKeys hq.mem_questions hown
    · exact hform.not_mem_of_mem_repeats hencloses.mem_repeats
    · rcases List.mem_cons.1 hextra with hextra | hextra
      · rw [hextra]
        decide
      · exact Form.not_mem_of_mem_extraColumns hextra
  · intro key records hkey hrepeat
    rcases h.self.declared _ hkey with ⟨q, -, -, hheld⟩ | hencloses | hextra
    · cases hheld
    · exact hencloses
    · exact absurd hextra (hform.avoids _ (List.mem_append_left _ hrepeat))

end Record

end SurveyExport
