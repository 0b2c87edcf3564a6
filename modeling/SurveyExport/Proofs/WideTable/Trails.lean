import SurveyExport.Proofs.Form.Tree
import SurveyExport.Proofs.WideTable.Level
import SurveyExport.Proofs.WideTable.Names

/-!
# Trails through a submission

A trail goes through a submission and its form at the same time (`Form.Leads`), since instances
count only where the form has their repeated group. If no xpath is given twice, it leads to one
instance only (`Form.Leads.unique`). What is asked of a submission at every depth is said by
`Form.AllLevels`.
-/

namespace SurveyExport

/-- `form.Leads s r trail t j` says that the trail leads from the record `r` of the section `s` to
the instance `j` of the section `t`, through repeated groups where the form has them. -/
inductive Form.Leads (form : Form) : String → Record → Trail → String → Record → Prop
  /-- The empty trail stays at the record. -/
  | here {s : String} {r : Record} : Leads form s r [] s r
  /-- A trail goes into an instance of a repeated group. -/
  | into {s x t key : String} {r i j : Record} {records : List Record} {n : Nat} {rest : Trail} :
    (key, .instances records) ∈ r → KeyEscape.decode key = x → form.Encloses s x →
    records[n]? = some i → Leads form x i rest t j → Leads form s r ((x, n + 1) :: rest) t j

/-- What holds of a record of the section `s` and wherever a trail leads from it. -/
def Form.AllLevels (form : Form) (P : String → Record → Prop) (s : String) (r : Record) : Prop :=
  ∀ trail t j, form.Leads s r trail t j → P t j

namespace Form.AllLevels

variable {form : Form} {P : String → Record → Prop} {s : String} {r : Record}

theorem self (h : form.AllLevels P s r) : P s r := h [] s r .here

theorem inside (h : form.AllLevels P s r) {x key : String} {records : List Record} {i : Record}
    (hkey : (key, .instances records) ∈ r) (hdecode : KeyEscape.decode key = x)
    (hx : form.Encloses s x) (hi : i ∈ records) : form.AllLevels P x i := by
  obtain ⟨n, hn⟩ := List.mem_iff_getElem?.1 hi
  exact fun trail t j hj ↦ h _ t j (.into hkey hdecode hx hn hj)

/-- What holds wherever a trail leads holds of the record and wherever one leads from its
instances. -/
theorem of_inside (hself : P s r) (hinside : ∀ key records, (key, .instances records) ∈ r →
    ∀ i ∈ records, form.AllLevels P (KeyEscape.decode key) i) : form.AllLevels P s r := by
  intro trail t j hleads
  cases hleads with
  | here => exact hself
  | into hkey hdecode _ hi hrest =>
    subst hdecode
    exact hinside _ _ hkey _ (List.mem_of_getElem? hi) _ t j hrest

end Form.AllLevels

/-! ### Where a trail leads -/

namespace Form.Leads

variable {form : Form} {s t t' : String} {r j j' : Record} {trail : Trail}

/-- **A trail leads to one instance**, if no xpath is given twice on the way. -/
theorem unique (h : form.Leads s r trail t j) (h' : form.Leads s r trail t' j')
    (hkeys : form.AllLevels (fun _ ↦ Record.KeysApart) s r) : t = t' ∧ j = j' := by
  induction h with
  | here =>
    cases h'
    exact ⟨rfl, rfl⟩
  | @into s x t key r i j records n rest hkey hdecode hx hi _ ih =>
    cases h' with
    | @into _ _ _ key' _ i' _ records' _ _ hkey' hdecode' _ hi' hrest' =>
      have hentry : (key, Answer.instances records) = (key', .instances records') :=
        List.inj_on_of_nodup_map hkeys.self hkey hkey' (hdecode.trans hdecode'.symm)
      obtain rfl := Answer.instances.inj (Prod.mk.inj hentry).2
      obtain rfl := Option.some.inj (hi.symm.trans hi')
      exact ih hrest' (hkeys.inside hkey hdecode hx (List.mem_of_getElem? hi))

/-- The section at the end of a trail is read off the trail, whatever the records hold. -/
theorem section_unique {r' : Record} (h : form.Leads s r trail t j)
    (h' : form.Leads s r' trail t' j') : t = t' := by
  induction h generalizing r' with
  | here =>
    cases h'
    rfl
  | into _ _ _ _ _ ih =>
    cases h' with
    | into _ _ _ _ hrest' => exact ih hrest'

/-- A trail that is not empty ends in the section of a repeated group. -/
theorem exists_encloses (h : form.Leads s r trail t j) (htrail : trail ≠ []) :
    ∃ around, form.Encloses around t := by
  induction h with
  | here => exact absurd rfl htrail
  | @into s x t key r i j records n rest _ _ hx _ hrest ih =>
    by_cases hnil : rest = []
    · subst hnil
      cases hrest
      exact ⟨s, hx⟩
    · exact ih hnil

end Form.Leads

end SurveyExport
