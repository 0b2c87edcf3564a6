import SurveyExport.Proofs.Form.Tree
import SurveyExport.Proofs.Submission.Places

/-!
# Submissions that nest as their form declares

`Record.NestsIn` says that the instances in a submission stand only where the form has a repeated
group: an instance directly inside a record of the section `s` belongs to a group that `s` encloses.
-/

namespace SurveyExport

namespace Record

/-- Every instance in a record of the section `name`, at any depth, is related to the section of the
record directly around it. -/
def EveryChild (P : String → String × Record → Prop) (name : String) (r : Record) : Prop :=
  r.EveryLevel (fun s i ↦ ∀ step c, i.child? step = some c → P s c) name

/-- Instances stand only where the form has a repeated group, at every depth. -/
def NestsIn (form : Form) (r : Record) : Prop :=
  r.EveryChild (fun s c ↦ form.Encloses s c.1) form.name

/-- What holds of all instances in a record holds of those directly in it and of all inside them. -/
theorem everyChild_iff {P : String → String × Record → Prop} {name : String} {r : Record} :
    r.EveryChild P name ↔ ∀ key records, (key, .instances records) ∈ r → ∀ i ∈ records,
      P name (KeyEscape.decode key, i) ∧ EveryChild P (KeyEscape.decode key) i := by
  rw [EveryChild, everyLevel_iff]
  constructor
  · rintro ⟨hself, hinside⟩ key records hkey i hi
    obtain ⟨step, hstep⟩ := exists_child?_of_mem hkey hi
    exact ⟨hself step _ hstep, hinside key records hkey i hi⟩
  · intro h
    refine ⟨fun step c hc ↦ ?_, fun key records hkey i hi ↦ (h key records hkey i hi).2⟩
    obtain ⟨key, records, hkey, hrecords, hname⟩ := child?_eq_some_iff.1 hc
    obtain ⟨x, j⟩ := c
    obtain rfl : x = KeyEscape.decode key := hname
    exact (h key records (List.mem_of_getElem? hkey) j (List.mem_of_getElem? hrecords)).1

@[simp] theorem everyChild_nil {P : String → String × Record → Prop} {name : String} :
    EveryChild P name [] :=
  everyChild_iff.2 fun _ _ h ↦ absurd h List.not_mem_nil

@[simp] theorem everyChild_cons_instances {P : String → String × Record → Prop}
    {name key : String} {records : List Record} {rest : Record} :
    EveryChild P name ((key, .instances records) :: rest) ↔
      (∀ i ∈ records, P name (KeyEscape.decode key, i) ∧ EveryChild P (KeyEscape.decode key) i) ∧
        EveryChild P name rest := by
  rw [everyChild_iff, everyChild_iff (r := rest)]
  constructor
  · intro h
    exact ⟨h key records List.mem_cons_self, fun k rs hk ↦ h k rs (List.mem_cons_of_mem _ hk)⟩
  · rintro ⟨hfirst, hrest⟩ k rs hk
    rcases List.mem_cons.1 hk with heq | hk
    · obtain ⟨rfl, hrs⟩ := Prod.mk.inj heq
      obtain rfl := Answer.instances.inj hrs
      exact hfirst
    · exact hrest k rs hk

@[simp] theorem everyChild_cons_scalar {P : String → String × Record → Prop} {name key : String}
    {value : Scalar} {rest : Record} :
    EveryChild P name ((key, .scalar value) :: rest) ↔ EveryChild P name rest := by
  rw [everyChild_iff, everyChild_iff (r := rest)]
  simp

theorem EveryChild.of_at? {P : String → String × Record → Prop} {name : String} {r : Record}
    (h : r.EveryChild P name) {place : Place} {step : Nat × Nat} {b c : String × Record}
    (hb : r.at? name place = some b) (hc : r.at? name (place ++ [step]) = some c) : P b.1 c := by
  obtain ⟨b', hb', hchild⟩ := at?_concat_eq_some_iff.1 hc
  obtain rfl := Option.some.inj (hb.symm.trans hb')
  exact h place b.1 b.2 hb step c hchild

/-- What holds of every instance inside holds at every place but the outermost. -/
theorem EveryChild.of_ne_nil {P : String → String × Record → Prop} {name : String} {r : Record}
    (h : r.EveryChild P name) {place : Place} (hplace : place ≠ []) {c : String × Record}
    (hc : r.at? name place = some c) : ∃ s, P s c := by
  obtain ⟨before, step, rfl⟩ := List.eq_nil_or_concat place |>.resolve_left hplace
  rw [List.concat_eq_append] at hc
  obtain ⟨b, hb, hchild⟩ := at?_concat_eq_some_iff.1 hc
  exact ⟨b.1, h before b.1 b.2 hb step c hchild⟩

/-- An instance of a submission belongs to a repeated group. -/
theorem NestsIn.mem_repeats {form : Form} {r : Record} (h : r.NestsIn form) {place : Place}
    (hplace : place ≠ []) {c : String × Record} (hc : r.at? form.name place = some c) :
    c.1 ∈ form.repeats := by
  obtain ⟨s, hs⟩ := h.of_ne_nil hplace hc
  exact hs.mem_repeats

end Record

end SurveyExport
