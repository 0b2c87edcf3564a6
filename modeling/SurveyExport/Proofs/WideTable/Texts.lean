import SurveyExport.Proofs.WideTable.Cells
import SurveyExport.Proofs.WideTable.Entries

/-!
# The texts of a submission's row

The row of a submission holds the cells of its own answers and, under names with numbers, the cells
of all instances in it. Since such a name stands for one column of one instance (`Trail.spread_inj`,
`Form.Leads.unique`), the texts do not get into each other's way:

* `Record.get?_wideTexts`: under the name of an instance's column is the text of its cell;
* `Record.get?_wideTexts_of_foreign`: under a metadata key is the submission's own answer;
* `Record.get?_wideTexts_eq_none`: under the name of no instance's column is nothing.
-/

namespace SurveyExport

namespace Record

variable {form : Form} {options : Options} {r : Record}

/-! ### What a submission writes -/

/-- The cells of a row that are written are those that are shown. -/
theorem mem_filterMap_toList {row : Row} {k v : String} :
    (k, v) ∈ (row.toList.filterMap fun e ↦
      if e.2.isNull then none else some (e.1, e.2.display)) ↔ row.shown k = some v := by
  rw [List.mem_filterMap, Row.shown]
  constructor
  · rintro ⟨⟨k', c⟩, hmem, heq⟩
    have hget := KeyMap.get?_eq_some_iff.2 hmem
    cases hnull : c.isNull with
    | true => simp [hnull] at heq
    | false =>
      simp only [hnull, Bool.false_eq_true, if_false, Option.some.injEq, Prod.mk.injEq] at heq
      obtain ⟨rfl, rfl⟩ := heq
      simp [hget, Option.filter, hnull]
  · intro h
    obtain ⟨c, hc, rfl⟩ := Option.map_eq_some_iff.1 h
    obtain ⟨hget, hnull⟩ := Option.filter_eq_some_iff.1 hc
    exact ⟨(k, c), KeyMap.get?_eq_some_iff.1 hget, by simp_all⟩

/-- A name with a bracket is that of no own answer, if no key has a bracket. -/
theorem shown_eq_none_of_mem (hform : form.Legible options)
    (hr : ∀ e ∈ r, '[' ∉ (KeyEscape.decode e.1).toList) {name : String}
    (hname : '[' ∈ name.toList) :
    (level (Codebook.made form options) options r.attachments r).shown name = none := by
  have hcell : (level (Codebook.made form options) options r.attachments r).get? name = none := by
    rw [get?_level_of_foreign fun q hq _ hkey ↦ hform.not_mem_ownKeys hq hkey hname]
    refine (Row.get?_foldl (fun row e he ↦ ?_) KeyMap.empty).trans (KeyMap.get?_empty name)
    have hne : KeyEscape.decode e.1 ≠ name := fun hkey ↦ hr e he (hkey ▸ hname)
    exact (get?_putWideCell row e.1 e.2 name).trans (if_neg hne)
  rw [Row.shown, hcell]
  rfl

/-- A row has no text under a name with a bracket that no entry has. -/
theorem get?_wideTexts_of_forall_ne (hform : form.Legible options)
    (hr : ∀ e ∈ r, '[' ∉ (KeyEscape.decode e.1).toList) {name : String}
    (hname : '[' ∈ name.toList)
    (hnone : ∀ e ∈ r.wideEntries (Codebook.made form options) options
      (WideGroup.ofForm form options), e.column ≠ name) :
    (r.wideTexts (Codebook.made form options) options (WideGroup.ofForm form options)).get? name =
      none := by
  rw [wideTexts]
  refine KeyMap.get?_ofList fun text ↦ ⟨fun hmem ↦ ?_, nofun⟩
  rw [written, List.mem_append, mem_filterMap_toList, List.mem_filterMap] at hmem
  rcases hmem with hown | ⟨e, he, htext⟩
  · rw [shown_eq_none_of_mem hform hr hname] at hown
    cases hown
  · obtain ⟨text', -, heq⟩ := Option.map_eq_some_iff.1 htext
    exact absurd (Prod.mk.inj heq).1 (hnone e he)

variable (hform : form.Spreads options) (hr : r.Tabular form)

include hform hr

/-- What a submission writes under a name: a cell of its own answers, or of an instance in it. -/
theorem mem_written {name text : String} :
    (name, text) ∈ r.written (Codebook.made form options) options (WideGroup.ofForm form options) ↔
      (level (Codebook.made form options) options r.attachments r).shown name = some text ∨
        ∃ trail : Trail, trail ≠ [] ∧ ∃ t j q key, form.Leads form.name r trail t j ∧
          form.Holds t q ∧ key ∈ form.wideKeys options q ∧ name = trail.spread key ∧
          (level (Codebook.made form options) options r.attachments j).shown key = some text := by
  rw [written, List.mem_append, mem_filterMap_toList, List.mem_filterMap]
  refine or_congr_right ?_
  constructor
  · rintro ⟨e, he, htext⟩
    obtain ⟨trail, htrail, t, j, q, key, hleads, hq, hkey, rfl⟩ :=
      (mem_wideEntries _ hform hr).1 he
    obtain ⟨text', hshown, heq⟩ := Option.map_eq_some_iff.1 htext
    obtain ⟨rfl, rfl⟩ := Prod.mk.inj heq
    exact ⟨trail, htrail, t, j, q, key, hleads, hq, hkey, rfl, hshown⟩
  · rintro ⟨trail, htrail, t, j, q, key, hleads, hq, hkey, rfl, hshown⟩
    refine ⟨_, (mem_wideEntries _ hform hr).2
      ⟨trail, htrail, t, j, q, key, hleads, hq, hkey, rfl⟩, ?_⟩
    rw [hshown]
    rfl

/-! ### What a row holds -/

/-- **A row holds the cells of all instances under their names.** -/
theorem get?_wideTexts {trail : Trail} {t key : String} {j : Record} {q : Question}
    (hleads : form.Leads form.name r trail t j) (hq : form.Holds t q)
    (hkey : key ∈ form.wideKeys options q) :
    (r.wideTexts (Codebook.made form options) options (WideGroup.ofForm form options)).get?
        (trail.spread key) =
      (level (Codebook.made form options) options r.attachments j).shown key := by
  rw [wideTexts]
  refine KeyMap.get?_ofList fun text ↦ ?_
  rw [mem_written hform hr]
  constructor
  · rintro (hown | ⟨trail', -, t', j', q', key', hleads', hq', hkey', heq, hshown⟩)
    · by_cases htrail : trail = []
      · subst htrail
        cases hleads
        exact hown
      · rw [shown_eq_none_of_mem hform.toLegible hr.unbracketed
          (Trail.mem_spread htrail key)] at hown
        cases hown
    · -- the name tells the trail and the key, and the trail the instance
      obtain ⟨rfl, rfl⟩ := Trail.spread_inj (hleads.descends hform.toLegible hq hkey).1
        (hleads'.descends hform.toLegible hq' hkey').1 heq
      obtain ⟨-, rfl⟩ := hleads.unique hleads' hr.apart
      exact hshown
  · intro hshown
    by_cases htrail : trail = []
    · subst htrail
      cases hleads
      exact .inl hshown
    · exact .inr ⟨trail, htrail, t, j, q, key, hleads, hq, hkey, rfl, hshown⟩

/-- Under a name without a bracket that is no column of a question a row has the submission's own
answer. -/
theorem get?_wideTexts_of_foreign {name : String} (hname : '[' ∉ name.toList)
    (hforeign : ∀ q ∈ form.questions, q.type.isNote = false → name ∉ form.ownKeys options q) :
    (r.wideTexts (Codebook.made form options) options (WideGroup.ofForm form options)).get? name =
      ((r.answerCell? ((Codebook.made form options).mediaRule? options) r.attachments name).filter
        (!·.isNull)).map Cell.display := by
  rw [wideTexts]
  refine KeyMap.get?_ofList fun text ↦ ?_
  rw [mem_written hform hr, Row.shown, get?_level_of_foreign hforeign,
    get?_levelCells hr.apart.self]
  refine or_iff_left ?_
  rintro ⟨trail, htrail, t, j, q, key, -, -, -, rfl, -⟩
  exact hname (Trail.mem_spread htrail key)

/-- A row has no text under a name with a bracket that no instance in it has. -/
theorem get?_wideTexts_eq_none {name : String} (hname : '[' ∈ name.toList)
    (hnone : ∀ trail t j q key, form.Leads form.name r trail t j → form.Holds t q →
      key ∈ form.wideKeys options q → name ≠ Trail.spread trail key) :
    (r.wideTexts (Codebook.made form options) options (WideGroup.ofForm form options)).get? name =
      none := by
  refine get?_wideTexts_of_forall_ne hform.toLegible hr.unbracketed hname fun e he heq ↦ ?_
  obtain ⟨trail, -, t, j, q, key, hleads, hq, hkey, rfl⟩ := (mem_wideEntries _ hform hr).1 he
  exact hnone trail t j q key hleads hq hkey heq.symm

end Record

end SurveyExport
