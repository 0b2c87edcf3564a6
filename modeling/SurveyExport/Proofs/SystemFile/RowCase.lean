import SurveyExport.Proofs.SystemFile.Begin
import SurveyExport.Proofs.SystemFile.Cases

/-!
# The case of a row

A row becomes a case of its sheet's system file, one value for each column. The variable of a column
and the value are made by the same conversion (`SystemDraft.exists_variable_of_start`), so the value
is of the kind that the variable holds, and no case is refused for it (`SystemDraft.suits_caseOf`).
The rows before it change neither variables nor conversions (`SystemDraft.continues_afterRows`), so
the case is written whichever they are (`SystemDraft.addRow_afterRows`).
-/

namespace SurveyExport

open SystemFile (Value Variable Conversion conversionOf variableOf)

namespace SystemFile

/-- A value of a conversion that is not to text is a number. -/
theorem exists_value_eq_number {conversion : Conversion} (h : conversion ≠ .text)
    (cell : Option Cell) : ∃ bits, conversion.value cell = .number bits := by
  have hdate : ∀ cell : Option Cell, ∃ bits, Conversion.date.value cell = .number bits := by
    intro cell
    simp only [Conversion.value]
    split
    · exact ⟨_, rfl⟩
    · exact ⟨_, rfl⟩
    · rename_i s
      cases Calendar.readTimestamp? s <;> exact ⟨_, rfl⟩
    · exact ⟨_, rfl⟩
  cases conversion with
  | number => exact ⟨_, rfl⟩
  | text => exact absurd rfl h
  | date => exact hdate cell
  | dateTime => exact hdate cell

/-- The value of a cell is of the kind that the variable of its column holds. -/
theorem suits_value (book : Codebook) (c : Column) (name : String) (conversion : Conversion)
    (cell : Option Cell) : (variableOf book conversion c name).Suits (conversion.value cell) := by
  by_cases htext : conversion = .text
  · subst htext
    exact fun h ↦ by cases h
  · obtain ⟨bits, hbits⟩ := exists_value_eq_number htext cell
    rw [hbits]
    cases conversion with
    | text => exact absurd rfl htext
    | number | date | dateTime => rfl

end SystemFile

namespace SystemDraft

variable {book : Codebook} {options : Options} {source : SuffixSource} {created : DateTime}
  {s : Sheet} {d : SystemDraft}

/-- The variables and conversions of a file that is begun are those of the sheet. -/
theorem exists_sheetVariables_of_start
    (hstart : SystemDraft.start book options source created s = .ok d) :
    ∃ vs, SystemFile.sheetVariables? source.draw source.limit book (.ofOptions options) s =
      some vs ∧ d.draft.vars = vs.map (·.1) ∧ d.conversions = vs.map (·.2) := by
  rw [SystemDraft.start] at hstart
  split at hstart
  · cases hstart
  · rename_i vs hvs
    split at hstart
    · cases hstart
    · rename_i draft hdraft
      obtain rfl := Except.ok.inj hstart
      obtain ⟨-, -, hvars⟩ := SystemFile.start_eq_ok_iff.1 hdraft
      exact ⟨vs, hvs, congrArg _ hvars, rfl⟩

/-- **The variable and the value of a column.** Both are made by the conversion of the column. -/
theorem exists_variable_of_start
    (hstart : SystemDraft.start book options source created s = .ok d) (row : Row) {i : Nat}
    {c : Column} (hc : s.columns[i]? = some c) :
    ∃ name, d.draft.vars[i]? =
        some (variableOf book (conversionOf book (.ofOptions options) c) c name) ∧
      (d.caseOf s row)[i]? = some ((conversionOf book (.ofOptions options) c).value
        ((row.get? c.key).filter (!·.isNull))) := by
  obtain ⟨vs, hvs, hvars, hconversions⟩ := exists_sheetVariables_of_start hstart
  have hforall := SystemFile.forall₂_variablesAfter? hvs
  obtain ⟨hi, rfl⟩ := List.getElem?_eq_some_iff.1 hc
  have hi' : i < vs.length := hforall.length_eq ▸ hi
  obtain ⟨hconversion, name, hname⟩ := hforall.get hi hi'
  simp only [List.get_eq_getElem] at hconversion hname
  have hzip : (d.conversions.zip (s.cells row))[i]? =
      some (vs[i].2, (row.get? s.columns[i].key).filter (!·.isNull)) := by
    refine List.getElem?_zip_eq_some.2 ⟨?_, ?_⟩
    · rw [hconversions, List.getElem?_map, List.getElem?_eq_getElem hi', Option.map_some]
    · rw [Sheet.cells, List.getElem?_map, hc, Option.map_some]
  refine ⟨name, ?_, ?_⟩
  · rw [hvars, List.getElem?_map, List.getElem?_eq_getElem hi', Option.map_some, hname, hconversion]
  · rw [caseOf, List.getElem?_map, hzip, Option.map_some, hconversion]

/-- **The case of a row suits the variables** that are made with its conversions: it has a value of
the right kind for each of them. -/
theorem suits_caseOf_of_isVariableOf {policy : SplitPolicy} {vs : List (Variable × Conversion)}
    (h : List.Forall₂ (SystemFile.IsVariableOf book policy) s.columns vs)
    (hconversions : d.conversions = vs.map (·.2)) (row : Row) :
    SystemFile.Suits (vs.map (·.1)) (d.caseOf s row) := by
  rw [caseOf, hconversions, Sheet.cells]
  clear hconversions
  generalize s.columns = cs at h
  induction h with
  | nil => exact .nil
  | @cons c v _ _ hv _ ih =>
    obtain ⟨-, name, hname⟩ := hv
    have hsuits := SystemFile.suits_value book c name v.2 ((row.get? c.key).filter (!·.isNull))
    rw [← hname] at hsuits
    exact .cons hsuits ih

/-- **The case of a row is accepted**: it has a value of the right kind for each variable. -/
theorem suits_caseOf (hstart : SystemDraft.start book options source created s = .ok d)
    (row : Row) : SystemFile.Suits d.draft.vars (d.caseOf s row) := by
  obtain ⟨vs, hvs, hvars, hconversions⟩ := exists_sheetVariables_of_start hstart
  rw [hvars]
  exact suits_caseOf_of_isVariableOf (SystemFile.forall₂_variablesAfter? hvs) hconversions row

/-! ### Rows in a run -/

/-- A draft has the variables and the conversions of the one that it continues. -/
structure Continues (d d' : SystemDraft) : Prop where
  vars : d'.draft.vars = d.draft.vars
  conversions : d'.conversions = d.conversions

/-- A row leaves the variables and the conversions, whether its case is accepted or refused. -/
theorem Continues.addRow {d' : SystemDraft} (h : d.Continues d') (s : Sheet) (row : Row) :
    d.Continues (d'.addRow s row).2 :=
  ⟨(SystemFile.Draft.vars_addCase _ _).trans h.vars, h.conversions⟩

/-- The draft after rows that are added one after the other. -/
def afterRows (s : Sheet) (rows : List Row) (d : SystemDraft) : SystemDraft :=
  rows.foldl (fun d row ↦ (d.addRow s row).2) d

/-- Rows leave the variables and the conversions. -/
theorem continues_afterRows (s : Sheet) (rows : List Row) (d : SystemDraft) :
    d.Continues (d.afterRows s rows) := by
  have hrun : ∀ d', d.Continues d' → d.Continues (d'.afterRows s rows) := by
    induction rows with
    | nil => exact fun _ h ↦ h
    | cons row rows ih => exact fun d' h ↦ ih _ (h.addRow s row)
  exact hrun d ⟨rfl, rfl⟩

/-- **The case of a row is written**, whichever rows come before, if a case is left to count. -/
theorem addRow_afterRows (hstart : SystemDraft.start book options source created s = .ok d)
    (rows : List Row) (row : Row)
    (hcount : (d.afterRows s rows).draft.count < SystemFile.maxCases) :
    let d' := d.afterRows s rows
    d'.addRow s row = (.ok (), { d' with draft := { d'.draft with
      written := SystemFile.caseBytes d.draft.vars (d.caseOf s row) :: d'.draft.written
      count := d'.draft.count + 1 } }) := by
  intro d'
  have hcontinues : d.Continues d' := continues_afterRows s rows d
  have hcase : d'.caseOf s row = d.caseOf s row := by rw [caseOf, caseOf, hcontinues.conversions]
  have hsuits : SystemFile.Suits d'.draft.vars (d.caseOf s row) :=
    hcontinues.vars ▸ suits_caseOf hstart row
  rw [addRow, hcase, SystemFile.Draft.addCase_of_suits hsuits hcount, ← hcontinues.vars]
  rfl

end SystemDraft

end SurveyExport
