import SurveyExport.Export.Run
import SurveyExport.Proofs.Codebook.Check
import SurveyExport.Proofs.Sheet.Names

/-!
# The rows that an export writes

An export is played into an output; what it writes is what an output that accepts everything has
been given at the end (`Sink.journal`). `ExportPlan.rows_eq` reads this off the submissions: the
rows of the calls made for them, one submission after the other, up to the first that cannot be
read.
-/

namespace SurveyExport

/-- An output that accepts every call and keeps the sheets and rows that it was given. -/
def Sink.journal : Sink (List (Nat × Row)) Empty where
  begin s := (.ok (), s)
  row sheet cells s := (.ok (), s ++ [(sheet, cells)])
  finish s := (.ok (), s)

/-- The sheet and the row that a call writes. -/
def SinkCall.written? : SinkCall → Option (Nat × Row)
  | .row sheet cells => some (sheet, cells)
  | _ => none

namespace DataFile

/-- The submissions before the first that cannot be read. -/
def readable : List (Except SubmissionError Record) → List Record
  | .ok r :: rest => r :: readable rest
  | _ => []

end DataFile

namespace ExportPlan

/-- The rows written for submissions that come after `done` others. -/
def writesAfter (p : ExportPlan) (done : Nat) (counters : Counters) :
    List Record → List (Nat × Row)
  | [] => []
  | r :: rest =>
    (p.recordCalls (done + 1) counters r).1.filterMap SinkCall.written? ++
      writesAfter p (done + 1) (p.recordCalls (done + 1) counters r).2 rest

/-- Calls that are made one after the other leave their rows in the journal. -/
theorem playAfter_journal_calls (calls : List SinkCall) (reports : List Progress)
    (rest : List ExportStep) (s : List (Nat × Row)) :
    Sink.journal.playAfter reports (calls.map .call ++ rest) s =
      Sink.journal.playAfter reports rest (s ++ calls.filterMap SinkCall.written?) := by
  induction calls generalizing s with
  | nil => simp
  | cons c calls ih =>
    cases c with
    | row sheet cells =>
      show Sink.journal.playAfter reports (calls.map .call ++ rest) (s ++ [(sheet, cells)]) = _
      rw [ih, List.append_assoc]
      rfl
    | begin | finish =>
      show Sink.journal.playAfter reports (calls.map .call ++ rest) s = _
      rw [ih]
      rfl

/-- The submissions leave the rows of those that can be read. -/
theorem state_submissionSteps (p : ExportPlan) (submissions : List (Except SubmissionError Record))
    (done : Nat) (counters : Counters) (reports : List Progress) (s : List (Nat × Row)) :
    (Sink.journal.playAfter reports (p.submissionSteps done counters submissions) s).state =
      s ++ p.writesAfter done counters (DataFile.readable submissions) := by
  induction submissions generalizing done counters reports s with
  | nil => simp [submissionSteps, Sink.playAfter, Sink.call, Sink.journal, DataFile.readable,
      writesAfter]
  | cons x rest ih =>
    cases x with
    | error e => simp [submissionSteps, Sink.playAfter, DataFile.readable, writesAfter]
    | ok r =>
      simp only [submissionSteps, DataFile.readable, writesAfter]
      rw [playAfter_journal_calls, Sink.playAfter, ih, List.append_assoc]

/-- The sheets and rows that the export of a data file writes. -/
def rows (p : ExportPlan) (data : DataFile) : List (Nat × Row) := (p.run data .journal []).2.1

/-- **The rows written** are those of the submissions that can be read. -/
theorem rows_eq (p : ExportPlan) (data : DataFile) :
    p.rows data = p.writesAfter 0 KeyMap.empty (DataFile.readable data.submissions) := by
  show (Sink.journal.playAfter [] (.call .begin :: .report _ ::
    p.submissionSteps 0 KeyMap.empty data.submissions) []).state = _
  simp only [Sink.playAfter, Sink.call]
  exact (state_submissionSteps p _ _ _ _ _).trans (List.nil_append _)

/-! ### Sheets of sections -/

variable {form : Form} {options : Options} {naming : SheetNaming}

/-- The plan for the codebook of a form. -/
def madePlan (form : Form) (options : Options) (naming : SheetNaming) : ExportPlan :=
  make (Codebook.made form options) options naming

/-- The names of sheets, one for each section. -/
def sheetNames (form : Form) (naming : SheetNaming) : List String :=
  naming.assign (form.name :: form.repeats)

theorem length_sheetNames : (sheetNames form naming).length = (form.name :: form.repeats).length :=
  naming.length_assign _

theorem sheets_madePlan : (madePlan form options naming).sheets =
    ((form.name :: form.repeats).zip (sheetNames form naming)).map fun e ↦
      Sheet.ofSection (Codebook.made form options) options
        (Codebook.sectionNamed form options e.1) e.2 := by
  show Sheet.ofCodebook _ _ _ = _
  rw [Sheet.ofCodebook, Codebook.map_name_sections_made, Codebook.sections_made, sheetNames,
    List.zip_map_left, List.map_map]
  rfl

theorem map_sectionName_sheets :
    (madePlan form options naming).sheets.map (·.sectionName) = form.name :: form.repeats := by
  rw [sheets_madePlan, List.map_map]
  have hfst : ((fun s : Sheet ↦ s.sectionName) ∘ fun e : String × String ↦
      Sheet.ofSection (Codebook.made form options) options
        (Codebook.sectionNamed form options e.1) e.2) = Prod.fst :=
    funext fun e ↦ Codebook.name_sectionNamed form options e.1
  rw [hfst, List.map_fst_zip length_sheetNames.ge]

theorem map_name_sheets :
    (madePlan form options naming).sheets.map (·.name) = sheetNames form naming := by
  rw [sheets_madePlan, List.map_map]
  exact List.map_snd_zip length_sheetNames.le

/-- No two sheets have the same name. -/
theorem nodup_map_name_sheets : ((madePlan form options naming).sheets.map (·.name)).Nodup := by
  rw [map_name_sheets]
  exact SheetNaming.nodup_assign _ _

/-- The number of a section's sheet. -/
def sheetOf (form : Form) (s : String) : Nat := (form.name :: form.repeats).idxOf s

theorem findIdx?_sheets (form : Form) (options : Options) (naming : SheetNaming) (s : String) :
    (madePlan form options naming).sheets.findIdx? (·.sectionName == s) =
      if s ∈ form.name :: form.repeats then some (sheetOf form s) else none := by
  have hmap : (madePlan form options naming).sheets.findIdx? (·.sectionName == s) =
      ((madePlan form options naming).sheets.map (·.sectionName)).findIdx? (· == s) := by
    rw [List.findIdx?_map]
    rfl
  rw [hmap, map_sectionName_sheets, sheetOf]
  generalize form.name :: form.repeats = names
  split
  · rename_i hs
    rw [List.findIdx?_eq_some_iff_findIdx_eq]
    exact ⟨List.idxOf_lt_length_iff.2 hs, rfl⟩
  · rename_i hs
    rw [List.findIdx?_eq_none_iff]
    intro x hx
    simpa using fun h : x = s ↦ hs (h ▸ hx)

/-- A section that the form declares has a sheet, with the section's name on it. -/
theorem exists_sheet (options : Options) (naming : SheetNaming) {s : String}
    (h : s ∈ form.name :: form.repeats) :
    ∃ sheet, (madePlan form options naming).sheets[sheetOf form s]? = some sheet ∧
      sheet.sectionName = s := by
  have hget : ((madePlan form options naming).sheets.map (·.sectionName))[sheetOf form s]? =
      some s := by
    rw [map_sectionName_sheets, sheetOf]
    exact List.getElem?_idxOf h
  rw [List.getElem?_map, Option.map_eq_some_iff] at hget
  exact hget

theorem find?_sheets {s : String} {sheet : Sheet}
    (h : (madePlan form options naming).sheets[sheetOf form s]? = some sheet)
    (hs : s ∈ form.name :: form.repeats) :
    (madePlan form options naming).sheets.find? (·.sectionName == s) = some sheet := by
  have hidx := findIdx?_sheets form options naming s
  rw [if_pos hs] at hidx
  obtain ⟨hlt, hname, hbefore⟩ := List.findIdx?_eq_some_iff_getElem.1 hidx
  obtain ⟨-, rfl⟩ := List.getElem?_eq_some_iff.1 h
  exact List.find?_eq_some_iff_getElem.2
    ⟨hname, sheetOf form s, hlt, rfl, fun j hj ↦ by simpa using hbefore j hj⟩

end ExportPlan

end SurveyExport
