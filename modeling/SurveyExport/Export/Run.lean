import SurveyExport.Export.Steps

/-!
# Running an export

The steps of an export are played into an output. The first call that fails ends the run, and so
does a submission that cannot be read; the state of the output is kept in either case.

* `Sink.play_append`: a run of two lists of steps is a run of the first, and then of the second if
  the first did not end it.
-/

namespace SurveyExport

/-- An output with states `σ` whose calls may fail with errors `ε`. -/
structure Sink (σ ε : Type) where
  begin : σ → Except ε Unit × σ
  row : Nat → Row → σ → Except ε Unit × σ
  finish : σ → Except ε Unit × σ

/-- Why an export ends early. -/
inductive ExportError (ε : Type) where
  /-- A submission cannot be read. -/
  | submission (e : SubmissionError)
  /-- A call of the output failed. -/
  | sink (e : ε)
deriving DecidableEq, Repr

/-- A run of an export. -/
structure Played (σ ε : Type) where
  outcome : Except (ExportError ε) Unit
  /-- The state of the output at the end. -/
  state : σ
  /-- The reports in the order they were made. -/
  reports : List Progress

namespace Sink

variable {σ ε : Type}

/-- Makes a call. -/
def call (k : Sink σ ε) : SinkCall → σ → Except ε Unit × σ
  | .begin, s => k.begin s
  | .row sheet cells, s => k.row sheet cells s
  | .finish, s => k.finish s

/-- Plays steps, after the given reports in reverse. -/
def playAfter (k : Sink σ ε) (reports : List Progress) : List ExportStep → σ → Played σ ε
  | [], s => ⟨.ok (), s, reports.reverse⟩
  | .stop e :: _, s => ⟨.error (.submission e), s, reports.reverse⟩
  | .report p :: rest, s => playAfter k (p :: reports) rest s
  | .call c :: rest, s =>
    match k.call c s with
    | (.ok _, s') => playAfter k reports rest s'
    | (.error e, s') => ⟨.error (.sink e), s', reports.reverse⟩

/-- Plays steps into an output. -/
def play (k : Sink σ ε) (steps : List ExportStep) (s : σ) : Played σ ε := k.playAfter [] steps s

/-- A run that was not ended goes on with the steps that follow. -/
theorem playAfter_append (k : Sink σ ε) (reports : List Progress) (first second : List ExportStep)
    (s : σ) :
    k.playAfter reports (first ++ second) s =
      let run := k.playAfter reports first s
      match run.outcome with
      | .ok _ => k.playAfter run.reports.reverse second run.state
      | .error _ => run := by
  induction first generalizing reports s with
  | nil => simp [playAfter]
  | cons step rest ih =>
    cases step with
    | stop e => rfl
    | report p => exact ih _ _
    | call c =>
      simp only [List.cons_append, playAfter]
      split
      · exact ih _ _
      · rfl

end Sink

/-- How many rows were written to a sheet. -/
structure SheetCount where
  sectionName : String
  sheetName : String
  rows : Nat
deriving DecidableEq, Repr

/-- What an export did. -/
structure ExportResult where
  form : String
  submissions : Nat
  /-- The sheets in order. -/
  sheets : List SheetCount
deriving DecidableEq, Repr

namespace ExportResult

/-- The number of rows on all sheets. -/
def totalRows (r : ExportResult) : Nat := r.sheets.foldr (fun sheet n ↦ sheet.rows + n) 0

/-- The warning that there were no submissions. -/
def warning? (r : ExportResult) : Option String :=
  if r.submissions = 0 then some s!"no records found for form \x60{r.form}\x60" else none

end ExportResult

namespace ExportStep

/-- The sheet that a step writes a row to. -/
def sheet? : ExportStep → Option Nat
  | .call (.row sheet _) => some sheet
  | _ => none

end ExportStep

namespace ExportPlan

/-- The result of an export in which the given steps were made for so many submissions. -/
def result (p : ExportPlan) (submissions : Nat) (steps : List ExportStep) : ExportResult :=
  let written := steps.filterMap ExportStep.sheet?
  { form := p.rootName
    submissions
    sheets := p.sheets.mapIdx fun i s ↦ ⟨s.sectionName, s.name, written.count i⟩ }

/-- Exports a data file: the result or the error, the output's last state, and the reports. -/
def run {σ ε : Type} (p : ExportPlan) (data : DataFile) (k : Sink σ ε) (s : σ) :
    Except (ExportError ε) ExportResult × σ × List Progress :=
  let steps := p.steps data
  let played := k.play steps s
  (played.outcome.map fun _ ↦ p.result data.submissions.length steps, played.state, played.reports)

end ExportPlan

end SurveyExport
