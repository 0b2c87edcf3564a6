import SurveyExport.Proofs.Export.Writes

/-!
# The calls that an output gets

An output is watched without being disturbed: `Sink.observed` answers every call as the output does,
and notes the call with its answer. `ExportPlan.answered` is what an export leaves in these notes.

The calls of a run are read off its steps. `ExportStep.reached` lists the calls up to the first
submission that cannot be read; a run makes all of them, or those up to the first that fails, and
`Sink.Ending` says what its outcome is in either case (`Sink.ending_playAfter`). For the steps of an
export these calls are `begin`, the rows of the submissions that can be read, and `finish` if all
can be (`ExportPlan.reached_steps`).
-/

namespace SurveyExport

/-- A call of an output with its answer. -/
abbrev AnsweredCall (ε : Type) := SinkCall × Except ε Unit

namespace Sink

variable {σ ε : Type}

/-- An answer to a call, noted after those before it. -/
def note (c : SinkCall) (notes : List (AnsweredCall ε)) (r : Except ε Unit × σ) :
    Except ε Unit × σ × List (AnsweredCall ε) :=
  (r.1, r.2, notes ++ [(c, r.1)])

/-- The output with notes of the calls that it gets. -/
def observed (k : Sink σ ε) : Sink (σ × List (AnsweredCall ε)) ε where
  begin s := note .begin s.2 (k.begin s.1)
  row sheet cells s := note (.row sheet cells) s.2 (k.row sheet cells s.1)
  finish s := note .finish s.2 (k.finish s.1)

theorem call_observed (k : Sink σ ε) (c : SinkCall) (s : σ × List (AnsweredCall ε)) :
    k.observed.call c s = note c s.2 (k.call c s.1) := by
  cases c <;> rfl

/-- An output accepts every call. -/
def NeverFails (k : Sink σ ε) : Prop := ∀ c s, (k.call c s).1 = .ok ()

/-- The journal accepts every call. -/
theorem neverFails_journal : journal.NeverFails := by
  rintro (_ | _ | _) s <;> rfl

/-- The calls that steps make, with their answers. -/
def answered (k : Sink σ ε) : List ExportStep → σ → List (AnsweredCall ε)
  | [], _ => []
  | .stop _ :: _, _ => []
  | .report _ :: rest, s => answered k rest s
  | .call c :: rest, s =>
    match k.call c s with
    | (.ok _, s') => (c, .ok ()) :: answered k rest s'
    | (.error e, _) => [(c, .error e)]

/-- **Watching an output does not disturb a run**, and the notes tell the calls of the run. -/
theorem playAfter_observed (k : Sink σ ε) (steps : List ExportStep) (reports : List Progress)
    (s : σ) (notes : List (AnsweredCall ε)) :
    k.observed.playAfter reports steps (s, notes) =
      let run := k.playAfter reports steps s
      ⟨run.outcome, (run.state, notes ++ k.answered steps s), run.reports⟩ := by
  induction steps generalizing reports s notes with
  | nil => simp [playAfter, answered]
  | cons step rest ih =>
    cases step with
    | stop e => simp [playAfter, answered]
    | report p => exact ih _ _ _
    | call c =>
      simp only [playAfter, answered, call_observed, note]
      obtain ⟨answer, s'⟩ := k.call c s
      cases answer with
      | ok u =>
        refine (ih reports s' _).trans ?_
        rw [List.append_assoc]
        rfl
      | error e => rfl

end Sink

/-! ### The calls of steps -/

namespace ExportStep

/-- The calls before the first submission that cannot be read. -/
def reached : List ExportStep → List SinkCall
  | [] => []
  | .stop _ :: _ => []
  | .report _ :: rest => reached rest
  | .call c :: rest => c :: reached rest

/-- What is wrong with the first submission that cannot be read. -/
def fault? : List ExportStep → Option SubmissionError
  | [] => none
  | .stop e :: _ => some e
  | .report _ :: rest => fault? rest
  | .call _ :: rest => fault? rest

/-- Calls that are made one after the other are all reached. -/
theorem reached_calls_append (calls : List SinkCall) (rest : List ExportStep) :
    reached (calls.map .call ++ rest) = calls ++ reached rest := by
  induction calls with
  | nil => rfl
  | cons c calls ih => exact congrArg (c :: ·) ih

theorem fault?_calls_append (calls : List SinkCall) (rest : List ExportStep) :
    fault? (calls.map .call ++ rest) = fault? rest := by
  induction calls with
  | nil => rfl
  | cons c calls ih => exact ih

end ExportStep

namespace Sink

variable {σ ε : Type}

/-- The outcome of a run in which no call fails. -/
def outcomeOf : Option SubmissionError → Except (ExportError ε) Unit
  | some e => .error (.submission e)
  | none => .ok ()

/-- How a run ends that makes calls of `reached`, the last of which is followed by `fault`: the
calls with their answers, and the outcome. -/
inductive Ending (reached : List SinkCall) (fault : Option SubmissionError) :
    List (AnsweredCall ε) → Except (ExportError ε) Unit → Prop
  /-- All calls are made and accepted. -/
  | accepted : Ending reached fault (reached.map (·, .ok ())) (outcomeOf fault)
  /-- A call fails, and those after it are not made. -/
  | failed {before rest : List SinkCall} {c : SinkCall} (e : ε)
    (h : reached = before ++ c :: rest) :
    Ending reached fault (before.map (·, .ok ()) ++ [(c, .error e)]) (.error (.sink e))

/-- A call that is accepted goes before the calls of a run. -/
theorem Ending.cons {reached : List SinkCall} {fault : Option SubmissionError}
    {answers : List (AnsweredCall ε)} {outcome : Except (ExportError ε) Unit}
    (h : Ending reached fault answers outcome) (c : SinkCall) :
    Ending (c :: reached) fault ((c, .ok ()) :: answers) outcome := by
  cases h with
  | accepted => exact .accepted
  | @failed before _ _ e h => exact @failed _ _ _ (c :: before) _ _ e (congrArg (c :: ·) h)

/-- **A run makes the calls that its steps reach**, up to the first that fails. -/
theorem ending_playAfter (k : Sink σ ε) (steps : List ExportStep) (reports : List Progress)
    (s : σ) :
    Ending (ExportStep.reached steps) (ExportStep.fault? steps) (k.answered steps s)
      (k.playAfter reports steps s).outcome := by
  induction steps generalizing reports s with
  | nil => exact .accepted
  | cons step rest ih =>
    cases step with
    | stop e => exact .accepted
    | report p => exact ih _ _
    | call c =>
      simp only [ExportStep.reached, ExportStep.fault?, answered, playAfter]
      obtain ⟨answer, s'⟩ := k.call c s
      cases answer with
      | ok u => exact (ih reports s').cons c
      | error e => exact @Ending.failed _ _ _ [] _ c e rfl

/-- An output that accepts every call gets all that are reached. -/
theorem answered_of_neverFails {k : Sink σ ε} (hk : k.NeverFails) (steps : List ExportStep)
    (s : σ) : k.answered steps s = (ExportStep.reached steps).map (·, .ok ()) := by
  induction steps generalizing s with
  | nil => rfl
  | cons step rest ih =>
    cases step with
    | stop e => rfl
    | report p => exact ih s
    | call c =>
      obtain ⟨s', hcall⟩ : ∃ s', k.call c s = (.ok (), s') := ⟨_, Prod.ext (hk c s) rfl⟩
      simp only [answered, ExportStep.reached, List.map_cons, hcall, ih]

end Sink

/-! ### The calls of an export -/

namespace DataFile

/-- What is wrong with the first submission that cannot be read. -/
def fault? : List (Except SubmissionError Record) → Option SubmissionError
  | [] => none
  | .error e :: _ => some e
  | .ok _ :: rest => fault? rest

end DataFile

namespace ExportPlan

variable {σ ε : Type}

/-- The calls that the export of a data file makes of an output, with their answers. -/
def answered (p : ExportPlan) (data : DataFile) (k : Sink σ ε) (s : σ) : List (AnsweredCall ε) :=
  (p.run data k.observed (s, [])).2.1.2

theorem answered_eq (p : ExportPlan) (data : DataFile) (k : Sink σ ε) (s : σ) :
    p.answered data k s = k.answered (p.steps data) s := by
  show (k.observed.playAfter [] (p.steps data) (s, [])).state.2 = _
  rw [Sink.playAfter_observed]
  exact List.nil_append _

/-- The call that writes a row. -/
def rowCall (w : Nat × Row) : SinkCall := .row w.1 w.2

/-- The rows of a section are written to a sheet that exists. -/
theorem exists_of_mem_sectionCalls {p : ExportPlan} {name : String} {rows : List Row}
    {c : SinkCall} (h : c ∈ p.sectionCalls name rows) :
    ∃ w : Nat × Row, c = rowCall w ∧ w.1 < p.sheets.length := by
  simp only [sectionCalls] at h
  split at h
  · rename_i i _ hi _
    obtain ⟨row, -, rfl⟩ := List.mem_map.1 h
    exact ⟨(i, _), rfl, (List.findIdx?_eq_some_iff_getElem.1 hi).1⟩
  · cases h

/-- The calls made for a submission write rows to sheets that exist. -/
theorem exists_of_mem_recordCalls {p : ExportPlan} {number : Nat} {counters : Counters}
    {r : Record} {c : SinkCall} (h : c ∈ (p.recordCalls number counters r).1) :
    ∃ w : Nat × Row, c = rowCall w ∧ w.1 < p.sheets.length := by
  rcases List.mem_append.1 h with h | h
  · exact exists_of_mem_sectionCalls h
  · obtain ⟨e, -, h⟩ := List.mem_flatMap.1 h
    exact exists_of_mem_sectionCalls h

/-- Calls that write rows are told by these rows. -/
theorem map_rowCall_filterMap {calls : List SinkCall} (h : ∀ c ∈ calls, ∃ w, c = rowCall w) :
    (calls.filterMap SinkCall.written?).map rowCall = calls := by
  induction calls with
  | nil => rfl
  | cons c calls ih =>
    obtain ⟨w, rfl⟩ := h c List.mem_cons_self
    exact congrArg (rowCall w :: ·) (ih fun c hc ↦ h c (List.mem_cons_of_mem _ hc))

/-- The rows written for submissions are on sheets that exist. -/
theorem lt_of_mem_writesAfter {p : ExportPlan} {records : List Record} {done : Nat}
    {counters : Counters} {w : Nat × Row} (h : w ∈ p.writesAfter done counters records) :
    w.1 < p.sheets.length := by
  induction records generalizing done counters with
  | nil => cases h
  | cons r rest ih =>
    rcases List.mem_append.1 h with h | h
    · obtain ⟨c, hc, hw⟩ := List.mem_filterMap.1 h
      obtain ⟨w', rfl, hlt⟩ := exists_of_mem_recordCalls hc
      obtain rfl := Option.some.inj hw
      exact hlt
    · exact ih h

/-- The calls that close an export, if all its submissions can be read. -/
def closing : Option SubmissionError → List SinkCall
  | some _ => []
  | none => [.finish]

theorem reached_submissionSteps (p : ExportPlan)
    (submissions : List (Except SubmissionError Record)) (done : Nat) (counters : Counters) :
    ExportStep.reached (p.submissionSteps done counters submissions) =
      (p.writesAfter done counters (DataFile.readable submissions)).map rowCall ++
        closing (DataFile.fault? submissions) := by
  induction submissions generalizing done counters with
  | nil => rfl
  | cons x rest ih =>
    cases x with
    | error e => rfl
    | ok r =>
      have hwrites : ∀ c ∈ (p.recordCalls (done + 1) counters r).1, ∃ w, c = rowCall w :=
        fun c hc ↦ (exists_of_mem_recordCalls hc).imp fun _ h ↦ h.1
      have hcalls := map_rowCall_filterMap hwrites
      simp only [submissionSteps, DataFile.readable, DataFile.fault?, writesAfter]
      rw [ExportStep.reached_calls_append, ExportStep.reached, ih, List.map_append, hcalls,
        List.append_assoc]

theorem fault?_submissionSteps (p : ExportPlan)
    (submissions : List (Except SubmissionError Record)) (done : Nat) (counters : Counters) :
    ExportStep.fault? (p.submissionSteps done counters submissions) =
      DataFile.fault? submissions := by
  induction submissions generalizing done counters with
  | nil => rfl
  | cons x rest ih =>
    cases x with
    | error e => rfl
    | ok r =>
      simp only [submissionSteps, DataFile.fault?]
      rw [ExportStep.fault?_calls_append, ExportStep.fault?, ih]

/-- **The calls of an export** open the sheets, write the rows of the submissions that can be read,
and close the sheets if all can be read. -/
theorem reached_steps (p : ExportPlan) (data : DataFile) :
    ExportStep.reached (p.steps data) =
      .begin :: ((p.writesAfter 0 KeyMap.empty (DataFile.readable data.submissions)).map rowCall ++
        closing (DataFile.fault? data.submissions)) :=
  congrArg (SinkCall.begin :: ·) (p.reached_submissionSteps data.submissions 0 KeyMap.empty)

theorem fault?_steps (p : ExportPlan) (data : DataFile) :
    ExportStep.fault? (p.steps data) = DataFile.fault? data.submissions :=
  p.fault?_submissionSteps data.submissions 0 KeyMap.empty

/-- The calls and the outcome of an export. -/
theorem ending_run (p : ExportPlan) (data : DataFile) (k : Sink σ ε) (s : σ) :
    Sink.Ending (ExportStep.reached (p.steps data)) (DataFile.fault? data.submissions)
      (p.answered data k s) (k.play (p.steps data) s).outcome := by
  rw [answered_eq, ← fault?_steps p data]
  exact k.ending_playAfter _ _ _

/-- If no call fails, all calls are made that the steps reach. -/
theorem answered_of_forall_ok {p : ExportPlan} {data : DataFile} {k : Sink σ ε} {s : σ}
    (h : ∀ a ∈ p.answered data k s, a.2 = .ok ()) :
    p.answered data k s = (ExportStep.reached (p.steps data)).map (·, .ok ()) ∧
      (k.play (p.steps data) s).outcome = Sink.outcomeOf (DataFile.fault? data.submissions) := by
  have hending := ending_run p data k s
  generalize p.answered data k s = answers, (k.play (p.steps data) s).outcome = outcome
    at h hending ⊢
  cases hending with
  | accepted => exact ⟨rfl, rfl⟩
  | failed e _ => cases h (_, .error e) (List.mem_append_right _ List.mem_cons_self)

/-- An output that accepts every call has no part in the outcome. -/
theorem run_fst_of_neverFails {k : Sink σ ε} (hk : k.NeverFails) (p : ExportPlan) (data : DataFile)
    (s : σ) : (p.run data k s).1 = (Sink.outcomeOf (DataFile.fault? data.submissions)).map
      fun _ ↦ p.result data.submissions.length (p.steps data) := by
  refine congrArg (Except.map _) (answered_of_forall_ok ?_).2
  rw [answered_eq, Sink.answered_of_neverFails hk]
  exact List.forall_mem_map.2 fun _ _ ↦ rfl

end ExportPlan

end SurveyExport
