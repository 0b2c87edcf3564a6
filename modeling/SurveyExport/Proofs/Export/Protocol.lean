import SurveyExport.Proofs.Export.Calls
import SurveyExport.Proofs.Linkage.Preorder

/-!
# What an output can rely on

Whatever an output answers, and whatever the data file holds, an export calls it in a fixed order
and stops at the first failure. `ExportPlan.ObeysProtocol` spells this out for one run;
`ExportPlan.make_obeysProtocol` proves it for every codebook, options, data file and output.

The calls of a run and its outcome go together in one of two ways (`ExportPlan.ending_run`), and all
that is asked of them is read off these two: either every call was accepted, and then all calls were
made that the data file asks for, or the last call failed, and its error is the outcome.
-/

namespace SurveyExport

namespace ExportPlan

/-- The counts of all sheets together are the number of rows, if there are no others. -/
theorem totalRows_result {p : ExportPlan} {submissions : Nat} {steps : List ExportStep}
    (h : ∀ i ∈ steps.filterMap ExportStep.sheet?, i < p.sheets.length) :
    (p.result submissions steps).totalRows = (steps.filterMap ExportStep.sheet?).length := by
  have hsum : (p.result submissions steps).totalRows =
      ((p.result submissions steps).sheets.map (·.rows)).sum := by
    rw [List.sum_eq_foldr, List.foldr_map, ExportResult.totalRows]
  rw [hsum, ← sum_count_of_nodup List.nodup_range fun i hi ↦ List.mem_range.2 (h i hi)]
  refine congrArg List.sum (List.ext_getElem (by simp [result]) fun i hi hi' ↦ ?_)
  simp [result]

/-! ### The protocol -/

variable {σ ε : Type}

/-- The rows that an output was asked to write, each with the number of its sheet. -/
def written (answers : List (AnsweredCall ε)) : List (Nat × Row) :=
  answers.filterMap fun a ↦ a.1.written?

/-- **What an output can rely on** in the export of a data file. -/
structure ObeysProtocol (p : ExportPlan) (data : DataFile) (k : Sink σ ε) (s : σ) : Prop where
  /-- The calls that are spoken of are those of the run: noting them changes nothing. -/
  undisturbed : (p.run data k.observed (s, [])).1 = (p.run data k s).1 ∧
    (p.run data k.observed (s, [])).2.1.1 = (p.run data k s).2.1 ∧
    (p.run data k.observed (s, [])).2.2 = (p.run data k s).2.2
  /-- The sheets are opened once and first, then rows are written to sheets of sections, and the
  sheets are closed at most once and last. -/
  order : ∃ (writes : List (Nat × Row)) (last : List SinkCall),
    (p.answered data k s).map (·.1) = .begin :: (writes.map rowCall ++ last) ∧
      (∀ w ∈ writes, w.1 < p.book.sections.length) ∧ (last = [] ∨ last = [.finish])
  /-- No call follows one that fails, and its error is returned. -/
  failure : ∀ before c e after, p.answered data k s = before ++ (c, .error e) :: after →
    after = [] ∧ (p.run data k s).1 = .error (.sink e)
  /-- A submission that cannot be read is the end: if no call failed, those made are the ones for
  the submissions before it, and its error is returned. -/
  submission : ∀ before e after, data.submissions = before.map .ok ++ .error e :: after →
    (∀ a ∈ p.answered data k s, a.2 = .ok ()) →
      (p.answered data k s).map (·.1) =
        .begin :: (p.writesAfter 0 KeyMap.empty before).map rowCall ∧
      (p.run data k s).1 = .error (.submission e)
  /-- There is a result just if no call failed and every submission can be read. -/
  ok_iff : (∃ result, (p.run data k s).1 = .ok result) ↔
    (∀ a ∈ p.answered data k s, a.2 = .ok ()) ∧ ∀ x ∈ data.submissions, ∃ r, x = .ok r
  /-- The calls are the first of those that an output gets which accepts every call. -/
  prefix_of_neverFails : ∀ {σ' ε' : Type} (k' : Sink σ' ε') (s' : σ'), k'.NeverFails →
    (p.answered data k s).map (·.1) <+: (p.answered data k' s').map (·.1)
  /-- The result counts the submissions, the rows of the sheet of each section, and all rows. -/
  counts : ∀ result, (p.run data k s).1 = .ok result →
    result.submissions = data.submissions.length ∧
      result.sheets.map (·.sectionName) = p.book.sections.map (·.name) ∧
      (∀ i sheet, result.sheets[i]? = some sheet →
        sheet.rows = (written (p.answered data k s)).countP (·.1 = i)) ∧
      result.totalRows = (written (p.answered data k s)).length

/-! ### The two endings of a run -/

variable {p : ExportPlan} {data : DataFile} {k : Sink σ ε} {s : σ}

theorem run_observed (p : ExportPlan) (data : DataFile) (k : Sink σ ε) (s : σ) :
    p.run data k.observed (s, []) =
      ((p.run data k s).1, ((p.run data k s).2.1, p.answered data k s), (p.run data k s).2.2) := by
  rw [answered_eq]
  show ((k.observed.playAfter [] (p.steps data) (s, [])).outcome.map _,
    (k.observed.playAfter [] (p.steps data) (s, [])).state,
    (k.observed.playAfter [] (p.steps data) (s, [])).reports) = _
  rw [Sink.playAfter_observed]
  rfl

/-- The calls of a run are the first of those that its steps reach, at least one of them. -/
theorem map_fst_answered_prefix (p : ExportPlan) (data : DataFile) (k : Sink σ ε) (s : σ) :
    (p.answered data k s).map (·.1) <+: ExportStep.reached (p.steps data) ∧
      p.answered data k s ≠ [] := by
  have hne : ExportStep.reached (p.steps data) ≠ [] := by
    rw [reached_steps]
    exact List.cons_ne_nil _ _
  have hending := ending_run p data k s
  generalize p.answered data k s = answers, (k.play (p.steps data) s).outcome = outcome
    at hending ⊢
  cases hending with
  | accepted => simpa [List.map_map, Function.comp_def] using hne
  | @failed before rest c e h =>
    refine ⟨⟨rest, ?_⟩, by simp⟩
    simp [List.map_map, Function.comp_def, h]

/-- The first submission that cannot be read, if there is one. -/
theorem fault?_append (before : List Record) (e : SubmissionError)
    (after : List (Except SubmissionError Record)) :
    DataFile.fault? (before.map .ok ++ .error e :: after) = some e ∧
      DataFile.readable (before.map .ok ++ .error e :: after) = before := by
  induction before with
  | nil => exact ⟨rfl, rfl⟩
  | cons r before ih => exact ⟨ih.1, congrArg (r :: ·) ih.2⟩

theorem fault?_eq_none_iff {submissions : List (Except SubmissionError Record)} :
    DataFile.fault? submissions = none ↔ ∀ x ∈ submissions, ∃ r, x = .ok r := by
  induction submissions with
  | nil => exact ⟨fun _ ↦ nofun, fun _ ↦ rfl⟩
  | cons x rest ih =>
    cases x with
    | error e => simp [DataFile.fault?]
    | ok r => simpa [DataFile.fault?] using ih

/-- The sheets of a plan are those of the sections. -/
theorem map_sectionName_make (book : Codebook) (options : Options) (naming : SheetNaming) :
    (make book options naming).sheets.map (·.sectionName) = book.sections.map (·.name) := by
  show (Sheet.ofCodebook book options naming).map _ = _
  rw [Sheet.ofCodebook, List.map_map]
  have hlength : book.sections.length ≤ (naming.assign (book.sections.map (·.name))).length :=
    (naming.length_assign _).symm ▸ (List.length_map _).ge
  conv_rhs => rw [← List.map_fst_zip hlength, List.map_map]
  rfl

/-- If all submissions can be read, the rows of the steps are those of the calls. -/
theorem filterMap_sheet?_eq {steps : List ExportStep} (h : ExportStep.fault? steps = none) :
    steps.filterMap ExportStep.sheet? =
      ((ExportStep.reached steps).filterMap SinkCall.written?).map (·.1) := by
  induction steps with
  | nil => rfl
  | cons step rest ih =>
    cases step with
    | stop e => cases h
    | report q => exact ih h
    | call c =>
      cases c with
      | row i cells => exact congrArg (i :: ·) (ih h)
      | begin | finish => exact ih h

theorem filterMap_written?_reached (p : ExportPlan) (data : DataFile) :
    (ExportStep.reached (p.steps data)).filterMap SinkCall.written? =
      p.writesAfter 0 KeyMap.empty (DataFile.readable data.submissions) := by
  have hrows : ∀ rows : List (Nat × Row),
      (rows.map rowCall).filterMap SinkCall.written? = rows := fun rows ↦ by
    rw [List.filterMap_map]
    exact List.filterMap_some
  have hclosing : ∀ e, (closing e).filterMap SinkCall.written? = [] := by
    rintro (_ | e) <;> rfl
  rw [reached_steps, List.filterMap_cons_none rfl, List.filterMap_append, hrows, hclosing,
    List.append_nil]

/-- The first calls of an export are again of the form of its calls. -/
theorem exists_of_prefix {calls : List SinkCall} {rows : List (Nat × Row)}
    {fault : Option SubmissionError} (hne : calls ≠ [])
    (h : calls <+: .begin :: (rows.map rowCall ++ closing fault)) :
    ∃ (writes : List (Nat × Row)) (last : List SinkCall),
      calls = .begin :: (writes.map rowCall ++ last) ∧ writes <+: rows ∧
        (last = [] ∨ last = [.finish]) := by
  cases calls with
  | nil => exact absurd rfl hne
  | cons c calls =>
    obtain ⟨rfl, hfront⟩ := List.cons_prefix_cons.1 h
    refine ⟨rows.take calls.length, (closing fault).take (calls.length - rows.length), ?_,
      List.take_prefix _ _, ?_⟩
    · rw [List.map_take]
      conv_lhs => rw [List.prefix_iff_eq_take.1 hfront, List.take_append, List.length_map]
    · cases fault with
      | some e => exact .inl (List.take_nil)
      | none => cases calls.length - rows.length <;> simp [closing]

/-- The error of a call that fails is returned, and no call follows. -/
theorem eq_nil_of_error {before after : List (AnsweredCall ε)} {c : SinkCall} {e : ε}
    (h : p.answered data k s = before ++ (c, .error e) :: after) :
    after = [] ∧ (p.run data k s).1 = .error (.sink e) := by
  have hending := ending_run p data k s
  show after = [] ∧ (k.play (p.steps data) s).outcome.map _ = _
  generalize p.answered data k s = answers, (k.play (p.steps data) s).outcome = outcome
    at h hending ⊢
  cases hending with
  | accepted =>
    have hmem : (c, .error e) ∈ (ExportStep.reached (p.steps data)).map
        fun c ↦ ((c, .ok ()) : AnsweredCall ε) := h ▸ by simp
    obtain ⟨_, -, heq⟩ := List.mem_map.1 hmem
    cases heq
  | @failed accepted rest c' e' _ =>
    -- the last call is the only one that fails
    rcases List.eq_nil_or_concat after with rfl | ⟨init, last, rfl⟩
    · obtain ⟨-, heq⟩ := List.append_inj' h rfl
      cases heq
      exact ⟨rfl, rfl⟩
    · rw [List.concat_eq_append, ← List.cons_append, ← List.append_assoc] at h
      obtain ⟨hinit, -⟩ := List.append_inj' h rfl
      have hmem : (c, .error e) ∈ accepted.map fun c ↦ ((c, .ok ()) : AnsweredCall ε) :=
        hinit ▸ by simp
      obtain ⟨_, -, heq⟩ := List.mem_map.1 hmem
      cases heq

/-- A result is returned just if no call fails and all submissions can be read. -/
theorem exists_ok_iff : (∃ result, (p.run data k s).1 = .ok result) ↔
    (∀ a ∈ p.answered data k s, a.2 = .ok ()) ∧ DataFile.fault? data.submissions = none := by
  constructor
  · rintro ⟨result, hrun⟩
    have hok : ∀ a ∈ p.answered data k s, a.2 = .ok () := by
      rintro ⟨c, answer⟩ ha
      cases answer with
      | ok u => rfl
      | error e =>
        obtain ⟨before, after, hsplit⟩ := List.append_of_mem ha
        cases hrun.symm.trans (eq_nil_of_error hsplit).2
    refine ⟨hok, ?_⟩
    have houtcome := (answered_of_forall_ok hok).2
    cases hfault : DataFile.fault? data.submissions with
    | none => rfl
    | some e =>
      have hrun' : (p.run data k s).1 = (Sink.outcomeOf (some e)).map _ :=
        congrArg (Except.map _) (hfault ▸ houtcome)
      cases hrun.symm.trans hrun'
  · rintro ⟨hok, hfault⟩
    have houtcome := (answered_of_forall_ok hok).2
    rw [hfault] at houtcome
    exact ⟨_, congrArg (Except.map _) houtcome⟩

/-- If no call fails, the rows of all submissions that can be read are written. -/
theorem written_answered (hok : ∀ a ∈ p.answered data k s, a.2 = .ok ()) :
    written (p.answered data k s) =
      p.writesAfter 0 KeyMap.empty (DataFile.readable data.submissions) := by
  rw [(answered_of_forall_ok hok).1, written, List.filterMap_map]
  exact filterMap_written?_reached p data

/-- The counts of a result are those of the rows of all submissions. -/
theorem filterMap_sheet?_steps (hfault : DataFile.fault? data.submissions = none) :
    (p.steps data).filterMap ExportStep.sheet? =
      (p.writesAfter 0 KeyMap.empty (DataFile.readable data.submissions)).map (·.1) := by
  rw [filterMap_sheet?_eq ((fault?_steps p data).trans hfault), filterMap_written?_reached]

/-- **Every export obeys the protocol** of its output. -/
theorem make_obeysProtocol (book : Codebook) (options : Options) (naming : SheetNaming)
    (data : DataFile) (k : Sink σ ε) (s : σ) :
    (make book options naming).ObeysProtocol data k s := by
  have hsections := map_sectionName_make book options naming
  have hbook : (make book options naming).book = book := rfl
  generalize make book options naming = p at hsections hbook ⊢
  subst hbook
  have hlength : p.sheets.length = p.book.sections.length := by
    simpa using congrArg List.length hsections
  obtain ⟨hfront, hne⟩ := map_fst_answered_prefix p data k s
  constructor
  case undisturbed => exact run_observed p data k s ▸ ⟨rfl, rfl, rfl⟩
  case order =>
    rw [reached_steps] at hfront
    obtain ⟨writes, last, hcalls, hwrites, hlast⟩ :=
      exists_of_prefix (mt List.map_eq_nil_iff.1 hne) hfront
    exact ⟨writes, last, hcalls,
      fun w hw ↦ hlength ▸ lt_of_mem_writesAfter (hwrites.subset hw), hlast⟩
  case failure => exact fun _ _ _ _ h ↦ eq_nil_of_error h
  case submission =>
    intro before e after hdata hok
    obtain ⟨hfault, hreadable⟩ := fault?_append before e after
    obtain ⟨hanswers, houtcome⟩ := answered_of_forall_ok hok
    rw [hdata, hfault] at houtcome
    refine ⟨?_, congrArg (Except.map _) houtcome⟩
    rw [hanswers, reached_steps, hdata, hfault, hreadable, List.map_map]
    simp [Function.comp_def, closing]
  case ok_iff => exact exists_ok_iff.trans (and_congr_right fun _ ↦ fault?_eq_none_iff)
  case prefix_of_neverFails =>
    intro σ' ε' k' s' hk'
    rw [answered_eq p data k', Sink.answered_of_neverFails hk', List.map_map]
    simpa [Function.comp_def] using hfront
  case counts =>
    intro result hrun
    obtain ⟨hok, hfault⟩ := exists_ok_iff.1 ⟨result, hrun⟩
    have hresult : result = p.result data.submissions.length (p.steps data) := by
      have houtcome := (answered_of_forall_ok hok).2
      rw [hfault] at houtcome
      exact Except.ok.inj (hrun.symm.trans (congrArg (Except.map _) houtcome))
    subst hresult
    rw [written_answered hok]
    refine ⟨rfl, ?_, fun i sheet hsheet ↦ ?_, ?_⟩
    · rw [← hsections]
      exact List.ext_getElem (by simp [result]) fun i hi hi' ↦ by simp [result]
    · simp only [result, List.getElem?_mapIdx, Option.map_eq_some_iff] at hsheet
      obtain ⟨_, -, rfl⟩ := hsheet
      show List.count i _ = _
      rw [filterMap_sheet?_steps hfault, List.count_eq_countP, List.countP_map]
      rfl
    · rw [totalRows_result, filterMap_sheet?_steps hfault, List.length_map]
      rw [filterMap_sheet?_steps hfault]
      exact List.forall_mem_map.2 fun w hw ↦ lt_of_mem_writesAfter hw

end ExportPlan

end SurveyExport
