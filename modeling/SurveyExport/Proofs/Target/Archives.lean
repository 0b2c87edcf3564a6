import SurveyExport.Proofs.Export.Calls
import SurveyExport.Proofs.Export.RootSheet
import SurveyExport.Target.Archive

/-!
# The files of an archive

Rows of different sheets come in one after the other, in any order, and each draft of an archive
takes those of its own sheet. What a call does to the drafts is one lemma (`Archive.drafts_addRow`),
and by induction a run of rows gives each draft the rows of its sheet in the order they were written
(`Archive.drafts_settle_rows`).

Drafts that can be started and take every row make the export succeed whenever the submissions can
be read (`ExportPlan.run_archive`), and its entries are then the finished drafts, in the order of
the sheets.
-/

namespace SurveyExport

/-! ### Calls that are accepted -/

namespace Sink

variable {σ ε : Type}

/-- The state of an output after calls, whatever their answers. -/
def settle (k : Sink σ ε) : List SinkCall → σ → σ
  | [], s => s
  | c :: rest, s => settle k rest (k.call c s).2

/-- An output accepts calls that are made one after the other. -/
def Accepts (k : Sink σ ε) : List SinkCall → σ → Prop
  | [], _ => True
  | c :: rest, s => (k.call c s).1 = .ok () ∧ Accepts k rest (k.call c s).2

theorem settle_append (k : Sink σ ε) (calls calls' : List SinkCall) (s : σ) :
    k.settle (calls ++ calls') s = k.settle calls' (k.settle calls s) := by
  induction calls generalizing s with
  | nil => rfl
  | cons c calls ih => exact ih _

theorem accepts_append {k : Sink σ ε} {calls calls' : List SinkCall} {s : σ} :
    k.Accepts (calls ++ calls') s ↔ k.Accepts calls s ∧ k.Accepts calls' (k.settle calls s) := by
  induction calls generalizing s with
  | nil => simp [Accepts, settle]
  | cons c calls ih => simp [Accepts, settle, ih, and_assoc]

/-- A run whose calls are accepted makes all that its steps reach, and ends as they do. -/
theorem playAfter_of_accepts {k : Sink σ ε} {steps : List ExportStep} {s : σ}
    (h : k.Accepts (ExportStep.reached steps) s) (reports : List Progress) :
    (k.playAfter reports steps s).outcome = outcomeOf (ExportStep.fault? steps) ∧
      (k.playAfter reports steps s).state = k.settle (ExportStep.reached steps) s := by
  induction steps generalizing s reports with
  | nil => exact ⟨rfl, rfl⟩
  | cons step rest ih =>
    cases step with
    | stop e => exact ⟨rfl, rfl⟩
    | report p => exact ih h _
    | call c =>
      obtain ⟨hok, hrest⟩ := h
      obtain ⟨s', hcall⟩ : ∃ s', k.call c s = (.ok (), s') := ⟨_, Prod.ext hok rfl⟩
      simp only [ExportStep.reached, ExportStep.fault?, playAfter, settle, hcall] at hrest ⊢
      exact ih hrest reports

end Sink

/-! ### Drafts -/

namespace EntryKind

variable {α β ε : Type}

/-- The draft of a sheet with rows added one after the other. -/
def addAll (kind : EntryKind α β ε) (s : Sheet) (rows : List Row) (draft : α) : α :=
  rows.foldl (fun d row ↦ (kind.add s row d).2) draft

/-- Every sheet has a first draft, and a draft takes every row. -/
structure NeverFails (kind : EntryKind α β ε) (first : Sheet → α) : Prop where
  start : ∀ s, kind.start s = .ok (first s)
  add : ∀ s row draft, (kind.add s row draft).1 = .ok ()

end EntryKind

namespace Archive

open ExportPlan

variable {α β ε : Type} {kind : EntryKind α β ε} {first : Sheet → α}

/-- The drafts of sheets are started in order. -/
theorem startAll_eq (hkind : kind.NeverFails first) (a : Archive α β) (sheets : List Sheet) :
    startAll kind a sheets =
      (.ok (), { a with drafts := a.drafts ++ sheets.map fun s ↦ (s, first s) }) := by
  induction sheets generalizing a with
  | nil => simp [startAll]
  | cons s rest ih => simp [startAll, hkind.start, ih]

/-- **A row goes to the draft with its number**, and the other drafts stay as they are. -/
theorem drafts_addRow (kind : EntryKind α β ε) (i : Nat) (row : Row) (a : Archive α β) :
    (addRow kind i row a).2.drafts =
      a.drafts.mapIdx fun j e ↦ (e.1, kind.addAll e.1 (rowsOn j [(i, row)]) e.2) := by
  refine List.ext_getElem? fun j ↦ ?_
  rw [List.getElem?_mapIdx, addRow]
  by_cases hij : i = j
  · subst hij
    have hrows : rowsOn i [(i, row)] = [row] := by simp [rowsOn]
    cases hdraft : a.drafts[i]? with
    | none => exact hdraft
    | some e =>
      have hlt : i < a.drafts.length := (List.getElem?_eq_some_iff.1 hdraft).1
      simp [List.getElem?_set_self hlt, hrows, EntryKind.addAll]
  · have hrows : rowsOn j [(i, row)] = [] := by simp [rowsOn, hij]
    have hsame : ∀ e : Sheet × α, (e.1, kind.addAll e.1 (rowsOn j [(i, row)]) e.2) = e := by
      rw [hrows]
      exact fun e ↦ rfl
    cases a.drafts[i]? <;> simp [List.getElem?_set_ne hij, hsame]

theorem entries_addRow (kind : EntryKind α β ε) (i : Nat) (row : Row) (a : Archive α β) :
    (addRow kind i row a).2.entries = a.entries := by
  rw [addRow]
  split <;> rfl

/-- **Each draft gets the rows of its sheet**, in the order they were written. -/
theorem drafts_settle_rows (kind : EntryKind α β ε) (sheets : List Sheet)
    (written : List (Nat × Row)) (a : Archive α β) :
    ((sink kind sheets).settle (written.map rowCall) a).drafts =
      a.drafts.mapIdx fun i e ↦ (e.1, kind.addAll e.1 (rowsOn i written) e.2) := by
  induction written generalizing a with
  | nil =>
    refine List.ext_getElem? fun i ↦ ?_
    simp [Sink.settle, rowsOn, EntryKind.addAll]
  | cons w rest ih =>
    show ((sink kind sheets).settle (rest.map rowCall) (addRow kind w.1 w.2 a).2).drafts = _
    rw [ih, drafts_addRow, List.mapIdx_mapIdx]
    refine congrArg (fun f ↦ a.drafts.mapIdx f) (funext₂ fun i e ↦ ?_)
    have hsplit : rowsOn i (w :: rest) = rowsOn i [w] ++ rowsOn i rest := rowsOn_append i [w] rest
    rw [hsplit]
    simp [EntryKind.addAll]

theorem entries_settle_rows (kind : EntryKind α β ε) (sheets : List Sheet)
    (written : List (Nat × Row)) (a : Archive α β) :
    ((sink kind sheets).settle (written.map rowCall) a).entries = a.entries := by
  induction written generalizing a with
  | nil => rfl
  | cons w rest ih => exact (ih _).trans (entries_addRow kind w.1 w.2 a)

/-- Rows are accepted for sheets that there are. -/
theorem accepts_rows (hkind : kind.NeverFails first) (sheets : List Sheet)
    {written : List (Nat × Row)} {a : Archive α β} (h : ∀ w ∈ written, w.1 < a.drafts.length) :
    (sink kind sheets).Accepts (written.map rowCall) a := by
  induction written generalizing a with
  | nil => trivial
  | cons w rest ih =>
    obtain ⟨hw, hrest⟩ := List.forall_mem_cons.1 h
    refine ⟨?_, ih fun v hv ↦ ?_⟩
    · show (addRow kind w.1 w.2 a).1 = .ok ()
      rw [addRow, List.getElem?_eq_getElem hw]
      exact hkind.add _ _ _
    · show v.1 < (addRow kind w.1 w.2 a).2.drafts.length
      rw [drafts_addRow, List.length_mapIdx]
      exact hrest v hv

end Archive

/-! ### An export into an archive -/

namespace ExportPlan

variable {α β ε : Type} {kind : EntryKind α β ε} {first : Sheet → α}

/-- The entries of an archive that was given rows. -/
def entriesOf (p : ExportPlan) (kind : EntryKind α β ε) (first : Sheet → α)
    (written : List (Nat × Row)) : List (String × β) :=
  p.sheets.mapIdx fun i s ↦
    (s.name ++ "." ++ kind.extension, kind.content (kind.addAll s (rowsOn i written) (first s)))

/-- **An export into an archive** succeeds just if all submissions can be read, and leaves the
finished drafts of the sheets with the rows that were written. -/
theorem run_archive (hkind : kind.NeverFails first) (p : ExportPlan) (data : DataFile) :
    let run := p.run data (Archive.sink kind p.sheets) {}
    run.1 = (Sink.outcomeOf (DataFile.fault? data.submissions)).map
        (fun _ ↦ p.result data.submissions.length (p.steps data)) ∧
      (DataFile.fault? data.submissions = none →
        run.2.1.entries = some (p.entriesOf kind first (p.rows data))) := by
  set k := Archive.sink kind p.sheets with hk
  set written := p.rows data with hwritten
  set opened : Archive α β := { drafts := p.sheets.map fun s ↦ (s, first s) } with hopened
  have hbegin : k.call .begin {} = (.ok (), opened) := Archive.startAll_eq hkind {} p.sheets
  have hreached : ExportStep.reached (p.steps data) =
      .begin :: (written.map rowCall ++ closing (DataFile.fault? data.submissions)) := by
    rw [hwritten, rows_eq]
    exact p.reached_steps data
  have hrows : k.Accepts (written.map rowCall) opened := by
    refine Archive.accepts_rows hkind _ fun w hw ↦ ?_
    rw [hwritten, rows_eq] at hw
    rw [hopened, List.length_map]
    exact lt_of_mem_writesAfter hw
  have haccepts : k.Accepts (ExportStep.reached (p.steps data)) {} := by
    rw [hreached]
    refine ⟨by rw [hbegin], ?_⟩
    rw [hbegin, Sink.accepts_append]
    refine ⟨hrows, ?_⟩
    cases DataFile.fault? data.submissions with
    | some e => trivial
    | none => exact ⟨rfl, trivial⟩
  obtain ⟨houtcome, hstate⟩ := Sink.playAfter_of_accepts haccepts []
  refine ⟨congrArg (Except.map _) (houtcome.trans (by rw [fault?_steps])), fun hfault ↦ ?_⟩
  show (k.playAfter [] (p.steps data) {}).state.entries = _
  rw [hstate, hreached, Sink.settle, hbegin, Sink.settle_append, hfault]
  -- the archive is finished with the drafts that the rows left
  show (Archive.close kind (k.settle (written.map rowCall) opened)).entries = _
  rw [Archive.close, hk, Archive.entries_settle_rows, Archive.drafts_settle_rows]
  refine congrArg some (List.ext_getElem? fun i ↦ ?_)
  simp [hopened, entriesOf, Function.comp_def]

end ExportPlan

end SurveyExport
