import SurveyExport.Proofs.Export.Traces
import SurveyExport.Proofs.Row.Restored
import SurveyExport.Proofs.WideTable.Stored

/-!
# Exports of stored submissions

A submission and its stored form, in which every key is replaced by the form in which the store
keeps it, are exported alike: the same calls are made of every output
(`ExportPlan.recordCalls_store`), and the wide tables are equal (`run_store_and_table_store`).

The keys of instances are decoded when a submission is linked, all keys when a wide table is made,
and the keys of answers in a sheet's rows are restored from the xpaths that their section lists.
Only the last can fail: if two listed xpaths have the same stored key, the answer goes to the first
of them, whichever it was stored under (`rows_store_collidingRecord`).
-/

namespace SurveyExport

/-- A submission whose keys can be told from their stored forms: no key has a mark, and one that the
store refuses is the xpath of a question of its section, or holds instances. -/
def Record.StorableIn (form : Form) (r : Record) : Prop :=
  r.EveryAnswer (fun s k a ↦ KeyEscape.Unmarked k ∧ (KeyEscape.isRefused k →
    (∃ records, a = .instances records) ∨
      ∃ q, form.Holds s q ∧ q.type.isNote = false ∧ q.xpath = k)) form.name

/-- What is asked of a submission holds of the answers of every record in it. -/
theorem Record.StorableIn.of_at? {form : Form} {r i : Record} (h : r.StorableIn form)
    {place : Place} {s : String} (hi : r.at? form.name place = some (s, i)) :
    (∀ e ∈ i, KeyEscape.Unmarked e.1) ∧ ∀ e ∈ i, KeyEscape.isRefused e.1 →
      (∃ records, e.2 = .instances records) ∨
        ∃ q, form.Holds s q ∧ q.type.isNote = false ∧ q.xpath = e.1 :=
  ⟨fun e he ↦ (h place s i hi e he).1, fun e he ↦ (h place s i hi e he).2⟩

/-- A data file with all keys of its submissions as they are stored. -/
def DataFile.store (data : DataFile) : DataFile :=
  { data with submissions := data.submissions.map fun s ↦ s.map Record.store }

namespace ExportPlan

variable {form : Form} {options : Options} {naming : SheetNaming} {r : Record}

/-! ### Rows -/

/-- No key of a link is refused. -/
theorem ne_of_isRefused {k k' : String} (hk : KeyEscape.isRefused k) (hk' : k' ∈ MetaKey.linkKeys) :
    k' ≠ k := by
  have hlinks : ∀ k ∈ MetaKey.linkKeys, ¬ KeyEscape.isRefused k := by decide
  exact fun heq ↦ hlinks k' hk' (heq ▸ hk)

variable (hsections : ∀ s ∈ form.name :: form.repeats,
  (Codebook.sectionNamed form options s).RestoresUnmarked)

include hsections

/-- A row whose refused keys come from the answers of a record has the normal form of its stored
row. -/
theorem normalize_storedFrom (files : List Attachment) {row stored : Row} {s : String} {i : Record}
    (hs : s ∈ form.name :: form.repeats) (hrow : row.StoredFrom stored)
    (hcells : ∀ k c, row.get? k = some c → KeyEscape.isRefused k →
      (i.cells none files).get? k = some c)
    (hi : ∀ e ∈ i, KeyEscape.isRefused e.1 → (∃ records, e.2 = .instances records) ∨
      ∃ q, form.Holds s q ∧ q.type.isNote = false ∧ q.xpath = e.1) (book : Codebook) :
    stored.normalize book options (Codebook.sectionNamed form options s) =
      row.normalize book options (Codebook.sectionNamed form options s) := by
  refine Row.normalize_stored hrow (hsections s hs) (fun k hk hrefused ↦ ?_) book
  obtain ⟨c, hc⟩ := Option.ne_none_iff_exists'.1 hk
  obtain ⟨a, ha, hcell⟩ := Record.exists_mem_of_get?_cells (hcells k c hc hrefused)
  rcases hi _ ha hrefused with ⟨records, rfl⟩ | hq
  · cases hcell
  · exact hq

/-- The row of a stored submission has the normal form of the submission's row. -/
theorem normalize_own_store (hr : r.StorableIn form) (number : Nat) (counters : Counters)
    (book : Codebook) :
    (r.store.link none form.name number counters).1.own.normalize book options
        (Codebook.sectionNamed form options form.name) =
      (r.link none form.name number counters).1.own.normalize book options
        (Codebook.sectionNamed form options form.name) := by
  have hroot : r.at? form.name [] = some (form.name, r) := rfl
  obtain ⟨hunmarked, hquestions⟩ := hr.of_at? hroot
  rw [Record.own_link, Record.own_link, Record.attachments_store]
  refine normalize_storedFrom hsections r.attachments List.mem_cons_self
    (((Record.storedFrom_cells hunmarked _).insertLink (by decide) _).insertLink (by decide) _)
    (fun k c hcell hrefused ↦ ?_) hquestions book
  rwa [KeyMap.get?_insert, if_neg (ne_of_isRefused hrefused (by decide)), KeyMap.get?_insert,
    if_neg (ne_of_isRefused hrefused (by decide))] at hcell

/-- The rows of the instances in a stored submission have the normal forms of those in the
submission. -/
theorem map_normalize_rowsOf_store (hr : r.StorableIn form) {s : String}
    (hs : s ∈ form.name :: form.repeats) (number : Nat) (counters : Counters) (book : Codebook) :
    ((r.store.link none form.name number counters).1.rowsOf s).map
        (Row.normalize book options (Codebook.sectionNamed form options s)) =
      ((r.link none form.name number counters).1.rowsOf s).map
        (Row.normalize book options (Codebook.sectionNamed form options s)) := by
  have hvisits := Record.visitAnswers_store r form.name number 0 counters
    fun place s i hi ↦ (hr.of_at? hi).1
  rw [Record.rowsOf_link, Record.rowsOf_link, Record.visits, hvisits, Record.attachments_store,
    Visit.ofSection_map_store, List.map_map, List.map_map, List.map_map]
  refine List.map_congr_left fun v hv ↦ ?_
  obtain ⟨hv, hname⟩ := List.mem_filter.1 hv
  obtain ⟨-, -, -, -, hat⟩ := (Record.covered_visits r form.name number counters).sound v hv
  obtain ⟨hunmarked, hquestions⟩ := hr.of_at? hat
  rw [of_decide_eq_true hname] at hquestions
  refine normalize_storedFrom hsections r.attachments hs
    ((Record.storedFrom_links _ _ _).union (Record.storedFrom_cells hunmarked _))
    (fun k c hcell hrefused ↦ ?_) hquestions book
  -- a refused key is none of the links, so its cell comes from an answer
  have hne : ∀ k' ∈ MetaKey.linkKeys, k ≠ k' := fun k' hk' ↦ (ne_of_isRefused hrefused hk').symm
  rw [KeyMap.get?_union, Record.get?_links, if_neg (hne _ (by decide)),
    if_neg (hne _ (by decide)), if_neg (hne _ (by decide))] at hcell
  simpa using hcell

omit hsections

/-! ### Calls -/

/-- The rows of a section are written alike, if they have the same normal forms. -/
theorem sectionCalls_congr {s : String} {rows stored : List Row}
    (h : s ∈ form.name :: form.repeats →
      stored.map (Row.normalize (Codebook.made form options) options
        (Codebook.sectionNamed form options s)) =
      rows.map (Row.normalize (Codebook.made form options) options
        (Codebook.sectionNamed form options s))) :
    (madePlan form options naming).sectionCalls s stored =
      (madePlan form options naming).sectionCalls s rows := by
  by_cases hs : s ∈ form.name :: form.repeats
  · rw [sectionCalls_madePlan hs, sectionCalls_madePlan hs]
    have hcalls := congrArg (List.map fun row ↦ SinkCall.row (sheetOf form s)
      ((madePlan form options naming).nameParent row)) (h hs)
    rwa [List.map_map, List.map_map] at hcalls
  · rw [sectionCalls_eq_nil hs, sectionCalls_eq_nil hs]

variable (himages : options.includeImages = false)

include himages hsections

/-- **A stored submission is written as the submission is**, and the counters go on alike. -/
theorem recordCalls_store (hr : r.StorableIn form) (number : Nat) (counters : Counters) :
    (madePlan form options naming).recordCalls number counters r.store =
      (madePlan form options naming).recordCalls number counters r := by
  have hmedia : (madePlan form options naming).book.mediaRule?
      (madePlan form options naming).options = none := by
    show (if options.includeImages = true then _ else none) = none
    rw [himages]
    rfl
  rw [recordCalls, recordCalls, hmedia]
  refine Prod.ext (congrArg₂ (· ++ ·) (sectionCalls_congr fun _ ↦ ?_)
    (KeyMap.flatMap_toList_congr ?_ ?_ fun s ↦ sectionCalls_congr fun hs ↦ ?_)) ?_
  case refine_1 =>
    exact congrArg (fun row ↦ [row]) (normalize_own_store hsections hr number counters _)
  case refine_2 | refine_3 =>
    intro s
    simp only [sectionCalls]
    split <;> rfl
  case refine_4 =>
    exact map_normalize_rowsOf_store hsections hr hs number counters _
  case refine_5 =>
    show (r.store.link none form.name number counters).2 = (r.link none form.name number counters).2
    rw [Record.link_counters, Record.link_counters,
      Record.visitAnswers_store r form.name number 0 counters fun place s i hi ↦ (hr.of_at? hi).1]

/-- The steps for stored submissions are those for the submissions. -/
theorem submissionSteps_store {submissions : List (Except SubmissionError Record)}
    (h : ∀ r ∈ DataFile.readable submissions, r.StorableIn form) (done : Nat)
    (counters : Counters) :
    (madePlan form options naming).submissionSteps done counters
        (submissions.map fun s ↦ s.map Record.store) =
      (madePlan form options naming).submissionSteps done counters submissions := by
  induction submissions generalizing done counters with
  | nil => rfl
  | cons x rest ih =>
    cases x with
    | error e => rfl
    | ok r =>
      rw [List.map_cons]
      show submissionSteps _ done counters (.ok r.store :: _) = _
      rw [submissionSteps, submissionSteps,
        recordCalls_store hsections himages (h r List.mem_cons_self),
        ih fun r hr ↦ h r (List.mem_cons_of_mem _ hr)]

end ExportPlan

/-- **Stored submissions are exported as the submissions are**, and their wide tables are equal. -/
theorem run_store_and_table_store {form : Form} {options : Options} {book : Codebook}
    (hbook : Codebook.ofForm form options = .ok book) :
    (options.includeImages = false → (∀ s ∈ book.sections, s.RestoresUnmarked) →
      ∀ (naming : SheetNaming) (data : DataFile),
        (∀ r ∈ DataFile.readable data.submissions, r.StorableIn form) →
        ∀ {σ ε : Type} (k : Sink σ ε) (s : σ),
          (ExportPlan.make book options naming).run data.store k s =
            (ExportPlan.make book options naming).run data k s) ∧
    ∀ records : List Record, (∀ r ∈ records, r.StorableIn form) →
      WideTable.ofRecords book options (records.map Record.store) =
        WideTable.ofRecords book options records := by
  obtain ⟨rfl, -⟩ := Codebook.ofForm_eq_ok_iff.1 hbook
  refine ⟨fun himages hsections naming data h σ ε k s ↦ ?_, fun records h ↦ ?_⟩
  · have hnames : ∀ s ∈ form.name :: form.repeats,
        (Codebook.sectionNamed form options s).RestoresUnmarked := by
      rw [Codebook.sections_made] at hsections
      exact List.forall_mem_map.1 hsections
    have hsteps : (ExportPlan.madePlan form options naming).steps data.store =
        (ExportPlan.madePlan form options naming).steps data := by
      rw [ExportPlan.steps, ExportPlan.steps, DataFile.store,
        ExportPlan.submissionSteps_store hnames himages h]
    show (ExportPlan.madePlan form options naming).run data.store k s =
      (ExportPlan.madePlan form options naming).run data k s
    rw [ExportPlan.run, ExportPlan.run, hsteps]
    simp [DataFile.store]
  · exact WideTable.ofRecords_store _ _ fun r hr place s i hi ↦ ((h r hr).of_at? hi).1

/-- A form whose sections list stored keys, among them one below a repeated group that has one. -/
def pointedForm : Form where
  name := "visit"
  children := [
    .question { name := "a.b", xpath := "a.b", type := .text },
    .group .repeated "r.s" "r.s" none [
      .question { name := "$n", xpath := "r.s/$n", type := .text },
      .question { name := "m.n", xpath := "r.s/m.n", type := .text }]]

/-- A submission of this form. -/
def pointedRecord : Record := [
  ("r.s", .instances [[("r.s/m.n", .scalar (.text "y"))], []]), ("a.b", .scalar (.text "x"))]

/-- The submission is exported as its stored form is. -/
theorem run_store_pointedRecord :
    Codebook.ofForm pointedForm {} = .ok (Codebook.made pointedForm {}) ∧
      (∀ s ∈ (Codebook.made pointedForm {}).sections, s.RestoresUnmarked) ∧
      pointedRecord.StorableIn pointedForm ∧
      (ExportPlan.make (Codebook.made pointedForm {}) {} .file).run
          (DataFile.store ⟨none, [.ok pointedRecord]⟩) Sink.journal [] =
        (ExportPlan.make (Codebook.made pointedForm {}) {} .file).run ⟨none, [.ok pointedRecord]⟩
          Sink.journal [] ∧
      WideTable.ofRecords (Codebook.made pointedForm {}) {} [pointedRecord.store] =
        WideTable.ofRecords (Codebook.made pointedForm {}) {} [pointedRecord] := by
  have hbook : Codebook.ofForm pointedForm {} = .ok (Codebook.made pointedForm {}) :=
    Codebook.ofForm_eq_ok_iff.2 ⟨rfl, by decide, by decide, by decide, by decide⟩
  have hnodup : ∀ s ∈ (Codebook.made pointedForm {}).sections,
      (s.storedKeys.map (·.2)).Nodup := by decide
  have hsections : ∀ s ∈ (Codebook.made pointedForm {}).sections, s.RestoresUnmarked :=
    fun s hs ↦ Section.restoresUnmarked_of_nodup (hnodup s hs)
  have hunmarked : ∀ k ∈ ["a.b", "r.s", "r.s/m.n"], KeyEscape.Unmarked k := by
    have hequals : ∀ k ∈ ["a.b", "r.s", "r.s/m.n"], '=' ∉ k.toList := by decide
    exact fun k hk ↦ KeyEscape.unmarked_of_not_mem (hequals k hk)
  have hdecode : KeyEscape.decode "r.s" = "r.s" := by decide
  have houter : pointedForm.Holds "visit" { name := "a.b", xpath := "a.b", type := .text } :=
    .top List.mem_cons_self
  have hinner : pointedForm.Holds "r.s" { name := "m.n", xpath := "r.s/m.n", type := .text } :=
    .repeated (List.mem_cons_of_mem _ List.mem_cons_self)
      (.top (List.mem_cons_of_mem _ List.mem_cons_self))
  have hstorable : pointedRecord.StorableIn pointedForm := by
    refine Record.everyAnswer_cons.2 ⟨⟨⟨hunmarked _ (by decide), fun _ ↦ .inl ⟨_, rfl⟩⟩, ?_⟩, ?_⟩
    · rintro records heq i hi
      obtain rfl := Answer.instances.inj heq
      rw [hdecode]
      rcases List.mem_cons.1 hi with rfl | hi
      · exact Record.everyAnswer_cons.2 ⟨⟨⟨hunmarked _ (by decide),
          fun _ ↦ .inr ⟨_, hinner, rfl, rfl⟩⟩, fun _ ↦ nofun⟩, Record.everyAnswer_nil⟩
      · obtain rfl := List.mem_singleton.1 hi
        exact Record.everyAnswer_nil
    · exact Record.everyAnswer_cons.2 ⟨⟨⟨hunmarked _ (by decide),
        fun _ ↦ .inr ⟨_, houter, rfl, rfl⟩⟩, fun _ ↦ nofun⟩, Record.everyAnswer_nil⟩
  have hall : ∀ r ∈ [pointedRecord], r.StorableIn pointedForm := fun r hr ↦
    List.mem_singleton.1 hr ▸ hstorable
  obtain ⟨hrun, htable⟩ := run_store_and_table_store hbook
  exact ⟨hbook, hsections, hstorable,
    hrun rfl hsections .file ⟨none, [.ok pointedRecord]⟩ hall Sink.journal [], htable _ hall⟩

/-- A form in which the xpath of a question is marked and has the stored key of the next one. -/
def collidingForm : Form where
  name := "visit"
  children := [
    .question { name := "aLg==b.c", xpath := "aLg==b.c", type := .text },
    .question { name := "a.b.c", xpath := "a.b.c", type := .text }]

/-- A submission that answers the second question. -/
def collidingRecord : Record := [("a.b.c", .scalar (.text "v"))]

/-- An answer is moved to another question, if that is listed before with the same stored key. -/
theorem rows_store_collidingRecord :
    Codebook.ofForm collidingForm {} = .ok (Codebook.made collidingForm {}) ∧
      collidingRecord.StorableIn collidingForm ∧
      (∃ s ∈ (Codebook.made collidingForm {}).sections, ∃ c ∈ s.columns, c.key = "a.b.c") ∧
      ((ExportPlan.make (Codebook.made collidingForm {}) {} .file).rows
        ⟨none, [.ok collidingRecord]⟩).map
          (fun w ↦ (w.1, (w.2.get? "a.b.c").map Cell.display)) = [(0, some "v")] ∧
      ((ExportPlan.make (Codebook.made collidingForm {}) {} .file).rows
        (DataFile.store ⟨none, [.ok collidingRecord]⟩)).map
          (fun w ↦ (w.1, (w.2.get? "a.b.c").map Cell.display)) = [(0, none)] := by
  have hbook : Codebook.ofForm collidingForm {} = .ok (Codebook.made collidingForm {}) :=
    Codebook.ofForm_eq_ok_iff.2 ⟨rfl, by decide, by decide, by decide, by decide⟩
  have hholds : collidingForm.Holds "visit" { name := "a.b.c", xpath := "a.b.c", type := .text } :=
    .top (List.mem_cons_of_mem _ List.mem_cons_self)
  have hunmarked : KeyEscape.Unmarked "a.b.c" := KeyEscape.unmarked_of_not_mem (by decide)
  refine ⟨hbook, ?_, by decide, by decide, by decide⟩
  exact Record.everyAnswer_cons.2 ⟨⟨⟨hunmarked, fun _ ↦ .inr ⟨_, hholds, rfl, rfl⟩⟩, fun _ ↦ nofun⟩,
    Record.everyAnswer_nil⟩

end SurveyExport
