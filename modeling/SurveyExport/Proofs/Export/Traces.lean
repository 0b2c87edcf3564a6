import SurveyExport.Proofs.Export.Writes
import SurveyExport.Proofs.Form.Paths
import SurveyExport.Proofs.Linkage.Numbering
import SurveyExport.Proofs.Submission.Nesting

/-!
# Where the rows of an export come from

Every row that an export writes is the row of a record in one of the submissions: of the submission
itself or of an instance in it. A `Trace` names the submission, the place of the record in it, and
the row before it takes its normal form; `ExportPlan.writesAfter_eq_filter` ties the traces to what
is written.

* `Record.mem_tracesAfter_iff`, `Record.nodup_tracesAfter`: every record of every submission has one
  trace.
* `Record.exists_isAround`: the trace of an instance names a trace of the record around it.
* `Record.pairwise_not_isAround`: that trace stands earlier.
* `Record.pairwise_number_tracesAfter`: the numbers of a section increase over all submissions.

The last two hold of submissions that nest as the form declares. They are proved for one submission
first, from the order of the sections and the numbers of its visits, and carried over the others by
the counters.
-/

namespace SurveyExport

/-- Where a row comes from: a record in one of the submissions. -/
structure Trace where
  /-- The position of the submission in the export, from 0. -/
  submission : Nat
  /-- The place of the record in the submission. -/
  place : Place
  sectionName : String
  /-- The number of the record among those of its section. -/
  number : Nat
  /-- The row before it takes its normal form. -/
  raw : Row

namespace Trace

/-- The trace of a submission that comes after `done` others. -/
def ofRecord (media : Option MediaRule) (name : String) (done : Nat) (r : Record) : Trace where
  submission := done
  place := []
  sectionName := name
  number := done + 1
  raw := ((r.cells media r.attachments).insert MetaKey.index (.int (done + 1 : Nat))).insert
    MetaKey.parentIndex (.int (-1))

/-- The trace of an instance that is visited in such a submission. -/
def ofVisit (media : Option MediaRule) (files : List Attachment) (done : Nat) (v : Visit) :
    Trace where
  submission := done
  place := v.place
  sectionName := v.sectionName
  number := v.number
  raw := v.row media files

/-- `u.IsAround t` says that `u` is the trace of a record directly around that of `t`. -/
def IsAround (u t : Trace) : Prop :=
  u.submission = t.submission ∧ ∃ step, t.place = u.place ++ [step]

end Trace

namespace Record

/-- The traces of a submission that comes after `done` others: its own, and then those of the
instances in it, section by section. -/
def traces (media : Option MediaRule) (name : String) (done : Nat) (counters : Counters)
    (r : Record) : List Trace :=
  .ofRecord media name done r ::
    (r.link media name (done + 1 : Nat) counters).1.repeats.keys.flatMap fun s ↦
      (Visit.ofSection s (r.visits name (done + 1 : Nat) counters)).map
        (.ofVisit media r.attachments done)

/-- The traces of submissions that come after `done` others. -/
def tracesAfter (media : Option MediaRule) (name : String) (done : Nat) (counters : Counters) :
    List Record → List Trace
  | [] => []
  | r :: rest =>
    r.traces media name done counters ++
      tracesAfter media name (done + 1) (r.link media name (done + 1 : Nat) counters).2 rest

/-- The visits of a submission go to repeated groups. -/
theorem NestsIn.mem_repeats_of_mem_visits {form : Form} {r : Record} (h : r.NestsIn form)
    {index : Int} {counters : Counters} {v : Visit} (hv : v ∈ r.visits form.name index counters) :
    v.sectionName ∈ form.repeats := by
  obtain ⟨step, rest, hplace, -, hat⟩ :=
    (covered_visits r form.name index counters).sound v hv
  exact h.mem_repeats (by rw [hplace]; exact List.cons_ne_nil _ _) hat

end Record

namespace ExportPlan

/-- The traces of the rows that are written for submissions. -/
def traces (p : ExportPlan) (records : List Record) : List Trace :=
  Record.tracesAfter (p.book.mediaRule? p.options) p.rootName 0 KeyMap.empty records

/-- The sheet and the row that are written for a trace. -/
def write (p : ExportPlan) (t : Trace) : Nat × Row :=
  (sheetOf p.book.form t.sectionName,
    p.nameParent (t.raw.normalize p.book p.options
      (Codebook.sectionNamed p.book.form p.options t.sectionName)))

variable {form : Form} {options : Options} {naming : SheetNaming}

/-! ### Traces and rows -/

theorem write_madePlan (t : Trace) : (madePlan form options naming).write t =
    (sheetOf form t.sectionName, (madePlan form options naming).nameParent
      (t.raw.normalize (Codebook.made form options) options
        (Codebook.sectionNamed form options t.sectionName))) := rfl

/-- The rows of a section go to its sheet, if both are found. -/
theorem sectionCalls_of_eq_some {p : ExportPlan} {name : String} {i : Nat} {s : Section}
    (hidx : p.sheets.findIdx? (·.sectionName == name) = some i)
    (hsection : p.book.section? name = some s) (rows : List Row) :
    p.sectionCalls name rows = rows.map fun row ↦
      .row i (p.nameParent (row.normalize p.book p.options s)) := by
  rw [sectionCalls, hidx, hsection]

/-- The rows of a section that the form declares go to its sheet. -/
theorem sectionCalls_madePlan {s : String} (hs : s ∈ form.name :: form.repeats) (rows : List Row) :
    (madePlan form options naming).sectionCalls s rows = rows.map fun row ↦
      .row (sheetOf form s) ((madePlan form options naming).nameParent
        (row.normalize (Codebook.made form options) options
          (Codebook.sectionNamed form options s))) := by
  have hidx := findIdx?_sheets form options naming s
  have hsection := Codebook.section?_made form options s
  rw [if_pos hs] at hidx hsection
  exact sectionCalls_of_eq_some hidx hsection rows

/-- A section that the form does not declare is not written. -/
theorem sectionCalls_eq_nil {s : String} (hs : s ∉ form.name :: form.repeats) (rows : List Row) :
    (madePlan form options naming).sectionCalls s rows = [] := by
  rw [sectionCalls, findIdx?_sheets, if_neg hs]

/-- The calls for the rows of a declared section write their normal forms on its sheet. -/
theorem filterMap_written?_sectionCalls {s : String} (hs : s ∈ form.name :: form.repeats)
    (rows : List Row) :
    ((madePlan form options naming).sectionCalls s rows).filterMap SinkCall.written? =
      rows.map fun row ↦ (sheetOf form s, (madePlan form options naming).nameParent
        (row.normalize (Codebook.made form options) options
          (Codebook.sectionNamed form options s))) := by
  rw [sectionCalls_madePlan hs, List.filterMap_map, ← List.filterMap_eq_map]
  rfl

/-- The calls for a submission write the rows of its traces in declared sections. -/
theorem filterMap_written?_recordCalls (done : Nat) (counters : Counters) (r : Record) :
    ((madePlan form options naming).recordCalls (done + 1) counters r).1.filterMap
        SinkCall.written? =
      ((r.traces ((Codebook.made form options).mediaRule? options) form.name done counters).filter
        fun t ↦ t.sectionName ∈ form.name :: form.repeats).map
          (madePlan form options naming).write := by
  set media := (Codebook.made form options).mediaRule? options with hmedia
  set linked := (r.link media form.name (done + 1 : Nat) counters).1 with hlinked
  have hroot : (Trace.ofRecord media form.name done r).sectionName ∈ form.name :: form.repeats :=
    List.mem_cons_self
  show ((madePlan form options naming).sectionCalls form.name [linked.own] ++
    linked.repeats.toList.flatMap fun e ↦
      (madePlan form options naming).sectionCalls e.1 e.2).filterMap SinkCall.written? =
    (List.filter _ (.ofRecord media form.name done r ::
      linked.repeats.keys.flatMap fun s ↦
        (Visit.ofSection s (r.visits form.name (done + 1 : Nat) counters)).map
          (.ofVisit media r.attachments done))).map (madePlan form options naming).write
  rw [List.filter_cons, if_pos (decide_eq_true hroot), List.map_cons, List.filterMap_append,
    filterMap_written?_sectionCalls List.mem_cons_self, hlinked, Record.own_link, ← hlinked,
    List.filter_flatMap, List.map_flatMap, KeyMap.keys, List.flatMap_map, List.filterMap_flatMap]
  refine congrArg₂ (· ++ ·) rfl (List.flatMap_congr fun e he ↦ ?_)
  have hrows : e.2 = (Visit.ofSection e.1 (r.visits form.name (done + 1 : Nat) counters)).map
      (Visit.row media r.attachments) := by
    rw [← Record.rowsOf_link, ← hlinked, LinkedRows.rowsOf, KeyMap.get?_eq_some_iff.2 he]
    rfl
  have hname : ∀ v ∈ Visit.ofSection e.1 (r.visits form.name (done + 1 : Nat) counters),
      (Trace.ofVisit media r.attachments done v).sectionName = e.1 := fun v hv ↦
    of_decide_eq_true (List.mem_filter.1 hv).2
  by_cases hs : e.1 ∈ form.name :: form.repeats
  · rw [filterMap_written?_sectionCalls hs, hrows, List.map_map, List.filter_eq_self.2 ?_,
      List.map_map]
    · refine List.map_congr_left fun v hv ↦ ?_
      rw [Function.comp_apply, Function.comp_apply, write_madePlan, hname v hv]
      rfl
    · simp only [List.forall_mem_map]
      exact fun v hv ↦ decide_eq_true ((hname v hv).symm ▸ hs)
  · rw [sectionCalls_eq_nil hs, List.filter_eq_nil_iff.2 ?_]
    · rfl
    · simp only [List.forall_mem_map]
      exact fun v hv hmem ↦ hs (hname v hv ▸ of_decide_eq_true hmem)

/-- **The rows written** for submissions are those of their traces in declared sections. -/
theorem writesAfter_eq_filter (records : List Record) (done : Nat) (counters : Counters) :
    (madePlan form options naming).writesAfter done counters records =
      ((Record.tracesAfter ((Codebook.made form options).mediaRule? options) form.name done counters
        records).filter fun t ↦ t.sectionName ∈ form.name :: form.repeats).map
          (madePlan form options naming).write := by
  induction records generalizing done counters with
  | nil => rfl
  | cons r rest ih =>
    rw [writesAfter, Record.tracesAfter, List.filter_append, List.map_append, ih,
      filterMap_written?_recordCalls]
    rfl

end ExportPlan

namespace Record

variable {media : Option MediaRule} {form : Form} {name : String} {done : Nat} {counters : Counters}
  {r : Record} {records : List Record}

/-! ### The traces of a submission -/

/-- Behind the trace of a submission stand those of its visits. -/
theorem mem_tail_traces_iff {t : Trace} :
    t ∈ (r.traces media name done counters).tail ↔
      ∃ v ∈ r.visits name (done + 1 : Nat) counters, t = .ofVisit media r.attachments done v := by
  rw [traces, List.tail_cons, List.mem_flatMap]
  constructor
  · rintro ⟨s, -, ht⟩
    obtain ⟨v, hv, rfl⟩ := List.mem_map.1 ht
    exact ⟨v, (List.mem_filter.1 hv).1, rfl⟩
  · rintro ⟨v, hv, rfl⟩
    have hmem : v ∈ Visit.ofSection v.sectionName (r.visits name (done + 1 : Nat) counters) :=
      List.mem_filter.2 ⟨hv, by simp⟩
    refine ⟨v.sectionName, ?_, List.mem_map_of_mem hmem⟩
    -- the visit has a row, so there are rows under its section
    have hrow := List.mem_map_of_mem (f := Visit.row media r.attachments) hmem
    rw [← rowsOf_link, LinkedRows.rowsOf] at hrow
    cases hget : (r.link media name (done + 1 : Nat) counters).1.repeats.get? v.sectionName with
    | none =>
      rw [hget] at hrow
      cases hrow
    | some rows => exact KeyMap.mem_keys_iff.2 ⟨rows, hget⟩

theorem mem_traces_iff {t : Trace} :
    t ∈ r.traces media name done counters ↔ t = .ofRecord media name done r ∨
      ∃ v ∈ r.visits name (done + 1 : Nat) counters, t = .ofVisit media r.attachments done v :=
  List.mem_cons.trans (or_congr_right mem_tail_traces_iff)

/-- A trace leads to a record of its section. -/
theorem at?_of_mem_traces {t : Trace} (h : t ∈ r.traces media name done counters) :
    ∃ i, r.at? name t.place = some (t.sectionName, i) := by
  rcases mem_traces_iff.1 h with rfl | ⟨v, hv, rfl⟩
  · exact ⟨r, rfl⟩
  · obtain ⟨step, rest, -, -, hat⟩ := (covered_visits r name _ counters).sound v hv
    exact ⟨v.answers, hat⟩

/-- The traces of instances stand section by section, and by number within a section. -/
theorem pairwise_tail_traces (media : Option MediaRule) (name : String) (done : Nat)
    (counters : Counters) (r : Record) : (r.traces media name done counters).tail.Pairwise fun t u ↦
    t.sectionName < u.sectionName ∨ t.sectionName = u.sectionName ∧ t.number < u.number := by
  have hname : ∀ s, ∀ t ∈ (Visit.ofSection s (r.visits name (done + 1 : Nat) counters)).map
      (Trace.ofVisit media r.attachments done), t.sectionName = s := by
    intro s t ht
    obtain ⟨v, hv, rfl⟩ := List.mem_map.1 ht
    exact of_decide_eq_true (List.mem_filter.1 hv).2
  rw [traces, List.tail_cons, List.pairwise_flatMap]
  refine ⟨fun s _ ↦ ?_, (KeyMap.keys_sorted _).imp fun {s s'} hs t ht u hu ↦ ?_⟩
  · have hnumbers : (List.range' (counters.count s + 1)
        (Visit.ofSection s (r.visits name (done + 1 : Nat) counters)).length).Pairwise (· < ·) :=
      List.pairwise_lt_range'
    have heq := (numbered_visitAnswers r name (done + 1 : Nat) 0 counters s).1
    rw [visits, ← heq, List.pairwise_map] at hnumbers
    rw [List.pairwise_map]
    refine hnumbers.imp_of_mem fun {v w} hv hw hlt ↦ .inr ⟨?_, hlt⟩
    rw [hname s _ (List.mem_map_of_mem hv), hname s _ (List.mem_map_of_mem hw)]
  · left
    rwa [hname s t ht, hname s' u hu]

/-- The instances in a submission are numbered between the counters before and after it. -/
theorem number_bounds {v : Visit} (hv : v ∈ r.visits name (done + 1 : Nat) counters) :
    counters.count v.sectionName < v.number ∧
      v.number ≤ (r.link media name (done + 1 : Nat) counters).2.count v.sectionName := by
  obtain ⟨hnumbers, hcount⟩ :=
    numbered_visitAnswers r name (done + 1 : Nat) 0 counters v.sectionName
  have hmem : v.number ∈ (Visit.ofSection v.sectionName
      (r.visits name (done + 1 : Nat) counters)).map (·.number) :=
    List.mem_map_of_mem (List.mem_filter.2 ⟨hv, by simp⟩)
  rw [visits, hnumbers, List.mem_range'_1] at hmem
  rw [link_counters, hcount]
  omega

/-- The counters do not go back. -/
theorem count_le_count_link (s : String) :
    counters.count s ≤ (r.link media name (done + 1 : Nat) counters).2.count s := by
  rw [link_counters, (numbered_visitAnswers r name (done + 1 : Nat) 0 counters s).2]
  exact Nat.le_add_right _ _

/-! ### The traces of all submissions -/

/-- A trace is one of those of a submission, all of which are listed. -/
theorem exists_of_mem_tracesAfter {t : Trace}
    (h : t ∈ tracesAfter media name done counters records) :
    ∃ n, ∃ r : Record, ∃ c, records[n]? = some r ∧ t ∈ r.traces media name (done + n) c ∧
      r.traces media name (done + n) c ⊆ tracesAfter media name done counters records := by
  induction records generalizing done counters with
  | nil => cases h
  | cons r rest ih =>
    rcases List.mem_append.1 h with h | h
    · exact ⟨0, r, counters, rfl, h, List.subset_append_left _ _⟩
    · obtain ⟨n, r', c, hr, ht, hsub⟩ := ih h
      rw [Nat.add_right_comm, Nat.add_assoc] at ht hsub
      exact ⟨n + 1, r', c, hr, ht, List.Subset.trans hsub (List.subset_append_right _ _)⟩

/-- The traces of submissions that nest go to declared sections. -/
theorem sectionName_mem_of_mem_tracesAfter (hnests : ∀ r ∈ records, r.NestsIn form) {t : Trace}
    (ht : t ∈ tracesAfter media form.name done counters records) :
    t.sectionName ∈ form.name :: form.repeats := by
  obtain ⟨n, r, c, hr, ht, -⟩ := exists_of_mem_tracesAfter ht
  rcases mem_traces_iff.1 ht with rfl | ⟨v, hv, rfl⟩
  · exact List.mem_cons_self
  · exact List.mem_cons_of_mem _
      ((hnests r (List.mem_of_getElem? hr)).mem_repeats_of_mem_visits hv)

/-- The traces of every submission are listed. -/
theorem exists_traces_subset (media : Option MediaRule) (name : String) (done : Nat)
    (counters : Counters) {n : Nat} (h : records[n]? = some r) :
    ∃ c, r.traces media name (done + n) c ⊆ tracesAfter media name done counters records := by
  induction records generalizing done counters n with
  | nil => cases h
  | cons r' rest ih =>
    cases n with
    | zero =>
      obtain rfl := Option.some.inj h
      exact ⟨counters, List.subset_append_left _ _⟩
    | succ n =>
      obtain ⟨c, hsub⟩ := ih (done + 1) (r'.link media name (done + 1 : Nat) counters).2 h
      rw [Nat.add_right_comm, Nat.add_assoc] at hsub
      exact ⟨c, List.Subset.trans hsub (List.subset_append_right _ _)⟩

/-- Traces carry the positions of their submissions. -/
theorem submission_of_mem_traces {t : Trace} (h : t ∈ r.traces media name done counters) :
    t.submission = done := by
  rcases mem_traces_iff.1 h with rfl | ⟨v, -, rfl⟩ <;> rfl

/-- What holds of the traces of each submission, and of traces of different ones, holds of all. -/
theorem pairwise_tracesAfter {R : Trace → Trace → Prop}
    (hin : ∀ r ∈ records, ∀ done counters, (r.traces media name done counters).Pairwise R)
    (hacross : ∀ t u : Trace, t.submission < u.submission → R t u) (done : Nat)
    (counters : Counters) : (tracesAfter media name done counters records).Pairwise R := by
  induction records generalizing done counters with
  | nil => exact .nil
  | cons r rest ih =>
    rw [tracesAfter, List.pairwise_append]
    refine ⟨hin r List.mem_cons_self _ _, ih (fun r hr ↦ hin r (List.mem_cons_of_mem _ hr)) _ _,
      fun t ht u hu ↦ hacross t u ?_⟩
    obtain ⟨n, r', c, -, hu, -⟩ := exists_of_mem_tracesAfter hu
    rw [submission_of_mem_traces ht, submission_of_mem_traces hu]
    omega

/-! ### One trace for each record -/

/-- No two traces of a submission have the same place. -/
theorem pairwise_place_traces :
    (r.traces media name done counters).Pairwise fun t u ↦ t.place ≠ u.place := by
  have hcovered := covered_visits r name (done + 1 : Nat) counters
  rw [traces, List.pairwise_cons, List.pairwise_flatMap]
  refine ⟨fun t ht hplace ↦ ?_, fun s _ ↦ ?_,
    (KeyMap.keys_sorted _).imp fun {s s'} hs t ht u hu h ↦ ?_⟩
  · obtain ⟨s, -, ht⟩ := List.mem_flatMap.1 ht
    obtain ⟨v, hv, rfl⟩ := List.mem_map.1 ht
    obtain ⟨step, rest, hv, -⟩ := hcovered.sound v (List.mem_filter.1 hv).1
    exact List.cons_ne_nil _ _ (hv.symm.trans hplace.symm)
  · rw [List.pairwise_map]
    exact (List.pairwise_map.1 hcovered.nodup).sublist List.filter_sublist
  · -- the place decides on the section, and the sections differ
    obtain ⟨v, hv, rfl⟩ := List.mem_map.1 ht
    obtain ⟨w, hw, rfl⟩ := List.mem_map.1 hu
    obtain ⟨hv, hvs⟩ := List.mem_filter.1 hv
    obtain ⟨hw, hws⟩ := List.mem_filter.1 hw
    obtain ⟨-, -, -, -, hatv⟩ := hcovered.sound v hv
    obtain ⟨-, -, -, -, hatw⟩ := hcovered.sound w hw
    have hplace : v.place = w.place := h
    rw [hplace, hatw] at hatv
    have hname : w.sectionName = v.sectionName := (Prod.mk.inj (Option.some.inj hatv)).1
    rw [of_decide_eq_true hvs, of_decide_eq_true hws] at hname
    exact String.lt_irrefl s (hname ▸ hs)

/-- **Every record of every submission has one trace.** -/
theorem nodup_tracesAfter (done : Nat) (counters : Counters) :
    ((tracesAfter media name done counters records).map fun t ↦ (t.submission, t.place)).Nodup := by
  refine List.pairwise_map.2 (pairwise_tracesAfter (fun r _ done counters ↦ ?_) ?_ done counters)
  · exact pairwise_place_traces.imp fun hne heq ↦ hne (Prod.mk.inj heq).2
  · exact fun t u hlt heq ↦ Nat.ne_of_lt hlt (Prod.mk.inj heq).1

/-- A place in a submission has a trace just if there is a record. -/
theorem mem_tracesAfter_iff {n : Nat} {place : Place} :
    (∃ t ∈ tracesAfter media name done counters records,
      t.submission = done + n ∧ t.place = place) ↔
      ∃ r, records[n]? = some r ∧ ∃ c, r.at? name place = some c := by
  constructor
  · rintro ⟨t, ht, hsub, rfl⟩
    obtain ⟨m, r, c, hr, ht, -⟩ := exists_of_mem_tracesAfter ht
    rw [submission_of_mem_traces ht, Nat.add_left_cancel_iff] at hsub
    obtain ⟨i, hat⟩ := at?_of_mem_traces ht
    exact ⟨r, hsub ▸ hr, _, hat⟩
  · rintro ⟨r, hr, c, hat⟩
    obtain ⟨counters', hsub⟩ := exists_traces_subset media name done counters hr
    cases place with
    | nil => exact ⟨_, hsub (mem_traces_iff.2 (.inl rfl)), rfl, rfl⟩
    | cons step rest =>
      obtain ⟨v, hv, hplace⟩ :=
        (covered_visits r name _ counters').complete step rest c trivial hat
      exact ⟨_, hsub (mem_traces_iff.2 (.inr ⟨v, hv, rfl⟩)), rfl, hplace⟩

/-! ### The record around an instance -/

/-- The trace of an instance holds its answers, over the links to a trace of the record around. -/
theorem exists_isAround {t : Trace} (ht : t ∈ r.traces media name done counters)
    (hplace : t.place ≠ []) : ∃ u ∈ r.traces media name done counters, u.IsAround t ∧
      ∃ i, r.at? name t.place = some (t.sectionName, i) ∧
        t.raw = (links t.number u.number u.sectionName).union (i.cells media r.attachments) := by
  rcases mem_traces_iff.1 ht with rfl | ⟨v, hv, rfl⟩
  · exact absurd rfl hplace
  · obtain ⟨step, rest, -, -, hat⟩ := (covered_visits r name _ counters).sound v hv
    -- an instance in the submission itself has the trace of the submission around it
    rcases hasParent_visitAnswers r name (done + 1 : Nat) 0 counters v hv with
      ⟨step, hv', hs, hn⟩ | ⟨w, hw, step, hv', hs, hn⟩
    · refine ⟨_, mem_traces_iff.2 (.inl rfl), ⟨rfl, step, hv'⟩, v.answers, hat, ?_⟩
      show (links v.number v.parentNumber v.parentSection).union _ = _
      rw [hs, hn]
      rfl
    · refine ⟨_, mem_traces_iff.2 (.inr ⟨w, hw, rfl⟩), ⟨rfl, step, hv'⟩, v.answers, hat, ?_⟩
      show (links v.number v.parentNumber v.parentSection).union _ = _
      rw [hs, hn]
      rfl

/-- The record around an instance has its trace earlier, in a form whose xpaths are nested. -/
theorem pairwise_not_isAround (hform : Node.NestedAll "" form.children)
    (hroot : form.name ∉ form.repeats) (hrecords : ∀ r ∈ records, r.NestsIn form) (done : Nat)
    (counters : Counters) :
    (tracesAfter media form.name done counters records).Pairwise fun t u ↦ ¬ u.IsAround t := by
  refine pairwise_tracesAfter (fun r hr done counters ↦ ?_)
    (fun t u hlt (h : u.IsAround t) ↦ Nat.ne_of_gt hlt h.1) done counters
  have hnests := hrecords r hr
  have htail := pairwise_tail_traces media form.name done counters r
  refine List.pairwise_cons.2 ⟨?_, htail.imp_of_mem fun {t u} ht hu hlt h ↦ ?_⟩
  · rintro u - ⟨-, step, hplace⟩
    exact List.cons_ne_nil _ _ (List.append_eq_nil_iff.1 hplace.symm).2
  · -- the section of `u` would be around that of `t`, and so come before it
    obtain ⟨v, hv, rfl⟩ := mem_tail_traces_iff.1 hu
    obtain ⟨i, hi⟩ := at?_of_mem_traces (List.mem_of_mem_tail hu)
    obtain ⟨j, hj⟩ := at?_of_mem_traces (List.mem_of_mem_tail ht)
    obtain ⟨-, step, hplace⟩ := h
    rw [hplace] at hj
    have hrepeat : v.sectionName ∈ form.repeats := hnests.mem_repeats_of_mem_visits hv
    have hbefore := Form.lt_of_encloses hform (fun heq ↦ hroot (heq ▸ hrepeat))
      (hnests.of_at? hi hj)
    rcases hlt with hlt | ⟨heq, -⟩
    · exact String.lt_asymm hlt hbefore
    · exact String.lt_irrefl _ (heq ▸ hbefore)

/-! ### Numbers over all submissions -/

/-- The number of the last record of a section, after `done` submissions. -/
def lastNumber (name : String) (done : Nat) (counters : Counters) (s : String) : Nat :=
  if s = name then done else counters.count s

theorem lastNumber_le (s : String) : lastNumber name done counters s ≤
    lastNumber name (done + 1) (r.link media name (done + 1 : Nat) counters).2 s := by
  simp only [lastNumber]
  split
  · exact Nat.le_succ _
  · exact count_le_count_link s

/-- The records of a submission are numbered on from those before. -/
theorem number_of_mem_traces (hroot : form.name ∉ form.repeats) (hr : r.NestsIn form) {t : Trace}
    (ht : t ∈ r.traces media form.name done counters) :
    lastNumber form.name done counters t.sectionName < t.number ∧ t.number ≤
      lastNumber form.name (done + 1) (r.link media form.name (done + 1 : Nat) counters).2
        t.sectionName := by
  rcases mem_traces_iff.1 ht with rfl | ⟨v, hv, rfl⟩
  · simp [lastNumber, Trace.ofRecord]
  · have hne : v.sectionName ≠ form.name := fun heq ↦
      hroot (heq ▸ hr.mem_repeats_of_mem_visits hv)
    show lastNumber _ _ _ v.sectionName < v.number ∧ v.number ≤ lastNumber _ _ _ v.sectionName
    rw [lastNumber, lastNumber, if_neg hne, if_neg hne]
    exact number_bounds hv

theorem lt_number_of_mem_tracesAfter (hroot : form.name ∉ form.repeats)
    (hrecords : ∀ r ∈ records, r.NestsIn form) {t : Trace}
    (ht : t ∈ tracesAfter media form.name done counters records) :
    lastNumber form.name done counters t.sectionName < t.number := by
  induction records generalizing done counters with
  | nil => cases ht
  | cons r rest ih =>
    rcases List.mem_append.1 ht with ht | ht
    · exact (number_of_mem_traces hroot (hrecords r List.mem_cons_self) ht).1
    · exact Nat.lt_of_le_of_lt (lastNumber_le _)
        (ih (fun r hr ↦ hrecords r (List.mem_cons_of_mem _ hr)) ht)

/-- **The numbers of a section increase** over all submissions. -/
theorem pairwise_number_tracesAfter (hroot : form.name ∉ form.repeats)
    (hrecords : ∀ r ∈ records, r.NestsIn form) (done : Nat) (counters : Counters) :
    (tracesAfter media form.name done counters records).Pairwise fun t u ↦
      t.sectionName = u.sectionName → t.number < u.number := by
  induction records generalizing done counters with
  | nil => exact .nil
  | cons r rest ih =>
    have hr := hrecords r List.mem_cons_self
    have hrest : ∀ r ∈ rest, r.NestsIn form := fun r hr ↦ hrecords r (List.mem_cons_of_mem _ hr)
    rw [tracesAfter, List.pairwise_append]
    refine ⟨List.pairwise_cons.2 ⟨fun u hu heq ↦ ?_, ?_⟩, ih hrest _ _, fun t ht u hu heq ↦ ?_⟩
    · -- no instance is on the root sheet
      obtain ⟨v, hv, rfl⟩ := mem_tail_traces_iff.1 hu
      have hname : form.name = v.sectionName := heq
      exact absurd (hname ▸ hr.mem_repeats_of_mem_visits hv) hroot
    · have htail := pairwise_tail_traces media form.name done counters r
      refine htail.imp fun {t u} hlt heq ↦ ?_
      rcases hlt with hlt | ⟨-, hlt⟩
      · exact absurd (heq ▸ hlt) (String.lt_irrefl _)
      · exact hlt
    · -- what the first submission numbers ends where the others begin
      have hle := (number_of_mem_traces hroot hr ht).2
      rw [heq] at hle
      exact Nat.lt_of_le_of_lt hle (lt_number_of_mem_tracesAfter hroot hrest hu)

end Record

/-- **The rows written** for submissions that nest are those of all their traces. -/
theorem ExportPlan.writesAfter_eq {form : Form} {options : Options} {naming : SheetNaming}
    {records : List Record} (h : ∀ r ∈ records, r.NestsIn form) (done : Nat)
    (counters : Counters) :
    (madePlan form options naming).writesAfter done counters records =
      (Record.tracesAfter ((Codebook.made form options).mediaRule? options) form.name done counters
        records).map (madePlan form options naming).write := by
  rw [writesAfter_eq_filter, List.filter_eq_self.2 fun t ht ↦
    decide_eq_true (Record.sectionName_mem_of_mem_tracesAfter h ht)]

end SurveyExport
