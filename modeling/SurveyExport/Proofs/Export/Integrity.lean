import SurveyExport.Proofs.Export.Traces
import SurveyExport.Proofs.KeyEscape.Codec
import SurveyExport.Proofs.Row.Frame

/-!
# Referential integrity of an export

Every row of an instance names the sheet and the number of the row of the record around it.
`ExportPlan.Linked` says what this means for the rows of a whole run, and `exists_linked_rows`
proves it of every export, under all options and for both kinds of sheets.

Three things have to fit together. The traces of the rows name the record around an instance, which
stands earlier and has a number of its own (`ExportPlan.lt_of_isAround`,
`ExportPlan.eq_of_number_eq`). Normalising a row leaves its links alone
(`untouched_of_mem_linkKeys`). And the section of the parent, which the row names at first, is
replaced by the name of that section's sheet, which no other sheet has
(`ExportPlan.get?_write_parentTable`, `ExportPlan.sheetName?_inj`).
-/

namespace SurveyExport

/-! ### The keys of links -/

/-- The key of a component ends as one of the four components does. -/
theorem exists_suffix_of_mem_pointKeys {xpath k : String} (h : k ∈ pointKeys xpath) :
    ∃ suffix ∈ pointSuffixes, suffix.toList <:+ k.toList := by
  obtain ⟨suffix, hs, rfl⟩ := List.mem_map.1 h
  refine ⟨suffix, hs, ?_⟩
  rw [String.toList_append]
  exact List.suffix_append _ _

/-- No column that is derived from a question has the key of a link. -/
theorem Form.key_not_mem_linkKeys {form : Form} {options : Options} {q : Question} {c : Column}
    (hc : c ∈ form.derivedColumns options q) : c.key ∉ MetaKey.linkKeys := by
  have hslash : ∀ k ∈ MetaKey.linkKeys, '/' ∉ k.toList := by decide
  have hpoint : ∀ k ∈ MetaKey.linkKeys, ∀ suffix ∈ pointSuffixes,
      ¬ suffix.toList <:+ k.toList := by decide
  intro hk
  simp only [derivedColumns] at hc
  split at hc
  · split at hc
    · obtain ⟨choice, hchoice, rfl⟩ := List.mem_map.1 hc
      obtain ⟨ch, -, rfl⟩ := List.mem_map.1 hchoice
      exact hslash _ hk (by simp [choiceColumn])
    · cases hc
  · obtain ⟨key, hkey, rfl⟩ := List.mem_map.1 hc
    obtain ⟨suffix, hs, hsuffix⟩ := exists_suffix_of_mem_pointKeys hkey
    exact hpoint _ hk suffix hs hsuffix
  · cases hc

/-- No stored key is the key of a link. -/
theorem KeyEscape.encode_not_mem_linkKeys {key : String} (h : isRefused key) :
    encode key ∉ MetaKey.linkKeys := by
  have hequals : ∀ k ∈ MetaKey.linkKeys, '=' ∉ k.toList := by decide
  exact fun hk ↦ not_unmarked_encode h (unmarked_of_not_mem (hequals _ hk))

/-- Normalising a row leaves its links alone if no question has the key of a link. -/
theorem untouched_of_mem_linkKeys {form : Form} {options : Options} {s k : String}
    (hquestions : ∀ q ∈ form.questions, q.xpath ∉ MetaKey.linkKeys) (hk : k ∈ MetaKey.linkKeys) :
    Row.Untouched (Codebook.sectionNamed form options s) k := by
  have htime : ∀ k ∈ MetaKey.linkKeys, k ≠ MetaKey.submissionTime := by decide
  refine Section.untouched_ofQuestions (fun q hq _ hmem ↦ ?_) (fun q _ hrefused heq ↦ ?_)
    (htime k hk)
  · rcases List.mem_cons.1 hmem with rfl | hmem
    · exact hquestions q (Codebook.mem_questionsOf.1 hq).mem_questions hk
    · obtain ⟨c, hc, rfl⟩ := List.mem_map.1 hmem
      exact Form.key_not_mem_linkKeys hc hk
  · exact KeyEscape.encode_not_mem_linkKeys hrefused (heq ▸ hk)

/-! ### The links of a row -/

namespace Record

/-- The instances in a submission do not themselves hold answers under the keys of links. -/
def LinkFree (form : Form) (r : Record) : Prop :=
  r.EveryChild (fun _ c ↦ ∀ k ∈ MetaKey.linkKeys, k ∉ c.2.map (·.1)) form.name

/-- A record without the key of a link leaves the links around it as they are. -/
theorem get?_union_cells {media : Option MediaRule} {files : List Attachment} {i : Record}
    {row : Row} {k : String} (h : k ∉ i.map (·.1)) :
    (row.union (i.cells media files)).get? k = row.get? k := by
  rw [KeyMap.get?_union]
  cases hget : (i.cells media files).get? k with
  | none => rfl
  | some c =>
    obtain ⟨a, ha, -⟩ := exists_mem_of_get?_cells hget
    exact absurd (List.mem_map_of_mem ha) h

variable {media : Option MediaRule} {form : Form} {done : Nat} {counters : Counters} {r : Record}
  {t : Trace}

/-- A row carries its number. -/
theorem get?_index_of_mem_traces (hfree : r.LinkFree form)
    (ht : t ∈ r.traces media form.name done counters) :
    t.raw.get? MetaKey.index = some (.int t.number) := by
  rcases mem_traces_iff.1 ht with rfl | ⟨v, hv, rfl⟩
  · have hne : MetaKey.parentIndex ≠ MetaKey.index := by decide
    simp [Trace.ofRecord, hne]
  · obtain ⟨step, rest, hplace, -, hat⟩ := (covered_visits r form.name _ counters).sound v hv
    obtain ⟨-, hnew⟩ := hfree.of_ne_nil (hplace ▸ List.cons_ne_nil _ _) hat
    exact (get?_union_cells (hnew _ (by decide))).trans (get?_links _ _ _ _)

/-- Apart from its links a row holds the answers of its record. -/
theorem get?_of_mem_traces (ht : t ∈ r.traces media form.name done counters) {k : String}
    (hk : k ∉ MetaKey.linkKeys) :
    ∃ i, r.at? form.name t.place = some (t.sectionName, i) ∧
      t.raw.get? k = (i.cells media r.attachments).get? k := by
  have hindex : k ≠ MetaKey.index := fun h ↦ hk (h ▸ by decide)
  have hparent : k ≠ MetaKey.parentIndex := fun h ↦ hk (h ▸ by decide)
  have htable : k ≠ MetaKey.parentTable := fun h ↦ hk (h ▸ by decide)
  rcases mem_traces_iff.1 ht with rfl | ⟨v, hv, rfl⟩
  · refine ⟨r, rfl, ?_⟩
    simp [Trace.ofRecord, hindex.symm, hparent.symm]
  · obtain ⟨-, -, -, -, hat⟩ := (covered_visits r form.name _ counters).sound v hv
    refine ⟨v.answers, hat, ?_⟩
    show ((links v.number v.parentNumber v.parentSection).union _).get? k = _
    rw [KeyMap.get?_union, get?_links, if_neg hindex, if_neg hparent, if_neg htable]
    cases (v.answers.cells media r.attachments).get? k <;> rfl

end Record

/-! ### The links of a row that is written -/

namespace ExportPlan

variable {form : Form} {options : Options} {naming : SheetNaming} {t : Trace}

theorem get?_nameParent_of_ne {p : ExportPlan} {row : Row} {k : String}
    (hk : k ≠ MetaKey.parentTable) : (p.nameParent row).get? k = row.get? k := by
  simp only [nameParent]
  split
  · split
    · simp [hk.symm]
    · rfl
  · rfl

/-- The section of the parent becomes the name of that section's sheet. -/
theorem get?_nameParent {p : ExportPlan} {row : Row} {s : String} {sheet : Sheet}
    (hrow : row.get? MetaKey.parentTable = some (.text s))
    (hsheet : p.sheets.find? (·.sectionName == s) = some sheet) :
    (p.nameParent row).get? MetaKey.parentTable = some (.text sheet.name) := by
  simp [nameParent, hrow, hsheet]

/-- A link that is a number is written as it is. -/
theorem get?_write_int (hquestions : ∀ q ∈ form.questions, q.xpath ∉ MetaKey.linkKeys) {k : String}
    (hk : k ∈ MetaKey.linkKeys) (hne : k ≠ MetaKey.parentTable) {n : Int}
    (hraw : t.raw.get? k = some (.int n)) :
    ((madePlan form options naming).write t).2.get? k = some (.int n) := by
  rw [write_madePlan, get?_nameParent_of_ne hne,
    Row.get?_normalize (untouched_of_mem_linkKeys hquestions hk), hraw]
  rfl

/-- The name of the parent's section is written as the name of its sheet. -/
theorem get?_write_parentTable (hquestions : ∀ q ∈ form.questions, q.xpath ∉ MetaKey.linkKeys)
    {s : String} {sheet : Sheet} (hs : s ∈ form.name :: form.repeats)
    (hreference : ¬ ['$', '{'] <:+: s.toList)
    (hraw : t.raw.get? MetaKey.parentTable = some (.text s))
    (hsheet : (madePlan form options naming).sheets[sheetOf form s]? = some sheet) :
    ((madePlan form options naming).write t).2.get? MetaKey.parentTable =
      some (.text sheet.name) := by
  rw [write_madePlan]
  refine get?_nameParent (s := s) ?_ (find?_sheets hsheet hs)
  rw [Row.get?_normalize (untouched_of_mem_linkKeys hquestions (by decide)), hraw]
  exact congrArg some (Row.substituteCell_text _ hreference)

end ExportPlan

/-! ### Integrity -/

namespace ExportPlan

/-- Apart from its links, a row holds the normal form of the answers of the record `i`, which stands
in the section `s` of the submission `r`. -/
def IsRowOf (p : ExportPlan) (r : Record) (s : String) (i : Record) (row : Row) : Prop :=
  ∃ (section_ : Section) (raw : Row), p.book.section? s = some section_ ∧
    (∀ k ∉ MetaKey.linkKeys, raw.get? k =
      (i.cells (p.book.mediaRule? p.options) r.attachments).get? k) ∧
    ∀ k ∉ MetaKey.linkKeys, row.get? k = (raw.normalize p.book p.options section_).get? k

/-- The name of the sheet with a number. -/
def sheetName? (p : ExportPlan) (x : Nat) : Option String := p.sheets[x]?.map (·.name)

/-- **Referential integrity** of the rows written for submissions. `sources` gives for each row the
position of its submission and the place of its record there. -/
structure Linked (p : ExportPlan) (records : List Record) (rows : List (Nat × Row))
    (sources : List (Nat × Place)) : Prop where
  /-- There is one source for each row. -/
  length_eq : rows.length = sources.length
  /-- Every record of every submission has a row. -/
  mem_iff : ∀ n place, (n, place) ∈ sources ↔
    ∃ r, records[n]? = some r ∧ ∃ c, r.at? p.rootName place = some c
  /-- No record has two rows. -/
  nodup : sources.Nodup
  /-- A row is that of its record, on the sheet of the record's section. The root sheet is for the
  submissions themselves. -/
  row : ∀ (j n x : Nat) (place : Place) (row : Row), sources[j]? = some (n, place) →
    rows[j]? = some (x, row) → ∃ (r : Record) (s : String) (i : Record),
      records[n]? = some r ∧ r.at? p.rootName place = some (s, i) ∧ p.IsRowOf r s i row ∧
      p.sheets[x]?.map (·.sectionName) = some s ∧ (x = 0 ↔ place = [])
  /-- The row of an instance names the sheet and the number of an earlier row, that of the record
  around it, and no other row on a sheet of this name has the number. -/
  parent : ∀ (j n x : Nat) (place : Place) (step : Nat × Nat) (row : Row),
    sources[j]? = some (n, place ++ [step]) → rows[j]? = some (x, row) →
    ∃ (k y : Nat) (around : Row) (name : String) (number : Int),
      k < j ∧ sources[k]? = some (n, place) ∧ rows[k]? = some (y, around) ∧
      p.sheetName? y = some name ∧ row.get? MetaKey.parentTable = some (.text name) ∧
      row.get? MetaKey.parentIndex = some (.int number) ∧
      around.get? MetaKey.index = some (.int number) ∧
      ∀ (k' y' : Nat) (other : Row), rows[k']? = some (y', other) → p.sheetName? y' = some name →
        other.get? MetaKey.index = some (.int number) → k' = k

variable {form : Form} {options : Options} {naming : SheetNaming} {records : List Record}

/-- A trace of all submissions is one of those of its submission, which are all listed. -/
theorem exists_record_of_mem_traces {p : ExportPlan} {t : Trace} (ht : t ∈ p.traces records) :
    ∃ (r : Record) (c : Counters), records[t.submission]? = some r ∧
      t ∈ r.traces (p.book.mediaRule? p.options) p.rootName t.submission c ∧
      r.traces (p.book.mediaRule? p.options) p.rootName t.submission c ⊆ p.traces records := by
  obtain ⟨n, r, c, hr, ht, hsub⟩ := Record.exists_of_mem_tracesAfter ht
  obtain rfl : t.submission = n := (Record.submission_of_mem_traces ht).trans (Nat.zero_add n)
  rw [Nat.zero_add] at ht hsub
  exact ⟨r, c, hr, ht, hsub⟩

/-- A section has the sheet with its number, and no other section has a sheet of that name. -/
theorem sheetName?_inj {s s' name : String} (hs : s ∈ form.name :: form.repeats)
    (hs' : s' ∈ form.name :: form.repeats)
    (h : (madePlan form options naming).sheetName? (sheetOf form s) = some name)
    (h' : (madePlan form options naming).sheetName? (sheetOf form s') = some name) : s = s' := by
  obtain ⟨sheet, hsheet, rfl⟩ := exists_sheet options naming hs
  obtain ⟨sheet', hsheet', rfl⟩ := exists_sheet options naming hs'
  have hlt := (List.getElem?_eq_some_iff.1 hsheet).1
  have hnames : ((madePlan form options naming).sheets.map (·.name))[sheetOf form
      sheet.sectionName]? = ((madePlan form options naming).sheets.map (·.name))[sheetOf form
      sheet'.sectionName]? := by
    rw [List.getElem?_map, List.getElem?_map]
    exact h.trans h'.symm
  have hindex : sheetOf form sheet.sectionName = sheetOf form sheet'.sectionName :=
    (List.getElem?_inj (by rwa [List.length_map]) nodup_map_name_sheets).1 hnames
  rw [hindex] at hsheet
  exact congrArg (·.sectionName) (Option.some.inj (hsheet.symm.trans hsheet'))

/-- The section of a trace is declared, if the submissions nest. -/
theorem sectionName_mem_names (hnests : ∀ r ∈ records, r.NestsIn form) {t : Trace}
    (ht : t ∈ (madePlan form options naming).traces records) :
    t.sectionName ∈ form.name :: form.repeats :=
  Record.sectionName_mem_of_mem_tracesAfter hnests ht

variable (naming) in
/-- The row that is written for a trace in a declared section is that of its record. -/
theorem exists_isRowOf_write {done : Nat} {counters : Counters} {r : Record} {t : Trace}
    (ht : t ∈ r.traces ((Codebook.made form options).mediaRule? options) form.name done counters)
    (hs : t.sectionName ∈ form.name :: form.repeats) :
    ∃ i, r.at? form.name t.place = some (t.sectionName, i) ∧
      (madePlan form options naming).IsRowOf r t.sectionName i
        ((madePlan form options naming).write t).2 := by
  obtain ⟨i, hi⟩ := Record.at?_of_mem_traces ht
  refine ⟨i, hi, _, t.raw, (Codebook.section?_made form options _).trans (if_pos hs),
    fun k hk ↦ ?_, fun k hk ↦ ?_⟩
  · obtain ⟨i', hi', hget⟩ := Record.get?_of_mem_traces ht hk
    obtain rfl := (Prod.mk.inj (Option.some.inj (hi'.symm.trans hi))).2
    exact hget
  · exact get?_nameParent_of_ne fun h ↦ hk (h ▸ by decide)

/-- The row that is written for a trace is that of its record, on the sheet of its section. -/
theorem isRowOf_write (hroot : form.name ∉ form.repeats) (hnests : ∀ r ∈ records, r.NestsIn form)
    {t : Trace} (ht : t ∈ (madePlan form options naming).traces records) :
    ∃ (r : Record) (i : Record), records[t.submission]? = some r ∧
      r.at? form.name t.place = some (t.sectionName, i) ∧
      (madePlan form options naming).IsRowOf r t.sectionName i
        ((madePlan form options naming).write t).2 ∧
      (sheetOf form t.sectionName = 0 ↔ t.place = []) := by
  have hs := sectionName_mem_names hnests ht
  obtain ⟨r, c, hr, ht, -⟩ := exists_record_of_mem_traces ht
  obtain ⟨i, hi, hrow⟩ := exists_isRowOf_write naming ht hs
  refine ⟨r, i, hr, hi, hrow, ?_⟩
  rw [sheetOf, List.idxOf_eq_zero_iff_head_eq (List.cons_ne_nil _ _), List.head_cons]
  constructor
  · intro hname
    by_contra hplace
    exact hroot (hname ▸ (hnests r (List.mem_of_getElem? hr)).mem_repeats hplace hi)
  · intro hplace
    rw [hplace] at hi
    exact (Prod.mk.inj (Option.some.inj hi)).1

/-- Two rows of a sheet with one number are the same row. -/
theorem eq_of_number_eq (hroot : form.name ∉ form.repeats) (hnests : ∀ r ∈ records, r.NestsIn form)
    {j k : Nat} {t u : Trace}
    (ht : ((madePlan form options naming).traces records)[j]? = some t)
    (hu : ((madePlan form options naming).traces records)[k]? = some u)
    (hname : t.sectionName = u.sectionName) (hnumber : t.number = u.number) : j = k := by
  have hpairwise : ((madePlan form options naming).traces records).Pairwise fun t u ↦
      t.sectionName = u.sectionName → t.number < u.number :=
    Record.pairwise_number_tracesAfter hroot hnests _ _
  rw [List.pairwise_iff_getElem] at hpairwise
  obtain ⟨hj, rfl⟩ := List.getElem?_eq_some_iff.1 ht
  obtain ⟨hk, rfl⟩ := List.getElem?_eq_some_iff.1 hu
  rcases Nat.lt_trichotomy j k with hlt | heq | hlt
  · exact absurd (hpairwise j k hj hk hlt hname) (hnumber ▸ Nat.lt_irrefl _)
  · exact heq
  · exact absurd (hpairwise k j hk hj hlt hname.symm) (hnumber ▸ Nat.lt_irrefl _)

/-- The trace of the record around an instance stands earlier. -/
theorem lt_of_isAround (hform : Node.NestedAll "" form.children) (hroot : form.name ∉ form.repeats)
    (hnests : ∀ r ∈ records, r.NestsIn form) {j k : Nat} {t u : Trace}
    (ht : ((madePlan form options naming).traces records)[j]? = some t)
    (hu : ((madePlan form options naming).traces records)[k]? = some u) (h : u.IsAround t) :
    k < j := by
  have hpairwise : ((madePlan form options naming).traces records).Pairwise fun t u ↦
      ¬ u.IsAround t := Record.pairwise_not_isAround hform hroot hnests _ _
  rw [List.pairwise_iff_getElem] at hpairwise
  obtain ⟨hj, rfl⟩ := List.getElem?_eq_some_iff.1 ht
  obtain ⟨hk, rfl⟩ := List.getElem?_eq_some_iff.1 hu
  rcases Nat.lt_trichotomy j k with hlt | rfl | hlt
  · exact absurd h (hpairwise j k hj hk hlt)
  · -- no record is around itself
    obtain ⟨-, step, hplace⟩ := h
    have hlength := congrArg List.length hplace
    rw [List.length_append] at hlength
    exact absurd hlength (by simp)
  · exact hlt

variable (form) in
/-- What referential integrity asks of a form: the xpaths are nested, the sections have names of
their own in which no reference begins, and no question has the key of a link. -/
structure Linkable : Prop where
  nested : Node.NestedAll "" form.children
  nodup : (form.name :: form.repeats).Nodup
  reference : ∀ s ∈ form.name :: form.repeats, ¬ ['$', '{'] <:+: s.toList
  questions : ∀ q ∈ form.questions, q.xpath ∉ MetaKey.linkKeys

/-- The row of an instance names the sheet and the number of the record around it, whose row is
written earlier and is the only one with this number there. -/
theorem exists_parent_write (h : Linkable form) (hnests : ∀ r ∈ records, r.NestsIn form)
    (hfree : ∀ r ∈ records, r.LinkFree form) {j : Nat} {t : Trace}
    (ht : ((madePlan form options naming).traces records)[j]? = some t) {place : Place}
    {step : Nat × Nat} (hplace : t.place = place ++ [step]) :
    ∃ (k : Nat) (u : Trace) (name : String), k < j ∧
      ((madePlan form options naming).traces records)[k]? = some u ∧
      u.submission = t.submission ∧ u.place = place ∧
      (madePlan form options naming).sheetName? (sheetOf form u.sectionName) = some name ∧
      ((madePlan form options naming).write t).2.get? MetaKey.parentTable = some (.text name) ∧
      ((madePlan form options naming).write t).2.get? MetaKey.parentIndex =
        some (.int u.number) := by
  have hmem := List.mem_of_getElem? ht
  obtain ⟨r, c, hr, htr, hsub⟩ := exists_record_of_mem_traces hmem
  have hne : t.place ≠ [] := by simp [hplace]
  obtain ⟨u, hu, haround, i, hi, hraw⟩ := Record.exists_isAround htr hne
  obtain ⟨k, hk⟩ := List.mem_iff_getElem?.1 (hsub hu)
  have hs := sectionName_mem_names hnests (hsub hu)
  obtain ⟨sheet, hsheet, -⟩ := exists_sheet options naming hs
  obtain ⟨-, hnew⟩ := (hfree r (List.mem_of_getElem? hr)).of_ne_nil hne hi
  -- the answers of the instance do not cover its links
  have hcell : ∀ key ∈ MetaKey.linkKeys, t.raw.get? key =
      (Record.links t.number u.number u.sectionName).get? key := fun key hkey ↦ by
    rw [hraw]
    exact Record.get?_union_cells (hnew key hkey)
  have hroot : form.name ∉ form.repeats := (List.nodup_cons.1 h.nodup).1
  refine ⟨k, u, sheet.name, lt_of_isAround h.nested hroot hnests ht hk haround, hk, haround.1, ?_,
    ?_, ?_, ?_⟩
  · obtain ⟨-, step', hplace'⟩ := haround
    exact (List.append_inj' (hplace'.symm.trans hplace) rfl).1
  · rw [sheetName?, hsheet]
    rfl
  · refine get?_write_parentTable h.questions hs (h.reference _ hs) ?_ hsheet
    rw [hcell _ (by decide), Record.get?_links]
    rfl
  · refine get?_write_int h.questions (by decide) (by decide) ?_
    rw [hcell _ (by decide), Record.get?_links]
    rfl

/-- A row that is written for a trace carries the number of the trace. -/
theorem get?_index_write (h : Linkable form) (hfree : ∀ r ∈ records, r.LinkFree form) {t : Trace}
    (ht : t ∈ (madePlan form options naming).traces records) :
    ((madePlan form options naming).write t).2.get? MetaKey.index = some (.int t.number) := by
  obtain ⟨r, c, hr, ht, -⟩ := exists_record_of_mem_traces ht
  exact get?_write_int h.questions (by decide) (by decide)
    (Record.get?_index_of_mem_traces (hfree r (List.mem_of_getElem? hr)) ht)

/-- The row at a position is written for the trace at the position. -/
theorem exists_trace_of_getElem? {ts : List Trace} {j x : Nat} {row : Row}
    (hrow : (ts.map (madePlan form options naming).write)[j]? = some (x, row)) :
    ∃ t, ts[j]? = some t ∧ sheetOf form t.sectionName = x ∧
      ((madePlan form options naming).write t).2 = row := by
  rw [List.getElem?_map] at hrow
  obtain ⟨t, ht, hwrite⟩ := Option.map_eq_some_iff.1 hrow
  exact ⟨t, ht, (Prod.mk.inj hwrite).1, congrArg Prod.snd hwrite⟩

/-- The rows of traces are linked. -/
theorem linked_traces (h : Linkable form) (hnests : ∀ r ∈ records, r.NestsIn form)
    (hfree : ∀ r ∈ records, r.LinkFree form) :
    (madePlan form options naming).Linked records
      (((madePlan form options naming).traces records).map (madePlan form options naming).write)
      (((madePlan form options naming).traces records).map fun t ↦ (t.submission, t.place)) := by
  have hroot : form.name ∉ form.repeats := (List.nodup_cons.1 h.nodup).1
  refine ⟨by simp, fun n place ↦ ?_, Record.nodup_tracesAfter _ _, ?_, ?_⟩
  case refine_1 =>
    have hsources : (n, place) ∈ ((madePlan form options naming).traces records).map
        (fun t ↦ (t.submission, t.place)) ↔ ∃ t ∈ (madePlan form options naming).traces records,
          t.submission = 0 + n ∧ t.place = place := by
      simp only [List.mem_map, Prod.mk.injEq, Nat.zero_add]
    exact hsources.trans Record.mem_tracesAfter_iff
  case refine_2 =>
    intro j n x place row hsource hrow
    obtain ⟨t, ht, rfl, rfl⟩ := exists_trace_of_getElem? hrow
    rw [List.getElem?_map, ht] at hsource
    obtain ⟨rfl, rfl⟩ := Prod.mk.inj (Option.some.inj hsource)
    have hmem := List.mem_of_getElem? ht
    obtain ⟨r, i, hr, hi, hrowOf, hzero⟩ := isRowOf_write hroot hnests hmem
    obtain ⟨sheet, hsheet, hname⟩ := exists_sheet options naming (sectionName_mem_names hnests hmem)
    refine ⟨r, t.sectionName, i, hr, hi, hrowOf, ?_, hzero⟩
    rw [hsheet, Option.map_some, hname]
  case refine_3 =>
    intro j n x place step row hsource hrow
    obtain ⟨t, ht, rfl, rfl⟩ := exists_trace_of_getElem? hrow
    rw [List.getElem?_map, ht] at hsource
    obtain ⟨rfl, hplace⟩ := Prod.mk.inj (Option.some.inj hsource)
    obtain ⟨k, u, name, hlt, hu, hsub, huplace, hname, htable, hparent⟩ :=
      exists_parent_write h hnests hfree ht hplace
    have humem := List.mem_of_getElem? hu
    refine ⟨k, _, _, name, u.number, hlt, ?_, ?_, hname, htable, hparent,
      get?_index_write h hfree humem, fun k' y' other hrow' hname' hnumber ↦ ?_⟩
    · rw [List.getElem?_map, hu, Option.map_some, hsub, huplace]
    · rw [List.getElem?_map, hu]
      rfl
    · -- a row with the number on a sheet of the name has the section and the number of `u`
      obtain ⟨v, hv, rfl, rfl⟩ := exists_trace_of_getElem? hrow'
      have hmem := List.mem_of_getElem? hv
      rw [get?_index_write h hfree hmem] at hnumber
      refine eq_of_number_eq hroot hnests hv hu ?_ ?_
      · exact sheetName?_inj (sectionName_mem_names hnests hmem)
          (sectionName_mem_names hnests humem) hname' hname
      · exact Int.ofNat_inj.1 (Cell.int.inj (Option.some.inj hnumber))

end ExportPlan

/-- **Every export is referentially intact.** The form is made from a survey and has a codebook, no
section has a reference in its name and no question has the key of a link; the submissions that are
read nest as the form declares, and their instances do not themselves hold answers under the keys of
links. Then, under all options and for both kinds of sheets, the rows that are written are those of
all the records of all submissions, and the row of every instance names the sheet and the number of
the one row of the record around it, which is written earlier. -/
theorem exists_linked_rows {survey : Survey} {form : Form} {options : Options} {book : Codebook}
    (hform : survey.toForm = .ok form) (hbook : Codebook.ofForm form options = .ok book)
    (hreference : ∀ s ∈ form.name :: form.repeats, ¬ ['$', '{'] <:+: s.toList)
    (hquestions : ∀ q ∈ form.questions, q.xpath ∉ MetaKey.linkKeys) (naming : SheetNaming)
    (data : DataFile) (hnests : ∀ r ∈ DataFile.readable data.submissions, r.NestsIn form)
    (hfree : ∀ r ∈ DataFile.readable data.submissions, r.LinkFree form) :
    ∃ sources, (ExportPlan.make book options naming).Linked (DataFile.readable data.submissions)
      ((ExportPlan.make book options naming).rows data) sources := by
  obtain ⟨rfl, -, hnodup, -⟩ := Codebook.ofForm_eq_ok_iff.1 hbook
  have hlinkable : ExportPlan.Linkable form :=
    ⟨Survey.nestedAll_of_toForm hform, hnodup, hreference, hquestions⟩
  rw [ExportPlan.rows_eq]
  show ∃ sources, (ExportPlan.madePlan form options naming).Linked _
    ((ExportPlan.madePlan form options naming).writesAfter 0 KeyMap.empty _) sources
  rw [ExportPlan.writesAfter_eq hnests]
  exact ⟨_, ExportPlan.linked_traces hlinkable hnests hfree⟩

/-! ### An export with nested instances -/

/-- An element of a survey that has only a type, a name and children. -/
def Survey.Element.plain (type name : String) (children : List Survey.Element) : Survey.Element :=
  ⟨type, some name, none, [], none, none, KeyMap.empty, KeyMap.empty, children⟩

/-- A survey with a repeated group inside a repeated group. -/
def householdSurvey : Survey where
  name := "visit"
  title := none
  idString := none
  defaultLanguage := none
  children := [.plain "repeat" "kids" [.plain "text" "name" [],
    .plain "repeat" "pets" [.plain "text" "kind" []]]]
  choices := KeyMap.empty

/-- The form that the survey describes. -/
def householdForm : Form where
  name := "visit"
  children := [.group .repeated "kids" "kids" none [
    .question { name := "name", xpath := "kids/name", type := .text },
    .group .repeated "pets" "kids/pets" none [
      .question { name := "kind", xpath := "kids/pets/kind", type := .text }]]]

/-- A submission in which the instances of the inner group stand before an answer of the outer. -/
def householdRecord : Record := [
  ("kids", .instances [
    [("kids/pets", .instances [[("kids/pets/kind", .scalar (.text "cat"))], []]),
      ("kids/name", .scalar (.text "Ada"))],
    [("kids/pets", .instances [[]])]])]

/-- Two submissions of the survey make an export that is referentially intact. -/
theorem exists_linked_rows_household :
    householdSurvey.toForm = .ok householdForm ∧
      Codebook.ofForm householdForm {} = .ok (Codebook.made householdForm {}) ∧
      householdRecord.NestsIn householdForm ∧ householdRecord.LinkFree householdForm ∧
      ∃ sources, (ExportPlan.make (Codebook.made householdForm {}) {} .worksheet).Linked
        [householdRecord, householdRecord]
        ((ExportPlan.make (Codebook.made householdForm {}) {} .worksheet).rows
          ⟨none, [.ok householdRecord, .ok householdRecord]⟩) sources := by
  have hform : householdSurvey.toForm = .ok householdForm := rfl
  have hbook : Codebook.ofForm householdForm {} = .ok (Codebook.made householdForm {}) :=
    Codebook.ofForm_eq_ok_iff.2 ⟨rfl, by decide, by decide, by decide, by decide⟩
  have hkids : KeyEscape.decode "kids" = "kids" := by decide
  have hpets : KeyEscape.decode "kids/pets" = "kids/pets" := by decide
  have houter : householdForm.Encloses "visit" "kids" := ⟨_, _, _, .top List.mem_cons_self⟩
  have hinner : householdForm.Encloses "kids" "kids/pets" :=
    ⟨_, _, _, .repeated List.mem_cons_self (.top (List.mem_cons_of_mem _ List.mem_cons_self))⟩
  have hnests : householdRecord.NestsIn householdForm := by
    have hname : householdForm.name = "visit" := rfl
    simp [Record.NestsIn, householdRecord, hkids, hpets, hname, houter, hinner]
  have hfree : householdRecord.LinkFree householdForm := by
    simp only [Record.LinkFree, householdRecord, Record.everyChild_cons_instances,
      Record.everyChild_cons_scalar, Record.everyChild_nil, List.forall_mem_cons,
      List.not_mem_nil, false_implies, implies_true, hkids, hpets]
    decide
  have hdollar : ∀ s ∈ householdForm.name :: householdForm.repeats, '$' ∉ s.toList := by decide
  have hall : ∀ r ∈ [householdRecord, householdRecord], r = householdRecord := by simp
  exact ⟨hform, hbook, hnests, hfree, exists_linked_rows hform hbook
    (fun s hs h ↦ hdollar s hs (h.subset List.mem_cons_self)) (by decide) .worksheet
    ⟨none, [.ok householdRecord, .ok householdRecord]⟩
    (fun r hr ↦ hall r hr ▸ hnests) (fun r hr ↦ hall r hr ▸ hfree)⟩

end SurveyExport
