import SurveyExport.Proofs.Codebook.Partition
import SurveyExport.Proofs.Decimal.Numerals
import SurveyExport.Proofs.Export.Integrity
import SurveyExport.Proofs.Row.Chosen
import SurveyExport.Proofs.SystemFile.RowCase

/-!
# Choices in the cases of system files

The variable of a column is made from the codebook alone, before any row is seen; what is stored
for a row is made from the row's cells. This module proves that the two fit together for the answers
to selects: the case of a row holds, for the choice of a select-one, the value of one of the
variable's labels, and no missing value for a choice of a select-multiple that is selected.
`keepsChoices_rows` says so of every row that an export writes.

It is the names of choices that variables are made from. So this rests on the name being what the
cell holds: where labels are shown the choice's label has to be its name, no reference may begin in
the name, and no other question may have to do with the cells (`Form.Unshared`).

* `SystemFile.exists_valueLabel`: the value of a choice's name is that of a label.
* `SystemFile.not_isMissing_choice`: the value of a choice that is selected is not missing.
-/

namespace SurveyExport

open SystemFile (Variable Value missingBits isNumericName)

/-! ### Values of choices -/

namespace SystemFile

variable {book : Codebook} {policy : SplitPolicy} {options : Options} {q : Question}

/-- The bits of a number are read from its bytes. -/
theorem bits64_inj {b b' : UInt64} (h : bits64 b = bits64 b') : b = b' := by
  have hread := congrArg ofLittleEndian h
  have hpow : Nat.pow 256 8 = 2 ^ 64 := rfl
  simp only [bits64, ofLittleEndian_littleEndian, hpow] at hread
  rw [Nat.mod_eq_of_lt b.toNat_lt, Nat.mod_eq_of_lt b'.toNat_lt] at hread
  exact UInt64.toNat_inj.1 hread

/-- A value of a variable is missing in its case: it is written as the number that stands for no
value. -/
def Variable.IsMissing (v : Variable) (value : Value) : Prop :=
  v.type = .numeric ∧ Draft.valueBytes v value = bits64 missingBits

/-- A finite number other than the one that stands for no value is not missing. -/
theorem not_isMissing_number {b : UInt64} (hfinite : Binary64.FiniteBits b) (hb : b ≠ missingBits)
    (v : Variable) : ¬ v.IsMissing (.number (some b)) := by
  rintro ⟨-, hbytes⟩
  rw [valueBytes_number, if_pos hfinite] at hbytes
  exact hb (bits64_inj hbytes)

/-- A numeral that a choice is named by reads as a finite number. -/
theorem exists_readFloat?_of_isNumericName {name : String} (h : isNumericName name = true) :
    ∃ x, Numeral.readFloat? name = some x ∧ Binary64.FiniteBits x.toBits := by
  rw [isNumericName, Bool.and_eq_true, Option.any_eq_true] at h
  obtain ⟨-, x, hx, hfinite⟩ := h
  exact ⟨x, hx, (Binary64.isFinite_ofFloat x).1 hfinite⟩

/-- The number in a cell that holds a numeral is the one that the numeral reads as. -/
theorem number?_text {name : String} {x : Float} (h : Numeral.readFloat? name = some x) :
    (Cell.text name).number? = some x := by
  rw [Cell.number?, Numeral.trim_of_readFloat? h, h]

/-! ### Select-ones -/

/-- The column of a select-one holds numbers just if all of its choices are named by numerals. -/
theorem conversionOf_questionColumn (hget : book.questions.get? q.xpath = some q)
    (htype : q.type = .selectOne) :
    conversionOf book policy (book.form.questionColumn options q) =
      if isNumericSelectOne book.form q then .number else .text := by
  simp [conversionOf, Form.questionColumn, QuestionType.bindType, htype, hget]

/-- A numeric select-one has numerals for names. -/
theorem isNumericName_of_isNumericSelectOne {form : Form} (h : isNumericSelectOne form q = true)
    {choice : Choice} (hchoice : choice ∈ form.choicesOf q) : isNumericName choice.name = true := by
  simp only [isNumericSelectOne, Bool.and_eq_true] at h
  exact List.all_eq_true.1 h.2 choice hchoice

/-- **The value of a choice's name is that of a label**, and the label is the choice's. -/
theorem exists_valueLabel (hget : book.questions.get? q.xpath = some q)
    (htype : q.type = .selectOne) {choice : Choice} (hchoice : choice ∈ book.form.choicesOf q)
    (name : String) :
    let c := book.form.questionColumn options q
    let conversion := conversionOf book policy c
    ∃ l ∈ (variableOf book conversion c name).valueLabels,
      l.value = conversion.value (some (.text choice.name)) ∧
      l.label = (book.languages.textOf choice.label).getD choice.name := by
  intro c conversion
  have hconversion : conversion = if isNumericSelectOne book.form q then .number else .text :=
    conversionOf_questionColumn hget htype
  by_cases hnumeric : isNumericSelectOne book.form q = true
  · obtain ⟨x, hx, -⟩ :=
      exists_readFloat?_of_isNumericName (isNumericName_of_isNumericSelectOne hnumeric hchoice)
    rw [if_pos hnumeric] at hconversion
    refine ⟨⟨.ofNumber (Numeral.readFloat? choice.name), _⟩, ?_, ?_, rfl⟩
    · simp only [variableOf, valueLabelsOf, c, Form.questionColumn, hget, htype, hconversion]
      exact List.mem_map.2 ⟨choice, hchoice, rfl⟩
    · rw [hconversion, Conversion.value, Option.bind_some, hx, number?_text hx]
  · rw [if_neg hnumeric] at hconversion
    refine ⟨⟨.text choice.name, _⟩, ?_, ?_, rfl⟩
    · simp only [variableOf, valueLabelsOf, c, Form.questionColumn, hget, htype, hconversion]
      exact List.mem_map.2 ⟨choice, hchoice, rfl⟩
    · rw [hconversion]
      rfl

/-- A label that stands in the place of a numeral leaves no value. -/
example : Conversion.number.value (some (.text "Good")) = .missing := rfl

/-! ### Select-multiples -/

/-- The value of one is not missing. -/
theorem not_isMissing_one (v : Variable) : ¬ v.IsMissing (.ofNumber (some 1)) := by
  have hbits : (1 : Float).toBits = 0x3ff0000000000000 := by decide +kernel
  rw [Value.ofNumber, Option.map_some, hbits]
  exact not_isMissing_number (by decide) (by decide) v

/-- **The value of a choice that is selected is not missing**, whichever policy fills the cells. If
it is the one that shows texts, a numeral has to be shown as it is, and must not be that of the
least number, which stands for no value. -/
theorem not_isMissing_choice (book : Codebook) {c : Column} {xpath name : String}
    (horigin : c.origin = .choice xpath name) {text : String}
    (htext : policy = .value → isNumericName name = true → text = name ∧
      (Numeral.readFloat? name).map Float.toBits ≠ some missingBits) (row : Row)
    (varName : String) :
    let conversion := conversionOf book policy c
    ¬ (variableOf book conversion c varName).IsMissing (conversion.value
      (some (Row.substituteCell row (policy.cell true true text)))) := by
  intro conversion
  have hconversion : conversion =
      if policy = .value && !isNumericName name then .text else .number := by
    simp only [conversion, conversionOf, horigin]
  cases policy with
  | boolean => exact hconversion ▸ not_isMissing_one _
  | binary => exact hconversion ▸ not_isMissing_one _
  | value =>
    cases hnumeric : isNumericName name with
    | false =>
      -- a text is never missing
      rintro ⟨htype, -⟩
      simp only [hconversion, hnumeric] at htype
      cases htype
    | true =>
      obtain ⟨rfl, hleast⟩ := htext rfl hnumeric
      obtain ⟨x, hx, hfinite⟩ := exists_readFloat?_of_isNumericName hnumeric
      have hreference : ¬ ['$', '{'] <:+: text.toList := fun h ↦
        Numeral.dollar_not_mem_of_readFloat? hx (h.subset (by simp))
      have hcell : Row.substituteCell row (SplitPolicy.value.cell true true text) = .text text :=
        Row.substituteCell_text row hreference
      have hvalue : conversion.value (some (.text text)) = .number (some x.toBits) := by
        rw [hconversion, hnumeric]
        simp [Conversion.value, number?_text hx, Value.ofNumber]
      rw [hcell, hvalue]
      refine not_isMissing_number hfinite (fun h ↦ hleast ?_) _
      rw [hx, Option.map_some, h]

end SystemFile

/-! ### The cases of an export -/

/-- **A case keeps the choices that were made**: `vars` are the variables of the sheet, and `values`
those of the case; `answers` are what the record of the row has for its questions. -/
structure KeepsChoices (book : Codebook) (options : Options) (s : Sheet) (vars : List Variable)
    (values : List Value) (answers : Question → Option Cell) : Prop where
  /-- For the choice that answers a select-one the value of one of the choice's labels is stored. -/
  selectOne : ∀ q, book.form.Holds s.sectionName q → book.form.Unshared options s.sectionName q →
    q.type = .selectOne → ∀ choice ∈ book.form.choicesOf q,
    answers q = some (.text choice.name) →
    (options.showChoiceLabels = true → Row.labelledCell (book.choiceLabel? q.xpath)
      (.text choice.name) = .text choice.name) →
    ¬ ['$', '{'] <:+: choice.name.toList →
    ∀ i : Nat, s.columns[i]? = some (book.form.questionColumn options q) →
    ∃ v value, vars[i]? = some v ∧ values[i]? = some value ∧ ∃ l ∈ v.valueLabels, l.value = value ∧
      l.label = (book.languages.textOf choice.label).getD choice.name
  /-- For a choice of a select-multiple that is selected no missing value is stored. -/
  selectMultiple : ∀ q, book.form.Holds s.sectionName q →
    book.form.Unshared options s.sectionName q → q.type = .selectMultiple →
    options.splitSelectMultiples = true → ∀ c ∈ book.form.choiceColumns options q,
    c.name ∈ Row.selected ((answers q).filter (!·.isNull)) →
    (SplitPolicy.ofOptions options = .value → isNumericName c.name = true →
      (Row.shownChoice book options q.xpath c.name).getD c.name = c.name ∧
        (Numeral.readFloat? c.name).map Float.toBits ≠ some missingBits) →
    ∀ i : Nat, s.columns[i]? = some (Form.choiceColumn options q c) →
    ∃ v value, vars[i]? = some v ∧ values[i]? = some value ∧ ¬ v.IsMissing value

/-- The question with an xpath is found in the codebook. -/
theorem Codebook.get?_questions_made {form : Form} (options : Options)
    (hxpaths : (form.questions.map (·.xpath)).Nodup) {q : Question} (hq : q ∈ form.questions) :
    (made form options).questions.get? q.xpath = some q := by
  rw [questions_made]
  refine KeyMap.get?_ofList fun q' ↦ ?_
  rw [List.mem_map, Option.some.injEq]
  constructor
  · rintro ⟨p, hp, heq⟩
    obtain ⟨hxpath, rfl⟩ := Prod.mk.inj heq
    exact eq_of_xpath_eq hxpaths hq hp hxpath.symm
  · rintro rfl
    exact ⟨q, hq, rfl⟩

/-- Rows that differ in their links at most have the same answers. -/
theorem Row.answerTo_congr {form : Form} {options : Options} {s : String} {q : Question}
    (h : form.Unshared options s q) {row row' : Row}
    (hrow : ∀ k ∉ MetaKey.linkKeys, row.get? k = row'.get? k) :
    row.answerTo q = row'.answerTo q := by
  have hxpath : q.xpath ∉ MetaKey.linkKeys := fun hmem ↦ h.metadata (List.mem_cons_of_mem _ hmem)
  rw [answerTo, answerTo, hrow _ hxpath]
  by_cases hrefused : KeyEscape.isRefused q.xpath
  · rw [if_pos hrefused, if_pos hrefused, hrow _ (KeyEscape.encode_not_mem_linkKeys hrefused)]
  · rw [if_neg hrefused, if_neg hrefused]

/-- The row of a record is the normal form of a row with the record's answers, but for links. -/
theorem ExportPlan.exists_raw_of_isRowOf {form : Form} {options : Options} {naming : SheetNaming}
    {r i : Record} {s : String} {row : Row} (h : (madePlan form options naming).IsRowOf r s i row) :
    ∃ raw : Row, (∀ q, form.Unshared options s q → raw.answerTo q =
        (i.cells ((Codebook.made form options).mediaRule? options) r.attachments).answerTo q) ∧
      ∀ k ∉ MetaKey.linkKeys, row.get? k = (raw.normalize (Codebook.made form options) options
        (Codebook.sectionNamed form options s)).get? k := by
  obtain ⟨section_, raw, hsection, hraw, hrow⟩ := h
  obtain rfl : section_ = Codebook.sectionNamed form options s := by
    have hfound := (Codebook.section?_made form options s).symm.trans hsection
    split at hfound
    · exact (Option.some.inj hfound).symm
    · cases hfound
  exact ⟨raw, fun q hq ↦ Row.answerTo_congr hq hraw, hrow⟩

section Kept

variable {form : Form} {options : Options} {s : Sheet} {raw row : Row} {source : SuffixSource}
  {created : DateTime} {d : SystemDraft} {q : Question}
  (hxpaths : (form.questions.map (·.xpath)).Nodup)
  (hrow : ∀ k ∉ MetaKey.linkKeys, row.get? k = (raw.normalize (Codebook.made form options) options
    (Codebook.sectionNamed form options s.sectionName)).get? k)
  (hstart : SystemDraft.start (Codebook.made form options) options source created s = .ok d)
  (hq : form.Holds s.sectionName q) (h : form.Unshared options s.sectionName q)

include hxpaths hrow hstart hq h

/-- The value that is stored for the choice of a select-one is that of one of its labels. -/
theorem exists_valueLabel_of_answerTo (htype : q.type = .selectOne) {choice : Choice}
    (hchoice : choice ∈ form.choicesOf q) (hanswer : raw.answerTo q = some (.text choice.name))
    (hlabel : options.showChoiceLabels = true →
      Row.labelledCell ((Codebook.made form options).choiceLabel? q.xpath) (.text choice.name) =
        .text choice.name)
    (hreference : ¬ ['$', '{'] <:+: choice.name.toList) {i : Nat}
    (hi : s.columns[i]? = some (form.questionColumn options q)) :
    ∃ v value, d.draft.vars[i]? = some v ∧ (d.caseOf s row)[i]? = some value ∧
      ∃ l ∈ v.valueLabels, l.value = value ∧
        l.label = ((form.labelLanguages options).textOf choice.label).getD choice.name := by
  obtain ⟨name, hv, hvalue⟩ := SystemDraft.exists_variable_of_start hstart row hi
  have hlink : q.xpath ∉ MetaKey.linkKeys := fun hmem ↦ h.metadata (List.mem_cons_of_mem _ hmem)
  have hcell : row.get? (form.questionColumn options q).key = some (.text choice.name) :=
    (hrow _ hlink).trans
      (Row.get?_normalize_selectOne hxpaths h hq htype hanswer hlabel hreference)
  rw [hcell] at hvalue
  exact ⟨_, _, hv, hvalue, SystemFile.exists_valueLabel
    (Codebook.get?_questions_made options hxpaths hq.mem_questions) htype hchoice name⟩

/-- No missing value is stored for a choice of a select-multiple that is selected. -/
theorem exists_not_isMissing_of_mem_selected (htype : q.type = .selectMultiple)
    (hsplit : options.splitSelectMultiples = true) {c : ChoiceColumn}
    (hc : c ∈ form.choiceColumns options q)
    (hmem : c.name ∈ Row.selected ((raw.answerTo q).filter (!·.isNull)))
    (htext : SplitPolicy.ofOptions options = .value → isNumericName c.name = true →
      (Row.shownChoice (Codebook.made form options) options q.xpath c.name).getD c.name = c.name ∧
        (Numeral.readFloat? c.name).map Float.toBits ≠ some missingBits) {i : Nat}
    (hi : s.columns[i]? = some (Form.choiceColumn options q c)) :
    ∃ v value, d.draft.vars[i]? = some v ∧ (d.caseOf s row)[i]? = some value ∧
      ¬ v.IsMissing value := by
  obtain ⟨name, hv, hvalue⟩ := SystemDraft.exists_variable_of_start hstart row hi
  have hderived : Form.choiceColumn options q c ∈ form.derivedColumns options q := by
    simp only [Form.derivedColumns, htype, hsplit, if_true]
    exact List.mem_map_of_mem hc
  have hcell := (hrow _ (Form.key_not_mem_linkKeys hderived)).trans
    (Row.get?_normalize_choice hxpaths h hq htype hsplit hc (Codebook.made form options) raw)
  rw [Row.choiceCell_of_mem_selected hmem] at hcell
  rw [hcell, Option.filter_some, if_pos ?_] at hvalue
  · exact ⟨_, _, hv, hvalue, SystemFile.not_isMissing_choice _ rfl htext _ name⟩
  · cases SplitPolicy.ofOptions options <;> rfl

end Kept

/-- The case of the row of a record keeps the choices that were made. -/
theorem keepsChoices_of_isRowOf {form : Form} {options : Options} {naming : SheetNaming}
    (hxpaths : (form.questions.map (·.xpath)).Nodup) {r i : Record} {s : Sheet} {row : Row}
    (h : (ExportPlan.madePlan form options naming).IsRowOf r s.sectionName i row)
    {source : SuffixSource} {created : DateTime} {d : SystemDraft}
    (hstart : SystemDraft.start (Codebook.made form options) options source created s = .ok d) :
    KeepsChoices (Codebook.made form options) options s d.draft.vars (d.caseOf s row)
      (i.cells ((Codebook.made form options).mediaRule? options) r.attachments).answerTo := by
  obtain ⟨raw, hraw, hrow⟩ := ExportPlan.exists_raw_of_isRowOf h
  constructor
  case selectOne =>
    intro q hq hunshared htype choice hchoice hanswer hlabel hreference j hj
    rw [← hraw q hunshared] at hanswer
    exact exists_valueLabel_of_answerTo hxpaths hrow hstart hq hunshared htype hchoice hanswer
      hlabel hreference hj
  case selectMultiple =>
    intro q hq hunshared htype hsplit c hc hmem htext j hj
    rw [← hraw q hunshared] at hmem
    exact exists_not_isMissing_of_mem_selected hxpaths hrow hstart hq hunshared htype hsplit hc hmem
      htext hj

namespace ExportPlan

/-- A row of a record in a submission is stored with the choices that were made: whichever rows the
file of its sheet has by then, unless it has as many as it can count, the case of the row is written
to it, and keeps them. -/
def StoresChoices (p : ExportPlan) (source : SuffixSource) (created : DateTime) (r i : Record)
    (s : Sheet) (row : Row) : Prop :=
  ∀ d, SystemDraft.start p.book p.options source created s = .ok d →
    (∀ rows, (d.afterRows s rows).draft.count < SystemFile.maxCases →
      let d' := d.afterRows s rows
      d'.addRow s row = (.ok (), { d' with draft := { d'.draft with
        written := SystemFile.caseBytes d.draft.vars (d.caseOf s row) :: d'.draft.written
        count := d'.draft.count + 1 } })) ∧
    KeepsChoices p.book p.options s d.draft.vars (d.caseOf s row)
      (i.cells (p.book.mediaRule? p.options) r.attachments).answerTo

variable {form : Form} {options : Options} {naming : SheetNaming}

/-- The row that is written for a trace in a declared section is stored with the choices of its
record. -/
theorem exists_storesChoices_write (hxpaths : (form.questions.map (·.xpath)).Nodup) {done : Nat}
    {counters : Counters} {r : Record} {t : Trace}
    (ht : t ∈ r.traces ((Codebook.made form options).mediaRule? options) form.name done counters)
    (hs : t.sectionName ∈ form.name :: form.repeats) (source : SuffixSource) (created : DateTime) :
    let p := madePlan form options naming
    ∃ s i, p.sheets[(p.write t).1]? = some s ∧ s.sectionName = t.sectionName ∧
      r.at? form.name t.place = some (t.sectionName, i) ∧
      p.StoresChoices source created r i s (p.write t).2 := by
  obtain ⟨i, hat, hrow⟩ := exists_isRowOf_write naming ht hs
  obtain ⟨s, hsheet, hname⟩ := exists_sheet options naming hs
  refine ⟨s, i, hsheet, hname, hat, fun d hstart ↦
    ⟨fun rows hcount ↦ SystemDraft.addRow_afterRows hstart rows _ hcount, ?_⟩⟩
  rw [← hname] at hrow
  exact keepsChoices_of_isRowOf hxpaths hrow hstart

/-- Every record of a submission in a declared section has a row that is stored with its choices. -/
theorem exists_row_storesChoices (hxpaths : (form.questions.map (·.xpath)).Nodup)
    (source : SuffixSource) (created : DateTime) {data : DataFile} {r i : Record}
    (hr : r ∈ DataFile.readable data.submissions) {place : Place} {name : String}
    (hat : r.at? form.name place = some (name, i)) (hname : name ∈ form.name :: form.repeats) :
    let p := madePlan form options naming
    ∃ x s row, p.sheets[x]? = some s ∧ s.sectionName = name ∧ (x, row) ∈ p.rows data ∧
      p.StoresChoices source created r i s row := by
  intro p
  obtain ⟨n, hn⟩ := List.mem_iff_getElem?.1 hr
  have htrace : ∃ t ∈ Record.tracesAfter ((Codebook.made form options).mediaRule? options)
      form.name 0 KeyMap.empty (DataFile.readable data.submissions),
      t.submission = 0 + n ∧ t.place = place :=
    Record.mem_tracesAfter_iff.2 ⟨r, hn, _, hat⟩
  obtain ⟨t, hmem, hsubmission, rfl⟩ := htrace
  -- the trace is one of the submission itself, and its record is the one at the place
  obtain ⟨m, r', c, hm, ht, -⟩ := Record.exists_of_mem_tracesAfter hmem
  rw [Record.submission_of_mem_traces ht, Nat.add_left_cancel_iff] at hsubmission
  obtain rfl := Option.some.inj ((hsubmission ▸ hm).symm.trans hn)
  obtain ⟨i', hat'⟩ := Record.at?_of_mem_traces ht
  obtain ⟨rfl, rfl⟩ := Prod.mk.inj (Option.some.inj (hat'.symm.trans hat))
  obtain ⟨s, i, hsheet, hname', hat'', hstores⟩ :=
    exists_storesChoices_write hxpaths ht hname source created
  obtain rfl := (Prod.mk.inj (Option.some.inj (hat''.symm.trans hat))).2
  refine ⟨_, s, _, hsheet, hname', ?_, hstores⟩
  rw [rows_eq, writesAfter_eq_filter]
  exact List.mem_map.2 ⟨t, List.mem_filter.2 ⟨hmem, decide_eq_true hname⟩, rfl⟩

/-- Every row that is written is stored with the choices of a record of a submission. -/
theorem exists_record_storesChoices (hxpaths : (form.questions.map (·.xpath)).Nodup)
    (source : SuffixSource) (created : DateTime) {data : DataFile} {x : Nat} {row : Row}
    (hrow : (x, row) ∈ (madePlan form options naming).rows data) :
    let p := madePlan form options naming
    ∃ r ∈ DataFile.readable data.submissions, ∃ place i s, p.sheets[x]? = some s ∧
      r.at? form.name place = some (s.sectionName, i) ∧
      p.StoresChoices source created r i s row := by
  intro p
  rw [rows_eq, writesAfter_eq_filter] at hrow
  obtain ⟨t, ht, hwrite⟩ := List.mem_map.1 hrow
  obtain ⟨ht, hs⟩ := List.mem_filter.1 ht
  obtain ⟨n, r, c, hn, ht, -⟩ := Record.exists_of_mem_tracesAfter ht
  obtain ⟨s, i, hsheet, hname, hat, hstores⟩ :=
    exists_storesChoices_write hxpaths ht (of_decide_eq_true hs) source created
  obtain ⟨rfl, rfl⟩ := Prod.mk.inj hwrite
  exact ⟨r, List.mem_of_getElem? hn, t.place, i, s, hsheet, hname ▸ hat, hstores⟩

end ExportPlan

/-- **System files keep the choices that were made**, for every form that has a codebook, all
options and all submissions. Every record of a submission in a declared section has a row on the
sheet of this section, and every row that is written is one of these; the case of the row keeps the
choices that answer the record's selects. -/
theorem keepsChoices_rows {form : Form} {options : Options} {book : Codebook}
    (hbook : Codebook.ofForm form (ExportFormat.savZip.effective options) = .ok book)
    (source : SuffixSource) (created : DateTime) (data : DataFile) :
    let p := ExportPlan.make book (ExportFormat.savZip.effective options) .file
    (∀ r ∈ DataFile.readable data.submissions, ∀ place name i,
      r.at? form.name place = some (name, i) → name ∈ form.name :: form.repeats →
      ∃ x s row, p.sheets[x]? = some s ∧ s.sectionName = name ∧ (x, row) ∈ p.rows data ∧
        p.StoresChoices source created r i s row) ∧
    ∀ x row, (x, row) ∈ p.rows data → ∃ r ∈ DataFile.readable data.submissions, ∃ place i s,
      p.sheets[x]? = some s ∧ r.at? form.name place = some (s.sectionName, i) ∧
        p.StoresChoices source created r i s row := by
  obtain ⟨rfl, -, -, hxpaths, -⟩ := Codebook.ofForm_eq_ok_iff.1 hbook
  exact ⟨fun r hr place name i hat hname ↦
      ExportPlan.exists_row_storesChoices hxpaths source created hr hat hname,
    fun x row hrow ↦ ExportPlan.exists_record_storesChoices hxpaths source created hrow⟩

/-- A select-one whose choices are named by numerals. -/
def ratingQuestion : Question where
  name := "rating"
  xpath := "rating"
  type := .selectOne
  choices := [⟨"1", some (.plain "Poor")⟩, ⟨"2", some (.plain "Good")⟩]

/-- A form with this question. -/
def ratingForm : Form where
  name := "visit"
  children := [.question ratingQuestion]

/-- A submission with an answer to it. -/
def ratingRecord : Record := [("rating", .scalar (.text "2"))]

/-- The plan of an export of the form to system files. -/
def ratingPlan (options : Options) : ExportPlan :=
  .make (Codebook.made ratingForm (ExportFormat.savZip.effective options))
    (ExportFormat.savZip.effective options) .file

/-- The answer is stored as a number that has the label of the choice. -/
theorem keepsChoices_ratingRecord :
    Codebook.ofForm ratingForm (ExportFormat.savZip.effective {}) = .ok (ratingPlan {}).book ∧
      ∃ x s row d v value, (ratingPlan {}).sheets[x]? = some s ∧
        (x, row) ∈ (ratingPlan {}).rows ⟨none, [.ok ratingRecord]⟩ ∧
        SystemDraft.start (ratingPlan {}).book (ratingPlan {}).options oneSuffix
          (.midnight Value.gregorianEve) s = .ok d ∧
        d.draft.vars[0]? = some v ∧ (d.caseOf s row)[0]? = some value ∧
        ∃ l ∈ v.valueLabels, l.value = value ∧ l.label = "Good" := by
  have hbook : Codebook.ofForm ratingForm (ExportFormat.savZip.effective {}) =
      .ok (ratingPlan {}).book :=
    Codebook.ofForm_eq_ok_iff.2 ⟨rfl, by decide, by decide, by decide, by decide⟩
  have hholds : ratingForm.Holds "visit" ratingQuestion :=
    Codebook.mem_questionsOf.1 (by decide)
  have honly : ∀ q ∈ ratingForm.questions, q = ratingQuestion := by decide
  have hunshared : ratingForm.Unshared (ExportFormat.savZip.effective {}) "visit" ratingQuestion :=
    ⟨fun q hq _ hne ↦ absurd (honly q hq.mem_questions) hne,
      fun q hq _ hne ↦ absurd (honly q hq.mem_questions) hne, by decide⟩
  obtain ⟨hrows, -⟩ := keepsChoices_rows hbook oneSuffix (.midnight Value.gregorianEve)
    ⟨none, [.ok ratingRecord]⟩
  obtain ⟨x, s, row, hsheet, hname, hrow, hstores⟩ :=
    hrows ratingRecord List.mem_cons_self [] "visit" ratingRecord rfl List.mem_cons_self
  have hcolumns : ∀ s ∈ (ratingPlan {}).sheets,
      s.columns[0]? = some (ratingForm.questionColumn (ExportFormat.savZip.effective {})
        ratingQuestion) := by decide +kernel
  have hstarts : ∀ s ∈ (ratingPlan {}).sheets, (SystemDraft.start (ratingPlan {}).book
      (ratingPlan {}).options oneSuffix (.midnight Value.gregorianEve) s).isOk = true := by
    decide +kernel
  have hs := List.mem_of_getElem? hsheet
  obtain ⟨d, hd⟩ : ∃ d, SystemDraft.start (ratingPlan {}).book (ratingPlan {}).options oneSuffix
      (.midnight Value.gregorianEve) s = .ok d := by
    have hok := hstarts s hs
    cases hstart : SystemDraft.start (ratingPlan {}).book (ratingPlan {}).options oneSuffix
        (.midnight Value.gregorianEve) s with
    | error e => simp [hstart, Except.isOk, Except.toBool] at hok
    | ok d => exact ⟨d, rfl⟩
  obtain ⟨v, value, hv, hvalue, hlabel⟩ := (hstores d hd).2.selectOne ratingQuestion
    (hname ▸ hholds) (hname ▸ hunshared) rfl ⟨"2", some (.plain "Good")⟩ (by decide) rfl
    (fun hshow ↦ by cases hshow) (by decide) 0 (hcolumns s hs)
  exact ⟨hbook, x, s, row, d, v, value, hsheet, hrow, hd, hv, hvalue, hlabel⟩

end SurveyExport
