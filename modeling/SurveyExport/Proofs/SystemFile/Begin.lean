import Mathlib.Data.List.Forall2
import SurveyExport.Proofs.Export.Writes
import SurveyExport.Proofs.Row.Frame
import SurveyExport.Proofs.SystemFile.Fields
import SurveyExport.Proofs.SystemFile.Naming
import SurveyExport.Target.Build

/-!
# Opening the system files of an export

An archive of system files is opened by beginning one file for each sheet. The variables of a sheet
are made from its columns, and they are accepted: their names are valid and new, and their texts
have the greatest width (`SystemFile.checkVariables_sheetVariables?`). So a file can be begun for
every sheet that has a column, and is refused for one that has none, because the options leave out
all of its columns. `begin_systemEntry` says this of all sheets of an export together.

What is asked for is that suffixes are four hexadecimal digits and do not run out, and that no
question's column has a title of braces alone. The titles of all other columns hold other characters
(`nameable_of_mem_columns`).
-/

namespace SurveyExport

open SystemFile (Nameable IsSuffix)

/-! ### Titles that can be named -/

/-- What stands at the end of an xpath stands in its last segment. -/
theorem Text.mem_lastSegment {xpath : String} {cs : List Char} {x : Char}
    (h : xpath.toList = cs ++ [x]) (hx : x ≠ '/') : x ∈ (lastSegment xpath).toList := by
  rw [lastSegment, splitLast?]
  cases hsplit : splitLastChars? '/' xpath.toList with
  | none => simp [h]
  | some p =>
    obtain ⟨before, after⟩ := p
    have heq := (splitLastChars?_eq_some hsplit).1
    rw [h] at heq
    -- were nothing behind the slash, it would be the character at the end
    rcases List.eq_nil_or_concat after with rfl | ⟨front, last, rfl⟩
    · exact absurd (List.append_inj' heq rfl).2 (by simp [hx])
    · rw [List.concat_eq_append, ← List.cons_append, ← List.append_assoc] at heq
      have hlast := (List.append_inj' heq rfl).2
      simp only [List.cons.injEq, and_true] at hlast
      simp [hlast]

/-- Only slashes are replaced by a delimiter, and not by a brace. -/
theorem Titled.nameable_delimited {delimiter : Delimiter} {s : String} (h : Nameable s) :
    Nameable (delimited delimiter s) := by
  obtain ⟨c, hc, hopen, hclose⟩ := h
  cases delimiter with
  | slash => exact ⟨c, hc, hopen, hclose⟩
  | dot =>
    simp only [Nameable, delimited, String.toList_ofList, List.mem_map, exists_exists_and_eq_and]
    refine ⟨c, hc, ?_⟩
    split <;> [decide; exact ⟨hopen, hclose⟩]

theorem nameable_of_mem {s : String} {c : Char} (hc : c ∈ s.toList) (h : c ≠ '{' ∧ c ≠ '}') :
    Nameable s := ⟨c, hc, h⟩

/-- The column of a choice has a slash in its title. -/
theorem nameable_choiceColumn (form : Form) (options : Options) (q : Question) {c : ChoiceColumn}
    (hc : c ∈ form.choiceColumns options q) : Nameable (Form.choiceColumn options q c).title := by
  obtain ⟨choice, -, rfl⟩ := List.mem_map.1 hc
  refine Titled.nameable_delimited (nameable_of_mem (c := '/') ?_ (by decide))
  simp only [Titled.base]
  split <;> simp

/-- The ending of a component's key ends in a letter. -/
theorem exists_last_of_mem_pointSuffixes {suffix : String} (h : suffix ∈ pointSuffixes) :
    ∃ cs x, suffix.toList = cs ++ [x] ∧ x ≠ '/' ∧ x ≠ '{' ∧ x ≠ '}' := by
  simp only [pointSuffixes, List.mem_cons, List.not_mem_nil, or_false] at h
  rcases h with rfl | rfl | rfl | rfl
  · exact ⟨"latitud".toList, 'e', by decide⟩
  · exact ⟨"longitud".toList, 'e', by decide⟩
  · exact ⟨"altitud".toList, 'e', by decide⟩
  · exact ⟨"precisio".toList, 'n', by decide⟩

/-- The column of a component keeps the end of its key in its title. -/
theorem nameable_componentColumn (options : Options) (q : Question) {key : String}
    (hkey : key ∈ pointKeys q.xpath) : Nameable (Form.componentColumn options q key).title := by
  obtain ⟨suffix, hs, hkey⟩ := List.mem_map.1 hkey
  obtain ⟨cs, x, hlist, hslash, hbrace⟩ := exists_last_of_mem_pointSuffixes hs
  obtain ⟨front, hfront⟩ : ∃ front, key.toList = front ++ [x] := by
    rw [← hkey, String.toList_append, hlist]
    exact ⟨_, (List.append_assoc ..).symm⟩
  refine Titled.nameable_delimited (nameable_of_mem (c := x) ?_ hbrace)
  simp only [Titled.base]
  split
  · exact Text.mem_lastSegment hfront hslash
  · simp [hfront]

/-- The title of every column that is not a question's own can be named. -/
theorem nameable_of_mem_columns {form : Form} {options : Options} {s : String} {c : Column}
    (hc : c ∈ (Codebook.sectionNamed form options s).columns) (horigin : c.origin ≠ .question) :
    Nameable c.title := by
  obtain ⟨q, -, -, rfl | hc⟩ := Section.exists_question_of_mem_columns hc
  · exact absurd rfl horigin
  · simp only [Form.derivedColumns] at hc
    split at hc
    · split at hc
      · obtain ⟨choice, hchoice, rfl⟩ := List.mem_map.1 hc
        exact nameable_choiceColumn form options q hchoice
      · cases hc
    · obtain ⟨key, hkey, rfl⟩ := List.mem_map.1 hc
      exact nameable_componentColumn options q hkey
    · cases hc

/-- So can those of the metadata columns. -/
theorem nameable_extra {form : Form} {options : Options} {key : String}
    (hkey : key ∈ (Codebook.made form options).extraColumns) :
    Nameable (Column.extra key).title := by
  have hall : ∀ key ∈ MetaKey.sheetColumns ++ MetaKey.reviewColumns, '_' ∈ key.toList := by decide
  refine nameable_of_mem (hall key ?_) (by decide)
  rcases List.mem_append.1 hkey with h | h
  · exact List.mem_append_left _ h
  · split at h
    · exact List.mem_append_right _ h
    · cases h

/-! ### The variables of a sheet -/

namespace SystemFile

variable {draw : Nat → String} {limit : Nat} {book : Codebook} {policy : SplitPolicy}
  {pool : NamePool} {assigned : KeyMap String} {cs : List Column}
  {vs : List (Variable × Conversion)}

/-- A variable with its conversion is that of a column, under some name. -/
def IsVariableOf (book : Codebook) (policy : SplitPolicy) (c : Column)
    (v : Variable × Conversion) : Prop :=
  v.2 = conversionOf book policy c ∧ ∃ name, v.1 = variableOf book v.2 c name

/-- The variables of columns, taken apart. -/
theorem variablesAfter?_cons_eq_some_iff {c : Column} {rest : List Column} :
    variablesAfter? draw limit book policy pool assigned (c :: rest) = some vs ↔
      ∃ name after others, pool.assign? draw limit (namingTitle assigned c) = some (name, after) ∧
        variablesAfter? draw limit book policy after (assigned.insert c.key name) rest =
          some others ∧
        vs = (variableOf book (conversionOf book policy c) c name, conversionOf book policy c) ::
          others := by
  simp only [variablesAfter?, Option.bind_eq_bind, Option.bind_eq_some_iff, Option.some.injEq,
    Prod.exists]
  constructor
  · rintro ⟨name, after, hname, others, hothers, rfl⟩
    exact ⟨name, after, others, hname, hothers, rfl⟩
  · rintro ⟨name, after, others, hname, hothers, rfl⟩
    exact ⟨name, after, hname, others, hothers, rfl⟩

/-- **Every column has a variable**, in order. -/
theorem forall₂_variablesAfter?
    (h : variablesAfter? draw limit book policy pool assigned cs = some vs) :
    List.Forall₂ (IsVariableOf book policy) cs vs := by
  induction cs generalizing pool assigned vs with
  | nil =>
    obtain rfl := Option.some.inj h
    exact .nil
  | cons c rest ih =>
    obtain ⟨name, after, others, -, hothers, rfl⟩ := variablesAfter?_cons_eq_some_iff.1 h
    exact .cons ⟨rfl, name, rfl⟩ (ih hothers)

/-- The suffix that a component repeats goes behind its title. -/
theorem nameable_namingTitle {c : Column} (h : Nameable c.title) :
    Nameable (namingTitle assigned c) := by
  obtain ⟨x, hx, hbrace⟩ := h
  rw [namingTitle.eq_def]
  split
  · split
    · exact nameable_of_mem (c := x) (by simp [hx]) hbrace
    · exact ⟨x, hx, hbrace⟩
  · exact ⟨x, hx, hbrace⟩

/-- The names of variables are valid, new, and differ from each other, not in case alone. -/
theorem names_variablesAfter? (hdraw : ∀ i, IsSuffix (draw i))
    (htitles : ∀ c ∈ cs, Nameable c.title)
    (h : variablesAfter? draw limit book policy pool assigned cs = some vs) :
    (∀ v ∈ vs, ValidName v.1.name) ∧ (vs.map fun v ↦ Text.lowercase v.1.name).Nodup ∧
      ∀ v ∈ vs, Text.lowercase v.1.name ∉ pool.names.map Text.lowercase := by
  induction cs generalizing pool assigned vs with
  | nil =>
    obtain rfl := Option.some.inj h
    simp
  | cons c rest ih =>
    obtain ⟨name, after, others, hname, hothers, rfl⟩ := variablesAfter?_cons_eq_some_iff.1 h
    obtain ⟨htitle, hrest⟩ := List.forall_mem_cons.1 htitles
    obtain ⟨hvalid, hnodup, hnew⟩ := ih hrest hothers
    obtain ⟨hgives, -⟩ := NamePool.gives_of_assign? hname
    have hname' := NamePool.validName_of_assign? hdraw (nameable_namingTitle htitle) hname
    have hvar : (variableOf book (conversionOf book policy c) c name).name = name := by
      cases conversionOf book policy c <;> rfl
    -- the names that follow are new beside this one, too
    rw [hgives.names, List.map_append, List.map_singleton] at hnew
    simp only [List.mem_append, List.mem_singleton, not_or] at hnew
    simp only [List.forall_mem_cons, List.map_cons, List.nodup_cons, hvar]
    refine ⟨⟨hname', hvalid⟩, ⟨fun hmem ↦ ?_, hnodup⟩, hgives.new, fun v hv ↦ (hnew v hv).1⟩
    obtain ⟨v, hv, heq⟩ := List.mem_map.1 hmem
    exact (hnew v hv).2 heq

/-- The width of a text is the greatest there is. -/
theorem fits_of_isVariableOf {c : Column} {v : Variable × Conversion}
    (h : IsVariableOf book policy c v) : v.1.type.Fits := by
  obtain ⟨-, name, hv⟩ := h
  rw [hv]
  cases v.2
  case text => exact ⟨by decide, le_refl _⟩
  all_goals trivial

/-- **The variables of a sheet are accepted**, if the titles of its columns can be named. -/
theorem checkVariables_sheetVariables? {s : Sheet} (hdraw : ∀ i, IsSuffix (draw i))
    (htitles : ∀ c ∈ s.columns, Nameable c.title)
    (h : sheetVariables? draw limit book policy s = some vs) :
    checkVariables [] (vs.map (·.1)) = .ok () := by
  obtain ⟨hvalid, hnodup, -⟩ := names_variablesAfter? hdraw htitles h
  rw [checkVariables_eq_ok_iff, List.forall_mem_map, List.map_map]
  refine ⟨fun v hv ↦ ⟨hvalid v hv, ?_⟩, hnodup, fun _ _ ↦ List.not_mem_nil⟩
  obtain ⟨i, hi⟩ := List.mem_iff_getElem?.1 hv
  have hforall := forall₂_variablesAfter? h
  have hlt : i < s.columns.length := hforall.length_eq ▸ (List.getElem?_eq_some_iff.1 hi).1
  obtain ⟨hi', rfl⟩ := List.getElem?_eq_some_iff.1 hi
  exact fits_of_isVariableOf (hforall.get hlt hi')

end SystemFile

/-! ### Beginning the files -/

/-- **A file is begun for a sheet that has a column**, and refused for one that has none. -/
theorem SystemDraft.exists_start {book : Codebook} {options : Options} {source : SuffixSource}
    (created : DateTime) {s : Sheet} (hdraw : ∀ i, IsSuffix (source.draw i))
    (hends :
      (SystemFile.sheetVariables? source.draw source.limit book (.ofOptions options) s).isSome)
    (htitles : ∀ c ∈ s.columns, Nameable c.title) :
    if s.columns = [] then
      SystemDraft.start book options source created s = .error (.systemFile .noVariables)
    else ∃ d, SystemDraft.start book options source created s = .ok d := by
  obtain ⟨vs, hvs⟩ := Option.isSome_iff_exists.1 hends
  have hlength := (SystemFile.forall₂_variablesAfter? hvs).length_eq
  have hcheck := SystemFile.checkVariables_sheetVariables? hdraw htitles hvs
  simp only [SystemDraft.start, hvs]
  split
  · rename_i hnil
    rw [hnil, List.length_nil, eq_comm, List.length_eq_zero_iff] at hlength
    rw [hlength]
    rfl
  · rename_i hcons
    have hvars : vs.map (·.1) ≠ [] := fun h ↦ by
      rw [List.map_eq_nil_iff.1 h, List.length_nil, List.length_eq_zero_iff] at hlength
      exact hcons hlength
    obtain ⟨d, hd⟩ : ∃ d,
        SystemFile.Draft.start ⟨book.form.title, created⟩ (vs.map (·.1)) = .ok d :=
      ⟨_, SystemFile.start_eq_ok_iff.mpr ⟨hvars, hcheck, rfl⟩⟩
    rw [hd]
    exact ⟨_, rfl⟩

namespace Archive

variable {α β ε : Type} {kind : EntryKind α β ε}

/-- If every sheet has a draft, all are begun. -/
theorem startAll_fst_of_forall {sheets : List Sheet} (h : ∀ s ∈ sheets, ∃ d, kind.start s = .ok d)
    (a : Archive α β) : (startAll kind a sheets).1 = .ok () := by
  induction sheets generalizing a with
  | nil => rfl
  | cons s rest ih =>
    obtain ⟨⟨d, hd⟩, hrest⟩ := List.forall_mem_cons.1 h
    rw [startAll, hd]
    exact ih hrest _

/-- If a sheet is refused, and none for another reason, the archive is. -/
theorem startAll_fst_of_exists {sheets : List Sheet} {e : ε}
    (h : ∀ s ∈ sheets, (∃ d, kind.start s = .ok d) ∨ kind.start s = .error e)
    (hrefused : ∃ s ∈ sheets, kind.start s = .error e) (a : Archive α β) :
    (startAll kind a sheets).1 = .error e := by
  induction sheets generalizing a with
  | nil => simp at hrefused
  | cons s rest ih =>
    obtain ⟨hs, hrest⟩ := List.forall_mem_cons.1 h
    rcases hs with ⟨d, hd⟩ | he
    · rw [startAll, hd]
      refine ih hrest ?_ _
      obtain ⟨t, ht, he⟩ := hrefused
      rcases List.mem_cons.1 ht with rfl | ht
      · rw [hd] at he
        cases he
      · exact ⟨t, ht, he⟩
    · rw [startAll, he]

end Archive

/-- The titles of a sheet's columns can be named, if those of its questions' own can. -/
theorem nameable_of_mem_sheet {form : Form} {options : Options} {naming : SheetNaming} {s : Sheet}
    (hs : s ∈ (ExportPlan.madePlan form options naming).sheets)
    (htitles : ∀ c ∈ s.columns, c.origin = .question → Nameable c.title) :
    ∀ c ∈ s.columns, Nameable c.title := by
  intro c hc
  by_cases horigin : c.origin = .question
  · exact htitles c hc horigin
  · rw [ExportPlan.sheets_madePlan] at hs
    obtain ⟨e, -, rfl⟩ := List.mem_map.1 hs
    rcases List.mem_append.1 (List.mem_filter.1 hc).1 with hc | hc
    · exact nameable_of_mem_columns hc horigin
    · obtain ⟨key, hkey, rfl⟩ := List.mem_map.1 hc
      exact nameable_extra hkey

/-- **An archive of system files is opened** for every form that has a codebook, if every sheet
keeps a column, and refused otherwise for want of variables. Suffixes are four hexadecimal digits
and do not run out, and no question's own column is titled by braces alone. -/
theorem begin_systemEntry {form : Form} {options : Options} {book : Codebook}
    (hbook : Codebook.ofForm form (ExportFormat.savZip.effective options) = .ok book)
    {source : SuffixSource} (hdraw : ∀ i, IsSuffix (source.draw i)) (created : DateTime)
    (hends : ∀ s ∈ (ExportPlan.make book (ExportFormat.savZip.effective options) .file).sheets,
      (SystemFile.sheetVariables? source.draw source.limit book
        (.ofOptions (ExportFormat.savZip.effective options)) s).isSome)
    (htitles : ∀ s ∈ (ExportPlan.make book (ExportFormat.savZip.effective options) .file).sheets,
      ∀ c ∈ s.columns, c.origin = .question → Nameable c.title) :
    let options := ExportFormat.savZip.effective options
    let sheets := (ExportPlan.make book options .file).sheets
    ((Archive.sink (systemEntry book options source created) sheets).begin {}).1 =
      if ∀ s ∈ sheets, s.columns ≠ [] then .ok () else .error (.systemFile .noVariables) := by
  obtain ⟨rfl, -⟩ := Codebook.ofForm_eq_ok_iff.1 hbook
  intro options' sheets
  have hstart : ∀ s ∈ sheets, if s.columns = [] then
      (systemEntry (Codebook.made form options') options' source created).start s =
        .error (.systemFile .noVariables)
      else ∃ d, (systemEntry (Codebook.made form options') options' source created).start s =
        .ok d := fun s hs ↦
    SystemDraft.exists_start created hdraw (hends s hs) (nameable_of_mem_sheet hs (htitles s hs))
  show (Archive.startAll _ _ _).1 = _
  split
  · rename_i hcolumns
    refine Archive.startAll_fst_of_forall (fun s hs ↦ ?_) _
    have := hstart s hs
    rwa [if_neg (hcolumns s hs)] at this
  · rename_i hcolumns
    obtain ⟨s, hs, hnil⟩ : ∃ s ∈ sheets, s.columns = [] := by simpa using hcolumns
    refine Archive.startAll_fst_of_exists (fun t ht ↦ ?_) ⟨s, hs, ?_⟩ _
    · have := hstart t ht
      split at this
      · exact .inr this
      · exact .inl this
    · have := hstart s hs
      rwa [if_pos hnil] at this

/-- A form with two questions whose names differ in case alone. -/
def clashForm : Form where
  name := "visit"
  children := [.question { name := "n", xpath := "n", type := .text },
    .question { name := "N", xpath := "N", type := .integer }]

/-- The plan of its export to system files. -/
def clashPlan (options : Options) : ExportPlan :=
  .make (Codebook.made clashForm (ExportFormat.savZip.effective options))
    (ExportFormat.savZip.effective options) .file

/-- A source of one suffix. -/
def oneSuffix : SuffixSource := ⟨fun _ ↦ "00ff", 1⟩

/-- The answer when its system files are opened. -/
def clashBegin (options : Options) : Except SinkFault Unit :=
  ((Archive.sink (systemEntry (clashPlan options).book (clashPlan options).options oneSuffix
    (.midnight SystemFile.Value.gregorianEve)) (clashPlan options).sheets).begin {}).1

/-- Both questions have a variable. -/
theorem begin_clashForm :
    Codebook.ofForm clashForm (ExportFormat.savZip.effective {}) = .ok (clashPlan {}).book ∧
      clashBegin {} = .ok () := by
  have hbook : Codebook.ofForm clashForm (ExportFormat.savZip.effective {}) =
      .ok (clashPlan {}).book :=
    Codebook.ofForm_eq_ok_iff.2 ⟨rfl, by decide, by decide, by decide, by decide⟩
  have hdraw : IsSuffix "00ff" := ⟨rfl, by simp [Numeral.isHexDigit]⟩
  have hends : ∀ s ∈ (clashPlan {}).sheets, (SystemFile.sheetVariables? oneSuffix.draw
      oneSuffix.limit (clashPlan {}).book (.ofOptions (clashPlan {}).options) s).isSome := by
    decide +kernel
  have hnames : ∀ s ∈ (clashPlan {}).sheets, ∀ c ∈ s.columns, c.origin = .question →
      c.title ∈ ["n", "N"] := by decide +kernel
  have htitles : ∀ title ∈ ["n", "N"], Nameable title := by
    simp only [List.forall_mem_cons]
    exact ⟨nameable_of_mem (c := 'n') (by simp) (by simp),
      nameable_of_mem (c := 'N') (by simp) (by simp), fun _ h ↦ absurd h List.not_mem_nil⟩
  refine ⟨hbook, (begin_systemEntry hbook (fun _ ↦ hdraw)
    (.midnight SystemFile.Value.gregorianEve) hends
      fun s hs c hc horigin ↦ htitles _ (hnames s hs c hc horigin)).trans (if_pos ?_)⟩
  decide +kernel

/-- If the options keep no column, the file is refused. -/
theorem begin_nothingKept :
    Codebook.ofForm clashForm (ExportFormat.savZip.effective { columns := some ["nothing"] }) =
        .ok (clashPlan { columns := some ["nothing"] }).book ∧
      clashBegin { columns := some ["nothing"] } = .error (.systemFile .noVariables) :=
  ⟨Codebook.ofForm_eq_ok_iff.2 ⟨rfl, by decide, by decide, by decide, by decide⟩, rfl⟩

end SurveyExport
