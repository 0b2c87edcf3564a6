import SurveyExport.Proofs.Codebook.ChoiceLists
import SurveyExport.Proofs.Export.Writes
import SurveyExport.Proofs.SystemFile.Choices
import SurveyExport.Proofs.WideTable.Cells

/-!
# Headings of the two kinds of tables

The columns of a question are titled and labelled twice: in the sheet of its section, where the
question is at hand, and in a wide table, where the question has to be found again from the key of
the column. `Form.Heads` says what the column of a key shows, and both headings are read off this.

They have the same titles and the same hashtags. They have the same label wherever a label is set;
where none is, a sheet falls back to the title, and a wide table to the bare name of the question or
the choice, or to the key of the component (`WideTable.exists_headedAs`).

A column is found again by its key if no other question has a column with that key. In the sheet,
several choices of one name share a column, which is that of the first
(`Section.mem_columns_cases`); the wide table looks for the first choice of that name, too. For the
label of a choice it cuts the key at its last slash, so that a slash in the name leads it astray.
-/

namespace SurveyExport

/-! ### What a column shows -/

/-- What the heading of a column is made of. -/
structure Heading where
  /-- What the column shows, as far as its title depends on it. -/
  shown : Titled
  /-- What stands before the label. -/
  lead : String
  /-- The label that is set. -/
  text : Option String
  /-- What the column shows, without the path to it. -/
  bare : String
  hashtag : Option String

namespace Form

variable {form : Form} {options : Options} {q : Question} {key : String} {h : Heading}

/-- The columns of a question with their headings: its own, one for each name among its choices, of
which the first choice with the name counts, and those of its components. -/
inductive Heads (form : Form) (options : Options) (q : Question) : String → Heading → Prop
  | own : Heads form options q q.xpath
      ⟨.question q.name, "", (form.labelLanguages options).textOf q.label, q.name, q.hashtag⟩
  | choice {choice : Choice} (htype : q.type = .selectMultiple)
      (hsplit : options.splitSelectMultiples = true)
      (hfirst : (form.splitChoices q).find? (·.name == choice.name) = some choice) :
      Heads form options q (q.xpath ++ "/" ++ choice.name)
        ⟨.choice q.name choice.name, q.name ++ options.groupDelimiter.text,
          (form.labelLanguages options).textOf choice.label, choice.name, none⟩
  | component {key : String} (htype : q.type = .geopoint) (hkey : key ∈ pointKeys q.xpath) :
      Heads form options q key ⟨.component, "", none, key, none⟩

/-- Only the question has a column with the key. -/
def HasOnly (form : Form) (options : Options) (q : Question) (key : String) : Prop :=
  ∀ q' ∈ form.questions, key ∈ form.ownKeys options q' → q' = q

/-- The names of the choices that the question is split into hold no slash. -/
def FreeOfSlashes (form : Form) (q : Question) : Prop :=
  ∀ choice ∈ form.splitChoices q, '/' ∉ choice.name.toList

theorem Heads.mem_ownKeys (hheads : form.Heads options q key h) :
    key ∈ form.ownKeys options q := by
  cases hheads with
  | own => exact List.mem_cons_self
  | @choice choice htype hsplit hfirst =>
    have hmem := List.mem_of_find?_eq_some hfirst
    have hcolumn : ∃ c ∈ form.choiceColumns options q, c.key = q.xpath ++ "/" ++ choice.name :=
      ⟨_, List.mem_map_of_mem hmem, rfl⟩
    obtain ⟨c, hc, hkey⟩ := hcolumn
    exact hkey ▸ choiceKey_mem_ownKeys htype (by rwa [if_pos hsplit])
  | component htype hkey => exact pointKey_mem_ownKeys htype hkey

/-- **The heading of a column on a sheet**: without a label, the title is shown. -/
theorem exists_heads_of_mem_columns {s : String} {c : Column}
    (hc : c ∈ (Codebook.sectionNamed form options s).columns) :
    ∃ q ∈ form.questions, ∃ h, form.Heads options q c.key h ∧
      c.title = options.columnTitle c.key h.shown ∧
      c.label = h.lead ++ h.text.getD c.title ∧ c.hashtag = h.hashtag := by
  obtain ⟨q, hq, -, rfl | hfind⟩ := Section.mem_columns_cases hc
  · exact ⟨q, (Codebook.mem_questionsOf.1 hq).mem_questions, _, .own, rfl, by simp [questionColumn],
      rfl⟩
  refine ⟨q, (Codebook.mem_questionsOf.1 hq).mem_questions, ?_⟩
  rw [derivedColumns] at hfind
  split at hfind
  · rename_i htype
    split at hfind
    · rename_i hsplit
      rw [choiceColumns, List.map_map, List.find?_map] at hfind
      obtain ⟨choice, hchoice, rfl⟩ := Option.map_eq_some_iff.1 hfind
      -- the first choice with the key is the first with the name
      have hkey (c : Choice) : (c.name == choice.name) =
          (q.xpath ++ "/" ++ c.name == q.xpath ++ "/" ++ choice.name) := by
        rw [Bool.eq_iff_iff, beq_iff_eq, beq_iff_eq, String.append_right_inj]
      have hfirst : (form.splitChoices q).find? (·.name == choice.name) = some choice := by
        simp only [hkey]
        exact hchoice
      exact ⟨_, .choice htype hsplit hfirst, rfl, rfl, rfl⟩
    · cases hfind
  · rename_i htype
    have hmem := List.mem_of_find?_eq_some hfind
    obtain ⟨key, hkey, rfl⟩ := List.mem_map.1 hmem
    exact ⟨_, .component htype hkey, rfl, by simp [componentColumn], rfl⟩
  · cases hfind

/-! ### The questions and choices that a wide table finds -/

/-- What a wide table finds under the keys of choices: the questions that are split, and their
choices. -/
theorem mem_choiceColumns_iff (hxpaths : (form.questions.map (·.xpath)).Nodup)
    {shown : String × String} :
    (key, shown) ∈ ((Codebook.made form options).splits.flatMap fun s ↦
        match (Codebook.made form options).questions.get? s.xpath with
        | some q => s.choices.map fun c ↦ (c.key, (q.name, c.name))
        | none => []) ↔
      ∃ q ∈ form.questions, q.type = .selectMultiple ∧ options.splitSelectMultiples = true ∧
        ∃ c ∈ form.choiceColumns options q, c.key = key ∧ (q.name, c.name) = shown := by
  rw [Codebook.splits_made, List.mem_flatMap]
  constructor
  · rintro ⟨t, ht, hmem⟩
    obtain ⟨q, hq, ht⟩ := List.mem_flatMap.1 ht
    have hq := Codebook.mem_placedQuestions.1 hq
    rw [Codebook.splitsOf] at ht
    split at ht
    · rename_i htype
      obtain rfl := List.mem_singleton.1 ht
      simp only [Codebook.get?_questions_made options hxpaths hq, List.mem_map] at hmem
      obtain ⟨c, hc, heq⟩ := hmem
      split at hc
      · rename_i hsplit
        exact ⟨q, hq, htype, hsplit, c, hc, (Prod.mk.inj heq).1, (Prod.mk.inj heq).2⟩
      · cases hc
    · cases ht
  · rintro ⟨q, hq, htype, hsplit, c, hc, rfl, rfl⟩
    refine ⟨⟨q.xpath, form.choiceColumns options q⟩, List.mem_flatMap.2
      ⟨q, Codebook.mem_placedQuestions.2 hq, ?_⟩, ?_⟩
    · rw [Codebook.splitsOf, if_pos htype, if_pos hsplit]
      exact List.mem_singleton.2 rfl
    · simp only [Codebook.get?_questions_made options hxpaths hq]
      exact List.mem_map.2 ⟨c, hc, rfl⟩

namespace HasOnly

/-- No question is found under a key that is not the xpath of its only question. -/
theorem get?_questions_eq_none (honly : form.HasOnly options q key) (hkey : q.xpath ≠ key) :
    (Codebook.made form options).questions.get? key = none := by
  rw [Codebook.questions_made]
  refine KeyMap.get?_ofList fun q' ↦ ⟨fun hmem ↦ ?_, fun hnone ↦ nomatch hnone⟩
  obtain ⟨q'', hq'', heq⟩ := List.mem_map.1 hmem
  have hxpath : q''.xpath = key := (Prod.mk.inj heq).1
  obtain rfl := honly q'' hq'' (hxpath ▸ List.mem_cons_self)
  exact absurd hxpath hkey

/-- A choice whose column has the key is one of the only question. -/
theorem eq_of_mem_choiceColumns (honly : form.HasOnly options q key) {q' : Question}
    (hq' : q' ∈ form.questions) (htype : q'.type = .selectMultiple)
    (hsplit : options.splitSelectMultiples = true) {c : ChoiceColumn}
    (hc : c ∈ form.choiceColumns options q') (hck : c.key = key) : q' = q :=
  honly q' hq' (hck ▸ choiceKey_mem_ownKeys htype (by rwa [if_pos hsplit]))

/-- No choice is found under a key that no choice of its only question has. -/
theorem get?_choiceColumns_eq_none (honly : form.HasOnly options q key)
    (hxpaths : (form.questions.map (·.xpath)).Nodup)
    (hkey : q.type = .selectMultiple → ∀ c ∈ form.choiceColumns options q, c.key ≠ key) :
    (WideTable.choiceColumns (Codebook.made form options)).get? key = none := by
  refine KeyMap.get?_ofList fun shown ↦ ⟨fun hmem ↦ ?_, fun hnone ↦ nomatch hnone⟩
  obtain ⟨q', hq', htype, hsplit, c, hc, hck, -⟩ := (mem_choiceColumns_iff hxpaths).1 hmem
  obtain rfl := honly.eq_of_mem_choiceColumns hq' htype hsplit hc hck
  exact absurd hck (hkey htype c hc)

/-- A choice of its only question is found under the key, with the names of both. -/
theorem get?_choiceColumns (hxpaths : (form.questions.map (·.xpath)).Nodup)
    (hq : q ∈ form.questions) (htype : q.type = .selectMultiple)
    (hsplit : options.splitSelectMultiples = true) {choice : Choice}
    (hchoice : choice ∈ form.splitChoices q)
    (honly : form.HasOnly options q (q.xpath ++ "/" ++ choice.name)) :
    (WideTable.choiceColumns (Codebook.made form options)).get?
      (q.xpath ++ "/" ++ choice.name) = some (q.name, choice.name) := by
  have hcolumn : ∃ c ∈ form.choiceColumns options q,
      c.key = q.xpath ++ "/" ++ choice.name ∧ c.name = choice.name :=
    ⟨_, List.mem_map_of_mem hchoice, rfl, rfl⟩
  obtain ⟨d, hd, hdkey, hdname⟩ := hcolumn
  refine KeyMap.get?_ofList fun shown ↦ (mem_choiceColumns_iff hxpaths).trans ?_
  rw [Option.some.injEq]
  constructor
  · rintro ⟨q', hq', htype', -, c, hc, hck, rfl⟩
    obtain rfl := honly.eq_of_mem_choiceColumns hq' htype' hsplit hc hck
    rw [choiceName_eq hc hd (hck.trans hdkey.symm), hdname]
  · rintro rfl
    exact ⟨q, hq, htype, hsplit, d, hd, hdkey, by rw [hdname]⟩

end HasOnly

/-- A question is found again from the key of a choice whose name holds no slash. -/
theorem parent_choiceKey {name : String} (hslash : '/' ∉ name.toList) (x : String) :
    ((Text.splitLast? '/' (x ++ "/" ++ name)).map (·.1)).getD (x ++ "/" ++ name) = x := by
  have hlist : (x ++ "/" ++ name).toList = x.toList ++ '/' :: name.toList := by simp
  rw [Text.splitLast?, hlist, Text.splitLastChars?_append hslash]
  exact String.ofList_toList

/-- The label of a name among the choices is that of the first choice with the name. -/
theorem choiceLabel?_made (hxpaths : (form.questions.map (·.xpath)).Nodup)
    (hq : q ∈ form.questions) {choice : Choice}
    (hfirst : (form.splitChoices q).find? (·.name == choice.name) = some choice) :
    (Codebook.made form options).choiceLabel? q.xpath choice.name =
      (form.labelLanguages options).textOf choice.label := by
  rw [Codebook.choiceLabel?, Codebook.get?_questions_made options hxpaths hq]
  show (form.choicesOf q).find? (·.name == choice.name) >>= _ = _
  rw [choicesOf_eq (List.mem_of_find?_eq_some hfirst), hfirst]
  rfl

/-- The key of a component is known by its suffix. -/
theorem finishesWith_of_mem_pointKeys {x : String} (hkey : key ∈ pointKeys x) :
    pointSuffixes.any (fun suffix ↦ Text.finishesWith ("_" ++ suffix) key) = true := by
  obtain ⟨suffix, hsuffix, hlist⟩ := mem_pointKeys hkey
  refine List.any_eq_true.2 ⟨suffix, hsuffix, ?_⟩
  rw [Text.finishesWith, List.isSuffixOf_iff_suffix, hlist]
  exact ⟨(splitName x).1.toList ++ '_' :: (splitName x).2.toList, by simp⟩

/-- **The heading of a column in a wide table**: without a label, the bare name is shown. -/
theorem Heads.wide (hheads : form.Heads options q key h)
    (hxpaths : (form.questions.map (·.xpath)).Nodup) (hq : q ∈ form.questions)
    (honly : form.HasOnly options q key) :
    let book := Codebook.made form options
    let choices := WideTable.choiceColumns book
    WideTable.titled book choices key = h.shown ∧
      WideTable.hashtag book key = h.hashtag.getD "" ∧
      (form.FreeOfSlashes q →
        WideTable.label book options choices key = h.lead ++ h.text.getD h.bare) := by
  intro book choices
  cases hheads with
  | own =>
    have hquestion : book.questions.get? q.xpath = some q :=
      Codebook.get?_questions_made options hxpaths hq
    have hnone : choices.get? q.xpath = none := by
      refine honly.get?_choiceColumns_eq_none hxpaths fun _ c hc hck ↦ ?_
      obtain ⟨choice, -, rfl⟩ := List.mem_map.1 hc
      exact choiceKey_ne _ _ hck
    simp only [WideTable.titled, WideTable.label, WideTable.hashtag, hquestion, hnone]
    exact ⟨trivial, rfl, fun _ ↦ (String.empty_append ..).symm⟩
  | @choice choice htype hsplit hfirst =>
    have hmem : choice ∈ form.splitChoices q := List.mem_of_find?_eq_some hfirst
    have hfound : choices.get? (q.xpath ++ "/" ++ choice.name) = some (q.name, choice.name) :=
      HasOnly.get?_choiceColumns hxpaths hq htype hsplit hmem honly
    have hquestion : book.questions.get? (q.xpath ++ "/" ++ choice.name) = none :=
      honly.get?_questions_eq_none fun h ↦ choiceKey_ne _ _ h.symm
    simp only [WideTable.titled, WideTable.label, WideTable.hashtag, hfound, hquestion]
    refine ⟨trivial, rfl, fun hslash ↦ ?_⟩
    rw [parent_choiceKey (hslash choice hmem), choiceLabel?_made hxpaths hq hfirst]
  | component htype hkey =>
    have hquestion : book.questions.get? key = none :=
      honly.get?_questions_eq_none fun h ↦ pointKey_ne hkey h.symm
    have hnone : choices.get? key = none :=
      honly.get?_choiceColumns_eq_none hxpaths fun htype' ↦ by
        rw [htype] at htype'
        cases htype'
    simp only [WideTable.titled, WideTable.label, WideTable.hashtag, hquestion, hnone,
      finishesWith_of_mem_pointKeys hkey]
    exact ⟨rfl, rfl, fun _ ↦ (String.empty_append ..).symm⟩

end Form

/-! ### Header rows -/

/-- A column of a sheet, other than the metadata columns, is one of its section. -/
theorem Sheet.exists_section_of_mem_columns {form : Form} {options : Options}
    {naming : SheetNaming} {sheet : Sheet} {c : Column}
    (hsheet : sheet ∈ Sheet.ofCodebook (Codebook.made form options) options naming)
    (hc : c ∈ sheet.columns) (horigin : c.origin ≠ .extra) :
    ∃ s, c ∈ (Codebook.sectionNamed form options s).columns := by
  obtain ⟨e, he, rfl⟩ := List.mem_map.1 hsheet
  obtain ⟨-, hsection⟩ := Codebook.eq_sectionNamed_of_mem (List.of_mem_zip he).1
  rcases List.mem_append.1 (List.mem_filter.1 hc).1 with hc | hc
  · exact ⟨e.1.name, hsection ▸ hc⟩
  · obtain ⟨key, -, rfl⟩ := List.mem_map.1 hc
    exact absurd rfl horigin

namespace WideTable

/-- **A column of the question `q` with the heading `h`** in a wide table and in a sheet: it stands
at `j` in the one, and is the column `c` of the other. -/
structure HeadedAs (form : Form) (options : Options) (columns : List String) (j : Nat)
    (q : Question) (c : Column) (h : Heading) : Prop where
  heads : form.Heads options q c.key h
  /-- The titles are the same. -/
  title : (titles (Codebook.made form options) options columns)[j]? = some c.title
  /-- The hashtags are the same. -/
  hashtag : (hashtags (Codebook.made form options) columns)[j]? = some (c.hashtag.getD "")
  /-- The sheet falls back to the title. -/
  sheetLabel : c.label = h.lead ++ h.text.getD c.title
  /-- The wide table falls back to the bare name. -/
  wideLabel : form.FreeOfSlashes q →
    (labels (Codebook.made form options) options columns)[j]? =
      some (h.lead ++ h.text.getD h.bare)

/-- The labels are the same just if one is set, or the bare name is the title. -/
theorem HeadedAs.label_iff {form : Form} {options : Options} {columns : List String} {j : Nat}
    {q : Question} {c : Column} {h : Heading} (hheaded : HeadedAs form options columns j q c h)
    (hslash : form.FreeOfSlashes q) :
    (labels (Codebook.made form options) options columns)[j]? = some c.label ↔
      h.text ≠ none ∨ h.bare = c.title := by
  rw [hheaded.wideLabel hslash, hheaded.sheetLabel, Option.some.injEq]
  cases h.text <;> simp

/-- A column of a section whose key is that of one question only is headed alike in both tables. -/
theorem headedAs_of_mem {form : Form} {options : Options}
    (hxpaths : (form.questions.map (·.xpath)).Nodup) {s : String} {c : Column}
    (hc : c ∈ (Codebook.sectionNamed form options s).columns) {q : Question}
    (honly : form.HasOnly options q c.key) {columns : List String} {j : Nat}
    (hj : columns[j]? = some c.key) : ∃ h, HeadedAs form options columns j q c h := by
  obtain ⟨q', hq', h, hheads, htitle, hlabel, hhashtag⟩ := Form.exists_heads_of_mem_columns hc
  obtain rfl := honly q' hq' hheads.mem_ownKeys
  obtain ⟨hshown, htag, hwide⟩ := hheads.wide hxpaths hq' honly
  refine ⟨h, hheads, ?_, ?_, hlabel, fun hslash ↦ ?_⟩
  · rw [titles, List.getElem?_map, hj, Option.map_some, hshown, htitle]
  · rw [hashtags, List.getElem?_map, hj, Option.map_some, htag, hhashtag]
  · rw [labels, List.getElem?_map, hj, Option.map_some, hwide hslash]

/-- **The headings of the two kinds of tables.** A column of a sheet that comes from the form, and
whose key is that of one question only, has the same title and the same hashtag in a wide table with
a column of that name. Unless a choice has a slash in its name, the label is the same just if one
is set or the fallbacks happen to agree. The header rows are those that the options ask for, and the
row of hashtags is there only if some hashtag is not empty. -/
theorem exists_headedAs {form : Form} {options : Options} {book : Codebook}
    (hbook : Codebook.ofForm form options = .ok book) {naming : SheetNaming} {sheet : Sheet}
    (hsheet : sheet ∈ Sheet.ofCodebook book options naming) {c : Column} (hc : c ∈ sheet.columns)
    (horigin : c.origin ≠ .extra) {q : Question} (honly : form.HasOnly options q c.key)
    (records : List Record) {j : Nat}
    (hj : (ofRecords book options records).columns[j]? = some c.key) :
    let table := ofRecords book options records
    table.headerRows =
      (if options.hasTitleRow then [titles book options table.columns] else []) ++
        (if options.hasLabelRow then [labels book options table.columns] else []) ++
        (if options.includeHashtags && (hashtags book table.columns).any (· ≠ "") then
          [hashtags book table.columns] else []) ∧
    ∃ h, HeadedAs form options table.columns j q c h ∧
      (form.FreeOfSlashes q → ((labels book options table.columns)[j]? = some c.label ↔
        h.text ≠ none ∨ h.bare = c.title)) := by
  obtain ⟨rfl, -, -, hxpaths, -⟩ := Codebook.ofForm_eq_ok_iff.1 hbook
  obtain ⟨s, hc⟩ := Sheet.exists_section_of_mem_columns hsheet hc horigin
  obtain ⟨h, hheaded⟩ := headedAs_of_mem hxpaths hc honly hj
  exact ⟨rfl, h, hheaded, hheaded.label_iff⟩

/-- A form with a question in a group, without a label. -/
def groupedForm : Form where
  name := "visit"
  children := [.group .once "g" "g" none
    [.question { name := "n", xpath := "g/n", type := .text, hashtag := some "#n" }]]

/-- Labels and hashtags are shown. -/
def labelledOptions : Options where
  includeLabels := true
  includeHashtags := true

/-- The question without a label is headed `g/n` on its sheet, and `n` in a wide table. -/
theorem exists_headedAs_grouped :
    let book := Codebook.made groupedForm labelledOptions
    ∃ sheet ∈ Sheet.ofCodebook book labelledOptions .file, ∃ c ∈ sheet.columns, ∃ q h,
      HeadedAs groupedForm labelledOptions (ofRecords book labelledOptions []).columns 0 q c h ∧
        c.label = "g/n" ∧ (labels book labelledOptions
          (ofRecords book labelledOptions []).columns)[0]? = some "n" := by
  intro book
  have hbook : Codebook.ofForm groupedForm labelledOptions = .ok book :=
    Codebook.ofForm_eq_ok_iff.2 ⟨rfl, by decide, by decide, by decide, by decide⟩
  set c := groupedForm.questionColumn labelledOptions
    { name := "n", xpath := "g/n", type := .text, hashtag := some "#n" } with hc
  have hsheet : ∃ sheet ∈ Sheet.ofCodebook book labelledOptions .file, c ∈ sheet.columns :=
    ⟨_, List.mem_cons_self, List.mem_cons_self⟩
  obtain ⟨sheet, hsheet, hmem⟩ := hsheet
  have honly : groupedForm.HasOnly labelledOptions _ c.key := fun q' hq' _ ↦
    List.mem_singleton.1 hq'
  obtain ⟨-, h, hheaded, -⟩ := exists_headedAs hbook hsheet hmem (by decide) honly [] (j := 0) rfl
  exact ⟨sheet, hsheet, c, hmem, _, h, hheaded, by decide, by decide⟩

end WideTable

end SurveyExport
