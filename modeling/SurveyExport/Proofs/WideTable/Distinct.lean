import Mathlib.Data.List.Duplicate
import SurveyExport.Proofs.Codebook.Check
import SurveyExport.Proofs.WideTable.Lossless

/-!
# Repeated columns of a wide table

The columns of a wide table are those of the questions and instances, each once, and behind them the
metadata columns. The two parts are not compared with each other. So a name can stand there twice,
and it does so just if a question outside all repeated groups is shown under the name of a metadata
column that the options keep (`WideTable.nodup_columns_iff`). Nothing else can have such a name:
the columns of instances and of choices have a slash in theirs, whatever the index tags are, and
those of components end otherwise.
-/

namespace SurveyExport

/-! ### Names with a slash -/

section Slash

variable {book : Codebook} {options : Options} {files : List Attachment}

mutual

/-- The column of an instance has a slash in its name. -/
theorem WideSlot.slash_mem_of_mem_entries : ∀ (slot : WideSlot) {owner path : String} {r : Record}
    {row : Row} {e : WideEntry}, e ∈ entries book options files owner path r row slot →
      '/' ∈ e.column.toList
  | .cell key, owner, path, r, row, e, h => by
    rw [entries, List.mem_singleton] at h
    subst h
    simp
  | .instances xpath slots, owner, path, r, row, e, h => by
    rw [entries, Record.mem_zipIdx_flatMap] at h
    obtain ⟨j, n, -, he⟩ := h
    exact slash_mem_of_mem_entriesOfAll slots he

/-- The columns that slots of an instance add have slashes in their names. -/
theorem WideSlot.slash_mem_of_mem_entriesOfAll : ∀ (slots : List WideSlot) {owner path : String}
    {r : Record} {row : Row} {e : WideEntry},
      e ∈ entriesOfAll book options files owner path r row slots → '/' ∈ e.column.toList
  | [], owner, path, r, row, e, h => by
    rw [entriesOfAll] at h
    cases h
  | slot :: rest, owner, path, r, row, e, h => by
    rw [entriesOfAll, List.mem_append] at h
    rcases h with h | h
    · exact slash_mem_of_mem_entries slot h
    · exact slash_mem_of_mem_entriesOfAll rest h

end

/-- All columns that the instances in a submission take have slashes in their names. -/
theorem Record.slash_mem_of_mem_wideEntries {groups : List WideGroup} {r : Record} {e : WideEntry}
    (h : e ∈ r.wideEntries book options groups) : '/' ∈ e.column.toList := by
  obtain ⟨⟨key, a⟩, -, he⟩ := List.mem_flatMap.1 h
  obtain ⟨-, -, records, -, j, n, -, he⟩ := mem_wideEntriesAt.1 he
  exact WideSlot.slash_mem_of_mem_entriesOfAll _ he

end Slash

/-- A question outside all repeated groups is shown under the name of a metadata column. -/
structure Form.TakesMetadata (form : Form) (options : Options) (q : Question) : Prop where
  holds : form.Holds form.name q
  isNote : q.type.isNote = false
  /-- A select-multiple that is split has no column of its own. -/
  unsplit : q.type = .selectMultiple → options.splitSelectMultiples = false
  xpath : q.xpath ∈ WideTable.extraColumns options

namespace WideTable

variable {form : Form} {options : Options} {book : Codebook}

/-- In two lists without repetitions, one behind the other, the members of both are there twice. -/
theorem count_append_of_nodup {l l' : List String} (h : l.Nodup) (h' : l'.Nodup) (name : String) :
    (l ++ l').count name ≤ 2 ∧ ((l ++ l').Duplicate name ↔ name ∈ l ∧ name ∈ l') := by
  rw [List.duplicate_iff_two_le_count, List.count_append, h.count, h'.count]
  by_cases hl : name ∈ l <;> by_cases hl' : name ∈ l' <;> simp [hl, hl']

/-- The names of the metadata columns are distinct. -/
theorem nodup_extraColumns (options : Options) : (extraColumns options).Nodup := by
  have hall : (MetaKey.wideColumns ++
      if options.includeReviews then MetaKey.reviewColumns else []).Nodup := by
    split <;> decide
  rw [extraColumns]
  split
  · exact hall.filter _
  · exact hall

/-- The options keep a question with the name of a metadata column that they keep. -/
theorem isKept_of_mem_extraColumns {x : String} (h : x ∈ extraColumns options)
    (keys : List String) : (WideGroup.question x keys).isKept options = true := by
  rw [WideGroup.isKept]
  rw [extraColumns] at h
  split
  · rename_i wanted hwanted
    simp only [hwanted, List.mem_filter] at h
    refine List.any_eq_true.2 ⟨x, by simpa using h.2, ?_⟩
    rw [Text.beginsWith, WideGroup.xpath, List.isPrefixOf_iff_prefix]
  · rfl

/-- A metadata column has the name of a column before it just if a question outside all repeated
groups takes the name. -/
theorem mem_spreadColumns_and_mem_extraColumns_iff (hnames : (form.name :: form.repeats).Nodup)
    (records : List Record) {name : String} :
    name ∈ spreadColumns options (WideGroup.ofForm form options)
        (records.flatMap (Record.wideEntries (Codebook.made form options) options
          (WideGroup.ofForm form options))) ∧ name ∈ extraColumns options ↔
      ∃ q, form.TakesMetadata options q ∧ q.xpath = name := by
  rw [mem_spreadColumns_iff]
  constructor
  · rintro ⟨⟨g, hg, -, hname⟩, hextra⟩
    cases g with
    | question x keys =>
      obtain ⟨q, hq, -, rfl, -⟩ := (WideGroup.question_mem_ofForm hnames).1 hg
      obtain ⟨rfl, hunsplit⟩ := Form.eq_xpath_of_mem_extraColumns hname hextra
      exact ⟨q, ⟨hq, (Form.mem_wideKeys hname).1, hunsplit, hextra⟩, rfl⟩
    | instances x slots =>
      obtain ⟨e, he, -, rfl⟩ := mem_groupColumns_instances.1 hname
      obtain ⟨r, -, he⟩ := List.mem_flatMap.1 he
      exact absurd hextra
        (Form.not_mem_extraColumns_of_slash (Record.slash_mem_of_mem_wideEntries he))
  · rintro ⟨q, hq, rfl⟩
    have hkey : q.xpath ∈ form.wideKeys options q :=
      Form.xpath_mem_wideKeys hq.isNote hq.unsplit
    refine ⟨⟨.question q.xpath (form.wideKeys options q), ?_, ?_, hkey⟩, hq.xpath⟩
    · exact (WideGroup.question_mem_ofForm hnames).2
        ⟨q, hq.holds, rfl, rfl, List.ne_nil_of_mem hkey⟩
    · exact isKept_of_mem_extraColumns hq.xpath _

/-- **Which columns of a wide table are repeated**: those of the metadata whose name a question
outside all repeated groups takes, which are there twice. Without such a question the columns are
distinct, whatever the submissions hold. -/
theorem nodup_columns_iff (hbook : Codebook.ofForm form options = .ok book)
    (records : List Record) :
    let columns := (ofRecords book options records).columns
    (∀ name, columns.count name ≤ 2 ∧
      (columns.Duplicate name ↔ ∃ q, form.TakesMetadata options q ∧ q.xpath = name)) ∧
    (columns.Nodup ↔ ∀ q, ¬ form.TakesMetadata options q) := by
  obtain ⟨rfl, -, hnames, -⟩ := Codebook.ofForm_eq_ok_iff.1 hbook
  intro columns
  have hcount : ∀ name, columns.count name ≤ 2 ∧
      (columns.Duplicate name ↔ ∃ q, form.TakesMetadata options q ∧ q.xpath = name) := by
    intro name
    rw [← mem_spreadColumns_and_mem_extraColumns_iff hnames records]
    exact count_append_of_nodup (nodup_firstOccurrences _ _) (nodup_extraColumns options) name
  refine ⟨hcount, ?_⟩
  rw [List.nodup_iff_forall_not_duplicate]
  constructor
  · exact fun hnd q hq ↦ hnd q.xpath ((hcount q.xpath).2.2 ⟨q, hq, rfl⟩)
  · rintro hnone name hdup
    obtain ⟨q, hq, -⟩ := (hcount name).2.1 hdup
    exact hnone q hq

/-- A form whose only question has the name of a metadata column. -/
def versionForm : Form where
  name := "visit"
  children := [.question { name := "_version", xpath := "_version", type := .text }]

/-- The wide table of the form has two columns `_version`. -/
theorem nodup_columns_iff_versionForm :
    let columns := (ofRecords (Codebook.made versionForm {}) {} []).columns
    Codebook.ofForm versionForm {} = .ok (Codebook.made versionForm {}) ∧
      columns.Duplicate "_version" ∧ ¬ columns.Nodup := by
  have hbook : Codebook.ofForm versionForm {} = .ok (Codebook.made versionForm {}) :=
    Codebook.ofForm_eq_ok_iff.2 ⟨rfl, by decide, by decide, by decide, by decide⟩
  have htakes : versionForm.TakesMetadata {}
      { name := "_version", xpath := "_version", type := .text } :=
    ⟨.top List.mem_cons_self, rfl, nofun, by decide⟩
  obtain ⟨hcount, hnodup⟩ := nodup_columns_iff hbook []
  exact ⟨hbook, (hcount "_version").2.2 ⟨_, htakes, rfl⟩, fun hnd ↦ hnodup.1 hnd _ htakes⟩

end WideTable

end SurveyExport
