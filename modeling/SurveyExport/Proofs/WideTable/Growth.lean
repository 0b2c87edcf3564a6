import SurveyExport.Proofs.KeyEscape.Codec
import SurveyExport.Proofs.WideTable.Distinct

/-!
# The columns of a wide table only grow

Which columns a repeated group has is known from the submissions alone, and the columns of all
groups are listed without repetitions. When submissions are added, new columns turn up in the middle
of the table. `WideTable.Extends` says what stays: the columns that were there, in their order, with
the same texts; a new column is empty for the submissions that were there.

* `WideTable.firstOccurrences_flatMap_sublist` is about the listing alone. Groups that get longer at
  their ends could still push a column out of its place, if it turned up in an earlier group as
  well; so the columns that a group has must be those that it has later, of all that are there now.
* `WideTable.mem_groupColumns_of_append` is this condition. It holds because the repeated group of a
  column is read off its name (`Record.owner_eq_of_column_eq`).
* `WideTable.extends_append_and_perm_columns` has both parts together, and that the order of the
  submissions decides on nothing but the order of the columns.
-/

namespace SurveyExport

namespace WideTable

/-! ### Lists without repetitions -/

/-- What is passed over less is listed more. -/
theorem firstOccurrences_sublist {seen seen' l : List String}
    (h : ∀ s ∈ l, s ∈ seen' → s ∈ seen) :
    (firstOccurrences seen l).Sublist (firstOccurrences seen' l) := by
  induction l generalizing seen seen' with
  | nil => exact List.Sublist.refl _
  | cons c rest ih =>
    obtain ⟨hc, hrest⟩ := List.forall_mem_cons.1 h
    have hcons : ∀ s ∈ rest, s ∈ c :: seen' → s = c ∨ s ∈ seen := fun s hs hmem ↦
      (List.mem_cons.1 hmem).imp_right (hrest s hs)
    rw [firstOccurrences, firstOccurrences]
    by_cases hseen : c ∈ seen
    · rw [if_pos (by simpa using hseen)]
      by_cases hseen' : c ∈ seen'
      · rw [if_pos (by simpa using hseen')]
        exact ih hrest
      · rw [if_neg (by simpa using hseen')]
        refine .cons c (ih fun s hs hmem ↦ (hcons s hs hmem).elim ?_ id)
        rintro rfl
        exact hseen
    · have hseen' : c ∉ seen' := fun hmem ↦ hseen (hc hmem)
      rw [if_neg (by simpa using hseen), if_neg (by simpa using hseen')]
      exact .cons_cons c (ih fun s hs hmem ↦ List.mem_cons.2 (hcons s hs hmem))

/-- Only what is passed over counts, not how it is listed. -/
theorem firstOccurrences_congr {seen seen' : List String} (h : ∀ s, s ∈ seen ↔ s ∈ seen')
    (l : List String) : firstOccurrences seen l = firstOccurrences seen' l :=
  (firstOccurrences_sublist fun s _ ↦ (h s).2).antisymm
    (firstOccurrences_sublist fun s _ ↦ (h s).1)

theorem firstOccurrences_append (seen l l' : List String) :
    firstOccurrences seen (l ++ l') =
      firstOccurrences seen l ++ firstOccurrences (l ++ seen) l' := by
  induction l generalizing seen with
  | nil => rfl
  | cons c rest ih =>
    rw [List.cons_append, firstOccurrences, firstOccurrences]
    by_cases hc : c ∈ seen
    · rw [if_pos (by simpa using hc), if_pos (by simpa using hc), ih]
      refine congrArg _ (firstOccurrences_congr (fun s ↦ ?_) l')
      rw [List.mem_append, List.mem_append, List.mem_cons, or_assoc]
      refine (or_iff_right_of_imp ?_).symm
      rintro rfl
      exact .inr hc
    · rw [if_neg (by simpa using hc), if_neg (by simpa using hc), ih, List.cons_append]
      refine congrArg _ (congrArg _ (firstOccurrences_congr (fun s ↦ ?_) l'))
      simp [or_left_comm]

/-- **Lists that grow at their ends push nothing out of its place** in the listing of all of them,
if none of them takes up what another one has. -/
theorem firstOccurrences_flatMap_sublist {α : Type} {groups : List α} {f f' : α → List String}
    (hgrow : ∀ g ∈ groups, f g <+: f' g)
    (hplace : ∀ g ∈ groups, ∀ g' ∈ groups, ∀ s ∈ f g, s ∈ f' g' → s ∈ f g')
    {seen seen' : List String} (hseen : ∀ g ∈ groups, ∀ s ∈ f g, s ∈ seen' → s ∈ seen) :
    (firstOccurrences seen (groups.flatMap f)).Sublist
      (firstOccurrences seen' (groups.flatMap f')) := by
  induction groups generalizing seen seen' with
  | nil => exact List.Sublist.refl _
  | cons g rest ih =>
    obtain ⟨later, hlater⟩ := hgrow g List.mem_cons_self
    -- what the first group takes up later is passed over in the rest, where it does not occur now
    have hrest : ∀ g' ∈ rest, ∀ s ∈ f g', s ∈ later ++ (f g ++ seen') → s ∈ f g ++ seen := by
      intro g' hg' s hs hmem
      have hmem' : s ∈ f' g ∨ s ∈ seen' := by
        rw [← hlater, ← List.mem_append]
        simpa [or_left_comm, or_assoc] using hmem
      rw [List.mem_append]
      exact hmem'.imp (hplace g' (List.mem_cons_of_mem g hg') g List.mem_cons_self s hs)
        (hseen g' (List.mem_cons_of_mem g hg') s hs)
    rw [List.flatMap_cons, List.flatMap_cons, ← hlater, List.append_assoc, firstOccurrences_append,
      firstOccurrences_append, firstOccurrences_append]
    refine (firstOccurrences_sublist (hseen g List.mem_cons_self)).append ?_
    refine (ih ?_ ?_ hrest).trans (List.sublist_append_right _ _)
    · exact fun g' hg' ↦ hgrow g' (List.mem_cons_of_mem g hg')
    · exact fun g' hg' g'' hg'' ↦
        hplace g' (List.mem_cons_of_mem g hg') g'' (List.mem_cons_of_mem g hg'')

/-- The order of a list decides on nothing but the order of the listing. -/
theorem perm_firstOccurrences {l l' : List String} (h : l.Perm l') :
    (firstOccurrences [] l).Perm (firstOccurrences [] l') := by
  refine (List.perm_ext_iff_of_nodup (nodup_firstOccurrences _ _)
    (nodup_firstOccurrences _ _)).2 fun s ↦ ?_
  rw [mem_firstOccurrences, mem_firstOccurrences, h.mem_iff]

/-! ### Entries of submissions -/

/-- The entries of all submissions, in the order of visit. -/
def entriesOf (book : Codebook) (form : Form) (options : Options) (records : List Record) :
    List WideEntry :=
  records.flatMap (Record.wideEntries book options (WideGroup.ofForm form options))

variable {form : Form} {options : Options} {book : Codebook} {records records' : List Record}
  {name : String}

theorem mem_entriesOf {e : WideEntry} : e ∈ entriesOf book form options records ↔
    ∃ r ∈ records, e ∈ r.wideEntries book options (WideGroup.ofForm form options) :=
  List.mem_flatMap

theorem entriesOf_append (xs ys : List Record) : entriesOf book form options (xs ++ ys) =
    entriesOf book form options xs ++ entriesOf book form options ys :=
  List.flatMap_append

/-- Columns of instances have brackets, and two of the same name belong to the same repeated
group. -/
theorem bracket_mem_and_owner_eq (hform : form.Legible options) {e e' : WideEntry}
    (h : e ∈ entriesOf book form options records) (h' : e' ∈ entriesOf book form options records')
    (hcolumn : e.column = e'.column) : '[' ∈ e.column.toList ∧ e.owner = e'.owner := by
  obtain ⟨r, -, hr⟩ := mem_entriesOf.1 h
  obtain ⟨r', -, hr'⟩ := mem_entriesOf.1 h'
  exact ⟨Record.bracket_mem_column hform hr, Record.owner_eq_of_column_eq hform hr hr' hcolumn⟩

/-! ### The columns of one group -/

/-- With more submissions the columns of a group grow at the end. -/
theorem groupColumns_prefix_append (xs ys : List Record) (g : WideGroup) :
    groupColumns (entriesOf book form options xs) g <+:
      groupColumns (entriesOf book form options (xs ++ ys)) g := by
  cases g with
  | question => exact List.prefix_rfl
  | instances x slots =>
    rw [groupColumns, groupColumns, entriesOf_append, List.filter_append, List.map_append]
    exact List.prefix_append _ _

theorem perm_groupColumns {entries entries' : List WideEntry} (h : entries.Perm entries')
    (g : WideGroup) : (groupColumns entries g).Perm (groupColumns entries' g) := by
  cases g with
  | question => exact List.Perm.refl _
  | instances => exact (h.filter _).map _

/-- **The group of a column is the same for all submissions**: where a group has the column for
some, and another group for others, the other group has it for those as well. -/
theorem mem_groupColumns_of_mem (hform : form.Legible options) {g g' : WideGroup}
    (hg : g ∈ WideGroup.ofForm form options)
    (hname : name ∈ groupColumns (entriesOf book form options records) g)
    (hname' : name ∈ groupColumns (entriesOf book form options records') g') :
    name ∈ groupColumns (entriesOf book form options records) g' := by
  cases g' with
  | question => exact hname'
  | instances x' slots' =>
    obtain ⟨e', he', howner', rfl⟩ := mem_groupColumns_instances.1 hname'
    cases g with
    | question x keys =>
      -- the column of an instance has a bracket, so it is that of no question
      obtain ⟨q, hq, -, rfl, -⟩ := (WideGroup.question_mem_ofForm hform.names_nodup).1 hg
      have hfree := hform.not_mem_ownKeys hq.mem_questions (Form.mem_ownKeys_of_mem_wideKeys hname)
      exact absurd (bracket_mem_and_owner_eq hform he' he' rfl).1 hfree
    | instances x slots =>
      obtain ⟨e, he, -, hcolumn⟩ := mem_groupColumns_instances.1 hname
      have howner := (bracket_mem_and_owner_eq hform he he' hcolumn).2
      exact mem_groupColumns_instances.2 ⟨e, he, howner.trans howner', hcolumn⟩

/-! ### The columns of all groups -/

/-- The columns of questions and instances only grow. -/
theorem spreadColumns_sublist_append (hform : form.Legible options) (xs ys : List Record) :
    (spreadColumns options (WideGroup.ofForm form options)
      (entriesOf book form options xs)).Sublist
      (spreadColumns options (WideGroup.ofForm form options)
        (entriesOf book form options (xs ++ ys))) := by
  refine firstOccurrences_flatMap_sublist (fun g _ ↦ groupColumns_prefix_append xs ys g) ?_
    fun _ _ _ _ hmem ↦ hmem
  exact fun g hg g' _ name ↦ mem_groupColumns_of_mem hform (List.mem_filter.1 hg).1

/-- A column that some submissions have and others have not is that of an instance in the former,
and of no instance in the latter. -/
theorem bracket_mem_and_forall_ne (hform : form.Legible options)
    (hname : name ∈ spreadColumns options (WideGroup.ofForm form options)
      (entriesOf book form options records'))
    (hnew : name ∉ spreadColumns options (WideGroup.ofForm form options)
      (entriesOf book form options records)) :
    '[' ∈ name.toList ∧ ∀ e ∈ entriesOf book form options records, e.column ≠ name := by
  obtain ⟨g, hg, hkept, hname⟩ := mem_spreadColumns_iff.1 hname
  cases g with
  | question x keys =>
    have hold : name ∈ groupColumns (entriesOf book form options records) (.question x keys) :=
      hname
    exact absurd (mem_spreadColumns_iff.2 ⟨_, hg, hkept, hold⟩) hnew
  | instances x slots =>
    obtain ⟨e', he', rfl, rfl⟩ := mem_groupColumns_instances.1 hname
    refine ⟨(bracket_mem_and_owner_eq hform he' he' rfl).1, fun e he hcolumn ↦ hnew ?_⟩
    have howner := (bracket_mem_and_owner_eq hform he he' hcolumn).2
    exact mem_spreadColumns_iff.2
      ⟨_, hg, hkept, mem_groupColumns_instances.2 ⟨e, he, howner, hcolumn⟩⟩

/-! ### Tables -/

/-- The text of a row in a column, by their positions. -/
def text? (table : WideTable) (n j : Nat) : Option String :=
  table.rows[n]?.bind fun row ↦ row[j]?

/-- A table has grown from another one: nothing that was there has changed. -/
structure Extends (naRep : String) (short long : WideTable) : Prop where
  /-- The columns that were there are still there, in their order. -/
  columns : short.columns.Sublist long.columns
  /-- None of them is there more often than before. -/
  count : ∀ name ∈ short.columns, long.columns.count name = short.columns.count name
  /-- A row that was there has the same texts in them. -/
  kept : ∀ n < short.rows.length, ∀ (j j' : Nat) (name : String), short.columns[j]? = some name →
    long.columns[j']? = some name →
      ∃ text, short.text? n j = some text ∧ long.text? n j' = some text
  /-- A row that was there has no text in the other columns. -/
  fresh : ∀ n < short.rows.length, ∀ (j : Nat) (name : String), long.columns[j]? = some name →
    name ∉ short.columns → long.text? n j = some naRep

/-- In front of the metadata columns, names with brackets can be added without making a name that
was there more frequent. -/
theorem count_append_extraColumns {l l' : List String} (h : l.Nodup) (h' : l'.Nodup)
    (hsub : l.Sublist l') (hnew : ∀ name ∈ l', name ∉ l → '[' ∈ name.toList)
    (hname : name ∈ l ++ extraColumns options) :
    (l' ++ extraColumns options).count name = (l ++ extraColumns options).count name := by
  have hmem : name ∈ l' ↔ name ∈ l := by
    refine ⟨fun hl' ↦ (List.mem_append.1 hname).elim id fun hextra ↦ ?_, fun hl ↦ hsub.subset hl⟩
    by_contra hl
    exact Form.not_mem_of_mem_extraColumns hextra (hnew name hl' hl)
  simp only [List.count_append, h.count, h'.count, hmem]

/-- **A table that is made of more submissions has grown.** -/
theorem extends_ofRecords_append (hform : form.Legible options) {xs : List Record}
    (hkeys : ∀ r ∈ xs, ∀ e ∈ r, '[' ∉ (KeyEscape.decode e.1).toList) (ys : List Record) :
    Extends options.naRep (ofRecords (Codebook.made form options) options xs)
      (ofRecords (Codebook.made form options) options (xs ++ ys)) := by
  have hgrown :=
    @spreadColumns_sublist_append form options (Codebook.made form options) hform xs ys
  have hrow : ∀ {n}, n < (ofRecords (Codebook.made form options) options xs).rows.length →
      ∃ r ∈ xs, xs[n]? = some r ∧ (xs ++ ys)[n]? = some r := by
    intro n hn
    rw [length_rows] at hn
    have hr := List.getElem?_eq_getElem hn
    exact ⟨xs[n], List.getElem_mem hn, hr, (List.getElem?_append_left hn).trans hr⟩
  refine ⟨?_, ?_, ?_, ?_⟩
  case refine_1 => exact hgrown.append_right _
  case refine_2 =>
    exact fun name ↦ count_append_extraColumns (nodup_firstOccurrences _ _)
      (nodup_firstOccurrences _ _) hgrown fun _ hname hnew ↦
        (bracket_mem_and_forall_ne hform hname hnew).1
  case refine_3 =>
    intro n hn j j' name hj hj'
    obtain ⟨r, -, hr, hr'⟩ := hrow hn
    exact ⟨_, getElem?_rows hr hj, getElem?_rows hr' hj'⟩
  case refine_4 =>
    intro n hn j name hj hname
    obtain ⟨r, hmem, -, hr'⟩ := hrow hn
    rw [columns_ofRecords, List.mem_append, not_or] at hname
    have hin := List.mem_of_getElem? hj
    rw [columns_ofRecords, List.mem_append] at hin
    obtain ⟨hbracket, hne⟩ := bracket_mem_and_forall_ne hform (hin.resolve_right hname.2) hname.1
    have hempty := Record.get?_wideTexts_of_forall_ne hform (hkeys r hmem) hbracket fun e he ↦
      hne e (mem_entriesOf.2 ⟨r, hmem, he⟩)
    rw [text?, getElem?_rows hr' hj, hempty]
    rfl

/-- The order of the submissions decides on nothing but the order of the columns. -/
theorem perm_columns (book : Codebook) (options : Options) (h : records.Perm records') :
    (ofRecords book options records).columns.Perm (ofRecords book options records').columns := by
  refine (perm_firstOccurrences ?_).append_right _
  exact List.Perm.flatMap_left _ fun g _ ↦ perm_groupColumns (h.flatMap_right _) g

/-- **The columns of a wide table only grow**, and they do not depend on the order of the
submissions. -/
theorem extends_append_and_perm_columns {survey : Survey} (hform : survey.toForm = .ok form)
    (hbook : Codebook.ofForm form options = .ok book) (hfree : form.Unbracketed)
    (htags : options.indexTags = {}) {xs : List Record}
    (hkeys : ∀ r ∈ xs, ∀ e ∈ r, '[' ∉ e.1.toList) (ys : List Record) :
    Extends options.naRep (ofRecords book options xs) (ofRecords book options (xs ++ ys)) ∧
      ∀ zs, zs.Perm xs →
        (ofRecords book options zs).columns.Perm (ofRecords book options xs).columns := by
  obtain ⟨rfl, -, hnames, -, -⟩ := Codebook.ofForm_eq_ok_iff.1 hbook
  have hlegible : form.Legible options := ⟨Survey.nestedAll_of_toForm hform, hnames, hfree, htags⟩
  have hdecoded : ∀ r ∈ xs, ∀ e ∈ r, '[' ∉ (KeyEscape.decode e.1).toList := fun r hr e he hmem ↦
    hkeys r hr e he (KeyEscape.mem_of_mem_decode (by decide) (by decide) hmem)
  exact ⟨extends_ofRecords_append hlegible hdecoded ys, fun zs hzs ↦ perm_columns _ _ hzs⟩

/-- A submission with one instance. -/
def singleRecord : Record := [
  ("kids", .instances [[("kids/name", .scalar (.text "Cy"))]]),
  ("_id", .scalar (.int 6))]

/-- A table of the kids grows by a submission with more of them, and with pets. -/
theorem extends_append_and_perm_columns_family :
    let options : Options := { columns := some ["kids", "_id"] }
    let book := Codebook.made familyForm options
    familySurvey.toForm = .ok familyForm ∧ Codebook.ofForm familyForm options = .ok book ∧
      familyForm.Unbracketed ∧ (∀ r ∈ [[], singleRecord], ∀ e ∈ r, '[' ∉ e.1.toList) ∧
      Extends options.naRep (ofRecords book options [[], singleRecord])
        (ofRecords book options ([[], singleRecord] ++ [familyRecord])) ∧
      ∀ zs, zs.Perm [[], singleRecord] → (ofRecords book options zs).columns.Perm
        (ofRecords book options [[], singleRecord]).columns := by
  intro options book
  have hform : familySurvey.toForm = .ok familyForm := rfl
  have hbook : Codebook.ofForm familyForm options = .ok book :=
    Codebook.ofForm_eq_ok_iff.2 ⟨rfl, by decide, by decide, by decide, by decide⟩
  have hfree : familyForm.Unbracketed := ⟨by decide, by decide⟩
  have hkeys : ∀ r ∈ [[], singleRecord], ∀ e ∈ r, '[' ∉ e.1.toList := by decide
  exact ⟨hform, hbook, hfree, hkeys,
    extends_append_and_perm_columns hform hbook hfree rfl hkeys [familyRecord]⟩

end WideTable

end SurveyExport
