import SurveyExport.Proofs.Linkage.Links
import SurveyExport.Proofs.SystemFile.Choices
import SurveyExport.Proofs.WideTable.Level

/-!
# Two readings of an answer

An answer is made a cell twice: for the row that linking gives to its record, under the key as it
stands in the record, and for the row of a wide table, under the xpath that the key stands for.
Where the answer is a single value or a list, the two readings differ in two things.

* A media file is looked up if the *key* is that of a media question: as it stands in the first
  reading, and without its escapes in the second (`MediaRule.cell_eq_cell_iff`).
* A value of a list that is missing is left out in the first reading, and leaves an empty text
  between blanks in the second (`Text.join_filter_eq_iff`).

`Form.ReadsAlike` says when neither difference shows, and `Codebook.readings_eq_iff` that this is
exactly when the two rows have the same cell, for every answer at any depth of a submission.
-/

namespace SurveyExport

/-! ### Single values -/

/-- The cells of a value under two keys are the same, just if it is no text, or both keys or neither
are those of media questions, or looking up the file does not change the text. -/
theorem MediaRule.cell_eq_cell_iff {media : Option MediaRule} {files : List Attachment}
    {k k' : String} {value : Scalar} :
    MediaRule.cell media files k value = MediaRule.cell media files k' value ↔
      ∀ rule ∈ media, ∀ name, value = .text name → (k ∈ rule.keys ↔ k' ∈ rule.keys) ∨
        ∀ address ∈ Attachment.resolve? rule.host files name, address = name := by
  cases media with
  | none => simp [MediaRule.cell]
  | some rule =>
    cases value with
    | text name =>
      simp only [MediaRule.cell, List.contains_iff_mem, Option.mem_def, Option.some.injEq,
        forall_eq', Scalar.text.injEq]
      cases Attachment.resolve? rule.host files name with
      | none => simp
      | some address =>
        by_cases hk : k ∈ rule.keys <;> by_cases hk' : k' ∈ rule.keys <;> simp [hk, hk', eq_comm]
    | _ => simp [MediaRule.cell]

/-! ### Lists -/

/-- The length of texts that are joined with blanks between. -/
theorem Text.length_join_blank (parts : List String) :
    (Text.join " " parts).length = (parts.map String.length).sum + (parts.length - 1) := by
  induction parts with
  | nil => rfl
  | cons s rest ih =>
    cases rest with
    | nil => simp [Text.join]
    | cons t rest =>
      rw [Text.join] at ih ⊢
      have hblank : " ".length = 1 := rfl
      rw [String.intercalate_cons_cons, String.length_append, String.length_append, ih, hblank]
      simp only [List.map_cons, List.sum_cons, List.length_cons]
      omega

theorem Cell.isNull_ofScalar_iff {v : Scalar} : (Cell.ofScalar v).isNull = true ↔ v = .null := by
  cases v <;> simp [Cell.ofScalar, Cell.isNull]

/-- Items that count for nothing may be left out of a sum. -/
theorem sum_map_filter {α : Type} {p : α → Bool} {f : α → Nat} {l : List α}
    (h : ∀ x ∈ l, p x = false → f x = 0) : ((l.filter p).map f).sum = (l.map f).sum := by
  induction l with
  | nil => rfl
  | cons x l ih =>
    obtain ⟨hx, hl⟩ := List.forall_mem_cons.1 h
    cases hp : p x with
    | true => simp [hp, ih hl]
    | false => simp [hp, ih hl, hx hp]

/-- Leaving out missing values does not change a list's text, just if none is missing or there is no
other value. -/
theorem Text.join_filter_eq_iff {values : List Scalar} :
    Text.join " " ((values.filter fun v ↦ !(Cell.ofScalar v).isNull).map fun v ↦
        (Cell.ofScalar v).display) =
      Text.join " " (values.map fun v ↦ (Cell.ofScalar v).display) ↔
      .null ∉ values ∨ values.length = 1 := by
  set kept := values.filter fun v ↦ !(Cell.ofScalar v).isNull with hkept
  have hall : kept = values ↔ .null ∉ values := by
    rw [hkept, List.filter_eq_self]
    simp only [Bool.not_eq_true', ← Bool.not_eq_true, Cell.isNull_ofScalar_iff]
    exact ⟨fun h hmem ↦ h _ hmem rfl, fun h v hv heq ↦ h (heq ▸ hv)⟩
  constructor
  · intro heq
    -- a missing value has no text, so the two texts differ by the blanks around the missing values
    have hsum : (kept.map fun v ↦ (Cell.ofScalar v).display.length).sum =
        (values.map fun v ↦ (Cell.ofScalar v).display.length).sum := by
      refine sum_map_filter fun v _ hv ↦ ?_
      obtain rfl := Cell.isNull_ofScalar_iff.1 (by simpa using hv)
      rfl
    have hle : kept.length ≤ values.length := List.length_filter_le _ _
    have hlength := congrArg String.length heq
    rw [Text.length_join_blank, Text.length_join_blank, List.map_map, List.map_map] at hlength
    simp only [Function.comp_def, List.length_map, hsum] at hlength
    by_cases hone : values.length = 1
    · exact .inr hone
    · refine .inl (hall.1 ?_)
      have hsame : kept.length = values.length := by omega
      exact List.filter_sublist.eq_of_length hsame
  · rintro (hnone | hone)
    · rw [hall.2 hnone]
    · obtain ⟨v, rfl⟩ := List.length_eq_one_iff.1 hone
      by_cases hv : v = .null
      · subst hv
        rfl
      · rw [hall.2 (by simpa using Ne.symm hv)]

/-! ### The rows of a record -/

namespace Record

variable {media : Option MediaRule} {files : List Attachment} {r : Record} {key : String}
  {a : Answer} {c : Cell}

/-- The answer is the last one that a record gives for what its key stands for. -/
def Settles (r : Record) (key : String) (a : Answer) : Prop :=
  ∃ before after, r = before ++ (key, a) :: after ∧
    ∀ e ∈ after, KeyEscape.decode e.1 ≠ KeyEscape.decode key

/-- The row that linking gives to a record has the cell of an answer that settles its key. -/
theorem get?_cells_of_settles (h : r.Settles key a) (hcell : cell? media files key a = some c) :
    (r.cells media files).get? key = some c := by
  obtain ⟨before, after, rfl, hafter⟩ := h
  have hnone : (after.reverse.findSome? fun e ↦
      if e.1 = key then cell? media files e.1 e.2 else none) = none := by
    refine List.findSome?_eq_none_iff.2 fun e he ↦ if_neg fun hkey ↦ ?_
    exact hafter e (List.mem_reverse.1 he) (congrArg KeyEscape.decode hkey)
  rw [get?_cells, lastCell?, List.reverse_append, List.reverse_cons, List.append_assoc,
    List.findSome?_append, hnone]
  simp [hcell]

/-- The row of a wide table has the cell of an answer that settles its key. -/
theorem get?_levelCells_of_settles (h : r.Settles key a)
    (hcell : wideCell? media files (KeyEscape.decode key) a = some c) :
    (r.levelCells media files).get? (KeyEscape.decode key) = some c := by
  obtain ⟨before, after, rfl, hafter⟩ := h
  have hkeep : ∀ row : Row, (after.foldl (putWideCell media files) row).get?
      (KeyEscape.decode key) = row.get? (KeyEscape.decode key) := by
    induction after with
    | nil => exact fun _ ↦ rfl
    | cons e after ih =>
      obtain ⟨he, hrest⟩ := List.forall_mem_cons.1 hafter
      intro row
      rw [List.foldl_cons, ih hrest, get?_putWideCell, if_neg he]
  rw [levelCells, List.foldl_append, List.foldl_cons, hkeep, get?_putWideCell, if_pos rfl, hcell]
  rfl

end Record

/-! ### Media questions -/

namespace Form

/-- There is a media question with an xpath. -/
def HasMedia (form : Form) (x : String) : Prop :=
  ∃ q ∈ form.questions, q.type.isMedia = true ∧ q.xpath = x

/-- The media keys of a codebook are the xpaths of the media questions. -/
theorem mem_mediaKeys_iff {form : Form} {options : Options}
    (hxpaths : (form.questions.map (·.xpath)).Nodup) {x : String} :
    x ∈ (Codebook.made form options).mediaKeys ↔ form.HasMedia x := by
  have hvalues : ∀ q, q ∈ (Codebook.made form options).questions.values ↔ q ∈ form.questions := by
    intro q
    rw [KeyMap.values, List.mem_map]
    constructor
    · rintro ⟨⟨k, q⟩, hmem, rfl⟩
      rw [Codebook.questions_made] at hmem
      have hentry := KeyMap.mem_of_get?_ofList (KeyMap.get?_eq_some_iff.2 hmem)
      obtain ⟨q', hq', heq⟩ := List.mem_map.1 hentry
      obtain ⟨-, rfl⟩ := Prod.mk.inj heq
      exact hq'
    · intro hq
      exact ⟨_, KeyMap.get?_eq_some_iff.1 (Codebook.get?_questions_made options hxpaths hq), rfl⟩
  simp only [Codebook.mediaKeys, List.mem_map, List.mem_filter, hvalues, HasMedia, and_assoc]

/-- The two readings of an answer under a key do not differ. For a text this asks that the key is
that of a media question with its escapes just if it is without them, or else that the text is the
address already or names no file; for a list, that no value is missing or there is no other. -/
def ReadsAlike (form : Form) (options : Options) (files : List Attachment) (key : String) :
    Answer → Prop
  | .scalar (.text name) => options.includeImages = true →
    (form.HasMedia key ↔ form.HasMedia (KeyEscape.decode key)) ∨
      ∀ address ∈ Attachment.resolve? options.host files name, address = name
  | .list values => .null ∉ values ∨ values.length = 1
  | _ => True

end Form

/-! ### Both readings -/

/-- The answer is a single value or a list. -/
inductive Answer.IsValue : Answer → Prop
  | scalar (value : Scalar) : IsValue (.scalar value)
  | list (values : List Scalar) : IsValue (.list values)

namespace Record

variable {form : Form}

/-- The two cells of an answer are the same just if it reads alike. -/
theorem exists_readings (hxpaths : (form.questions.map (·.xpath)).Nodup) (options : Options)
    {a : Answer} (hvalue : a.IsValue) (files : List Attachment) (key : String) :
    let media := (Codebook.made form options).mediaRule? options
    ∃ c c', cell? media files key a = some c ∧
      wideCell? media files (KeyEscape.decode key) a = some c' ∧
      (c = c' ↔ form.ReadsAlike options files key a) := by
  intro media
  cases hvalue with
  | list values =>
    refine ⟨_, _, rfl, rfl, ?_⟩
    rw [Cell.text.injEq]
    exact Text.join_filter_eq_iff
  | scalar value =>
    refine ⟨_, _, rfl, rfl, MediaRule.cell_eq_cell_iff.trans ?_⟩
    by_cases himages : options.includeImages = true
    · have hmedia : media = some ⟨(Codebook.made form options).mediaKeys, options.host⟩ :=
        if_pos himages
      cases value with
      | text name =>
        simp [hmedia, Form.ReadsAlike, himages, Form.mem_mediaKeys_iff hxpaths]
      | _ => simp [Form.ReadsAlike]
    · have hmedia : media = none := if_neg himages
      cases value <;> simp [hmedia, Form.ReadsAlike, himages]

end Record

/-- **Two readings of an answer.** In a submission of a form with a codebook, let an answer of the
record at any place be a single value or a list, and be the last one for what its key stands for.
Linking gives the row of the record a cell of the answer under the key, and if the record is an
instance, the row of its section has this cell. A wide table reads a cell of the answer under what
the key stands for. The two cells are the same just if the answer reads alike. -/
theorem Codebook.readings_eq_iff {form : Form} {options : Options} {book : Codebook}
    (hbook : Codebook.ofForm form options = .ok book) {r i : Record} {place : Place} {s : String}
    (hat : r.at? form.name place = some (s, i)) {key : String} {a : Answer} (hvalue : a.IsValue)
    (hsettles : i.Settles key a) :
    let media := book.mediaRule? options
    ∃ c c',
      (∀ index counters, (Record.linkAnswers media r.attachments s index i {} counters).1.own.get?
        key = some c) ∧
      (place ≠ [] → ∀ index counters, ∃ v ∈ r.visits form.name index counters, v.place = place ∧
        (v.row media r.attachments).get? key = some c) ∧
      (i.levelCells media r.attachments).get? (KeyEscape.decode key) = some c' ∧
      (c = c' ↔ form.ReadsAlike options r.attachments key a) := by
  obtain ⟨rfl, -, -, hxpaths, -⟩ := Codebook.ofForm_eq_ok_iff.1 hbook
  intro media
  obtain ⟨c, c', hcell, hwide, hiff⟩ :=
    Record.exists_readings hxpaths options hvalue r.attachments key
  have hown := Record.get?_cells_of_settles hsettles hcell
  refine ⟨c, c', fun index counters ↦ ?_, fun hplace index counters ↦ ?_,
    Record.get?_levelCells_of_settles hsettles hwide, hiff⟩
  · rw [Record.own_linkAnswers]
    exact hown
  · obtain ⟨step, rest, rfl⟩ := List.exists_cons_of_ne_nil hplace
    have hcovered := Record.covered_visits r form.name index counters
    obtain ⟨v, hv, hplace⟩ := hcovered.complete step rest _ trivial hat
    obtain ⟨-, -, -, -, hat'⟩ := hcovered.sound v hv
    rw [hplace, hat] at hat'
    obtain ⟨-, rfl⟩ := Prod.mk.inj (Option.some.inj hat')
    refine ⟨v, hv, hplace, ?_⟩
    rw [Visit.get?_row, ← Record.get?_cells, hown]
    rfl

/-- A form with a media question, whose xpath the store refuses, in a repeated group. -/
def photoForm : Form where
  name := "visit"
  children := [.group .repeated "kids" "kids" none
    [.question { name := "a.b", xpath := "kids/a.b", type := .photo }]]

/-- Addresses are shown for media files. -/
def photoOptions : Options where
  includeImages := true

/-- An instance with a photo, under the key that the store keeps. -/
def photoKid : Record := [("kids/aLg==b", .scalar (.text "1.jpg"))]

/-- A submission with this instance and the file. -/
def photoRecord : Record := [("kids", .instances [photoKid]),
  ("_attachments", .attachments [⟨"x/1.jpg", some "http://h/1.jpg", none⟩])]

/-- The section's row has the name of the photo, and a wide table has its address. -/
theorem readings_eq_iff_photo :
    let media := (Codebook.made photoForm photoOptions).mediaRule? photoOptions
    ∃ c c', (∀ index counters, ∃ v ∈ photoRecord.visits photoForm.name index counters,
        v.place = [(0, 0)] ∧ (v.row media photoRecord.attachments).get? "kids/aLg==b" = some c) ∧
      (photoKid.levelCells media photoRecord.attachments).get? "kids/a.b" = some c' ∧ c ≠ c' := by
  intro media
  have hbook : Codebook.ofForm photoForm photoOptions =
      .ok (Codebook.made photoForm photoOptions) :=
    Codebook.ofForm_eq_ok_iff.2 ⟨rfl, by decide, by decide, by decide, by decide⟩
  have hkids : KeyEscape.decode "kids" = "kids" := by decide
  have hdecode : KeyEscape.decode "kids/aLg==b" = "kids/a.b" := by decide
  have hat : photoRecord.at? photoForm.name [(0, 0)] = some ("kids", photoKid) := by
    rw [Record.at?_cons, ← hkids]
    rfl
  have hsettles : photoKid.Settles "kids/aLg==b" (.scalar (.text "1.jpg")) :=
    ⟨[], [], rfl, List.forall_mem_nil _⟩
  obtain ⟨c, c', -, hrow, hwide, hiff⟩ :=
    Codebook.readings_eq_iff hbook hat (.scalar _) hsettles
  rw [hdecode] at hwide
  refine ⟨c, c', hrow (List.cons_ne_nil _ _), hwide, fun heq ↦ ?_⟩
  -- only the key without its escapes is that of the question, and the file has an address
  rcases hiff.1 heq rfl with hkeys | hsame
  · rw [hdecode] at hkeys
    obtain ⟨q, hq, -, hxpath⟩ := hkeys.2 ⟨_, List.mem_singleton.2 rfl, rfl, rfl⟩
    obtain rfl := List.mem_singleton.1 hq
    exact absurd hxpath (by decide)
  · exact absurd (hsame "http://h/1.jpg" rfl) (by decide)

end SurveyExport
