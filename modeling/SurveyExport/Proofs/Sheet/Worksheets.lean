import SurveyExport.Proofs.Export.Writes
import SurveyExport.Target.Sheets

/-!
# Which worksheets a workbook takes

A workbook refuses a worksheet whose name is blank, is too long, holds one of seven characters, or
begins or ends with an apostrophe. The names given to worksheets avoid all but the last: an
apostrophe is a character like any other to them, so one that stands at an end of a section's name
stays there (`SheetNaming.quoted_variant_iff`). The one at the end goes if the name is cut before
it, or if a number is put behind it because the name is taken; and an apostrophe that is the last of
31 characters comes to stand at the end.

* `SheetNaming.checkName_sheetName`: for one section, its name is refused just for an apostrophe.
* `WorkbookDraft.startAll_eq_error_iff`: worksheets are begun one after the other, up to the first
  that is refused.
* `takesNames_sheets` puts the two together for the worksheets of an export.
-/

namespace SurveyExport

/-! ### What is refused -/

namespace Workbook

/-- A name begins or ends with an apostrophe. -/
def Quoted (name : String) : Prop :=
  name.toList.head? = some '\'' ∨ name.toList.getLast? = some '\''

instance (name : String) : Decidable (Quoted name) := inferInstanceAs (Decidable (_ ∨ _))

/-- A name without any other fault is refused just if it begins or ends with an apostrophe. -/
theorem checkName_eq {name : String} (hne : name ≠ "") (hlength : name.length ≤ 31)
    (hchars : ∀ c ∈ SheetNaming.refusedChars, c ∉ name.toList) :
    checkName name = if Quoted name then .error (.apostrophe name) else .ok () := by
  have hblank : name.toList.isEmpty = false := by simpa using hne
  have hlong : ¬ 31 < name.toList.length := Nat.not_lt.2 hlength
  have hrefused :
      name.toList.any ['[', ']', ':', '*', '?', '/', '\\'].contains = false := by
    rw [List.any_eq_false]
    intro c hc hmem
    exact hchars c (List.contains_iff_mem.1 hmem) hc
  simp only [checkName, hblank, if_neg hlong, hrefused]
  rfl

/-- The refusals that have to do with the name of a worksheet. -/
def Refusal.IsOfName : Refusal → Prop
  | .blankName | .longName _ | .refusedChar _ | .apostrophe _ => True
  | .nameReused _ | .longText | .outsideGrid => False

/-- A cell is not refused for a name. -/
theorem not_isOfName_of_writeCells {line column : ℕ} {cells : List GridCell} {row : GridRow}
    {r : Refusal} (h : (writeCells line column cells row).1 = .error r) : ¬ r.IsOfName := by
  induction cells generalizing column row with
  | nil => cases h
  | cons c rest ih =>
    rw [writeCells] at h
    cases hcheck : checkCell line column c with
    | ok _ => exact ih (by simpa only [hcheck] using h)
    | error r' =>
      rw [hcheck] at h
      obtain rfl : r' = r := Except.error.inj h
      simp only [checkCell] at hcheck
      split at hcheck <;> (repeat' split at hcheck) <;> cases hcheck <;> exact id

/-- Nor is a line. -/
theorem not_isOfName_of_writeLines {w : Worksheet} {line : ℕ} {lines : List (List GridCell)}
    {r : Refusal} (h : (w.writeLines line lines).1 = .error r) : ¬ r.IsOfName := by
  induction lines generalizing w line with
  | nil => cases h
  | cons cells rest ih =>
    rw [Worksheet.writeLines] at h
    rcases hwritten : w.writeLine line cells with ⟨answer, w'⟩
    rw [hwritten] at h
    cases answer with
    | ok _ => exact ih h
    | error r' =>
      obtain rfl : r' = r := Except.error.inj h
      exact not_isOfName_of_writeCells (congrArg Prod.fst hwritten)

end Workbook

open Workbook (Quoted checkName)

/-! ### Names of worksheets -/

namespace SheetNaming

/-- What a character of a section's name becomes in the name of a worksheet. -/
def worksheetChar (c : Char) : Char :=
  let c := if c = '/' then '_' else c
  if refusedChars.contains c then '_' else c

/-- An apostrophe is kept, and nothing else becomes one. -/
theorem map_worksheetChar_eq_iff {c? : Option Char} :
    c?.map worksheetChar = some '\'' ↔ c? = some '\'' := by
  have hchar : ∀ c, worksheetChar c = '\'' ↔ c = '\'' := by
    intro c
    by_cases hc : c = '\''
    · subst hc
      decide
    · simp only [worksheetChar, iff_false, hc]
      split
      · decide
      · split <;> [decide; exact hc]
  cases c? <;> simp [hchar]

theorem worksheetBase_stem (s : String) :
    worksheetBase (stem s) = (s.toList.take maxWorksheetName).map worksheetChar := by
  rw [worksheetBase, stem, String.toList_ofList, List.map_map, List.map_take]
  rfl

/-- The base of a worksheet's name begins with an apostrophe just if the section's name does. -/
theorem head?_worksheetBase_stem (s : String) :
    (worksheetBase (stem s)).head? = some '\'' ↔ s.toList.head? = some '\'' := by
  rw [worksheetBase_stem, List.head?_map, List.head?_take, if_neg (by decide),
    map_worksheetChar_eq_iff]

/-- It ends with one just if the characters of the section's name that fit do. -/
theorem getLast?_worksheetBase_stem (s : String) :
    (worksheetBase (stem s)).getLast? = some '\'' ↔
      (s.toList.take maxWorksheetName).getLast? = some '\'' := by
  rw [worksheetBase_stem, List.getLast?_map, map_worksheetChar_eq_iff]

/-- A number leaves room for the first character of the base. -/
theorem take_worksheetBase_ne_nil {s : String} (hs : s ≠ "") {n : ℕ} (hn : n < maxWorksheetName) :
    (worksheetBase (stem s)).take (maxWorksheetName - n) ≠ [] := by
  rw [worksheetBase_stem]
  simp only [ne_eq, List.take_eq_nil_iff, List.map_eq_nil_iff, String.toList_eq_nil_iff, hs,
    or_false]
  simp only [maxWorksheetName] at hn ⊢
  omega

section Variants

variable {s : String} {k : ℕ} (hs : s ≠ "")

include hs

/-- No variant of a worksheet's name is blank. -/
theorem variant_ne_empty : worksheet.variant s k ≠ "" := by
  rw [variant, worksheetVariant, Text.numbered, ← String.toList_eq_nil_iff.ne]
  split
  · rw [String.toList_ofList]
    intro hnil
    exact take_worksheetBase_ne_nil hs (n := 0) (by decide) (by rw [hnil, List.take_nil])
  · rw [String.toList_ofList, Text.toList_toString]
    exact List.append_ne_nil_of_right_ne_nil _ Nat.toDigits_ne_nil

/-- **A variant of a worksheet's name begins or ends with an apostrophe** just if the section's name
does, where only the first 31 characters count, and the last of them not if a number follows. -/
theorem quoted_variant_iff (hk : k < 10 ^ 30) :
    Quoted (worksheet.variant s k) ↔ s.toList.head? = some '\'' ∨
      (k = 0 ∧ (s.toList.take maxWorksheetName).getLast? = some '\'') := by
  rw [variant, worksheetVariant, Text.numbered]
  split
  · rename_i hzero
    rw [Quoted, String.toList_ofList, head?_worksheetBase_stem, getLast?_worksheetBase_stem]
    simp [hzero]
  · rename_i hpos
    have hdigits : (toString k).toList.length < maxWorksheetName := by
      rw [Text.toList_toString]
      exact Nat.lt_succ_of_le ((Nat.length_toDigits_le_iff (by decide) (by decide)).2 hk)
    have hnumber : (toString k).toList ≠ [] := by
      rw [Text.toList_toString]
      exact Nat.toDigits_ne_nil
    have hlast : (toString k).toList.getLast? ≠ some '\'' := fun h ↦
      absurd (Text.isDigit_of_mem_toString (List.mem_of_getLast? h)) (by decide)
    rw [Quoted, String.toList_ofList, List.head?_append_of_ne_nil _
      (take_worksheetBase_ne_nil hs hdigits), List.head?_take, if_neg (by omega),
      head?_worksheetBase_stem, List.getLast?_append_of_ne_nil _ hnumber]
    simp only [hlast, hpos, false_and, or_false]

end Variants

/-- A section's name leaves an apostrophe at an end of the name of its worksheet, which comes after
worksheets with the given names: it begins with one; or its first 31 characters end with one, and
no number follows because they are not taken. -/
def LeavesApostrophe (existing : List String) (s : String) : Prop :=
  s.toList.head? = some '\'' ∨ (s.toList.take maxWorksheetName).getLast? = some '\'' ∧
    ¬ worksheet.IsTaken existing (worksheet.variant s 0)

/-- **The name of a worksheet is refused just for an apostrophe** that the section's name leaves. -/
theorem checkName_sheetName {existing : List String} {s : String} (hs : s ≠ "")
    (hfew : existing.length < 10 ^ 27) :
    (Quoted (worksheet.sheetName existing s) ↔ LeavesApostrophe existing s) ∧
      checkName (worksheet.sheetName existing s) =
        if Quoted (worksheet.sheetName existing s) then
          .error (.apostrophe (worksheet.sheetName existing s))
        else .ok () := by
  obtain ⟨k, ⟨hfree, hbefore⟩, hname, hk⟩ := worksheet.exists_isFirstFree existing s
  have hk' : k < 10 ^ 30 := by omega
  have hzero : k = 0 ↔ ¬ worksheet.IsTaken existing (worksheet.variant s 0) := by
    constructor
    · rintro rfl
      exact hfree
    · intro hfree0
      by_contra hpos
      exact hfree0 (hbefore 0 (Nat.pos_of_ne_zero hpos))
  rw [hname]
  constructor
  · rw [quoted_variant_iff hs hk', LeavesApostrophe, hzero, and_comm]
  · exact Workbook.checkName_eq (variant_ne_empty hs)
      (length_worksheetVariant_le (stem s) (by omega))
      fun c hc ↦ not_mem_worksheetVariant (stem s) k hc

end SheetNaming

/-! ### Beginning the worksheets -/

namespace WorkbookDraft

/-- The rows that head a worksheet fit a grid. -/
def HeaderFits (options : Options) (s : Sheet) : Prop :=
  ((⟨s.name, []⟩ : Workbook.Worksheet).writeLines 0
    ((s.headerRows options).map fun row ↦ row.map .text)).1 = .ok ()

variable {options : Options} {r : Workbook.Refusal}

/-- **A name is refused as the first one at fault**: the worksheets before it have names that are
taken and headers that fit. -/
theorem startAll_eq_error_iff (hr : r.IsOfName) {sheets : List Sheet} {d : WorkbookDraft} :
    (startAll options d sheets).1 = .error (.workbook r) ↔
      ∃ before s after, sheets = before ++ s :: after ∧
        (∀ t ∈ before, checkName t.name = .ok () ∧ HeaderFits options t) ∧
        checkName s.name = .error r := by
  induction sheets generalizing d with
  | nil => simp [startAll]
  | cons t rest ih =>
    -- what comes before the fault is nothing, or begins with the first worksheet
    have hsplit : (∃ before s after, t :: rest = before ++ s :: after ∧
        (∀ u ∈ before, checkName u.name = .ok () ∧ HeaderFits options u) ∧
        checkName s.name = .error r) ↔
        checkName t.name = .error r ∨ (checkName t.name = .ok () ∧ HeaderFits options t) ∧
          ∃ before s after, rest = before ++ s :: after ∧
            (∀ u ∈ before, checkName u.name = .ok () ∧ HeaderFits options u) ∧
            checkName s.name = .error r := by
      constructor
      · rintro ⟨_ | ⟨u, before⟩, s, after, heq, hbefore, hs⟩
        · obtain ⟨rfl, -⟩ := List.cons_eq_cons.1 heq
          exact .inl hs
        · obtain ⟨rfl, rfl⟩ := List.cons_eq_cons.1 heq
          obtain ⟨ht, hbefore⟩ := List.forall_mem_cons.1 hbefore
          exact .inr ⟨ht, before, s, after, rfl, hbefore, hs⟩
      · rintro (ht | ⟨ht, before, s, after, rfl, hbefore, hs⟩)
        · exact ⟨[], t, rest, rfl, fun u hu ↦ absurd hu List.not_mem_nil, ht⟩
        · exact ⟨t :: before, s, after, rfl, List.forall_mem_cons.2 ⟨ht, hbefore⟩, hs⟩
    rw [hsplit, startAll]
    cases hname : checkName t.name with
    | error r' => simp
    | ok _ =>
      rcases hlines : (⟨t.name, []⟩ : Workbook.Worksheet).writeLines 0
        ((t.headerRows options).map fun row ↦ row.map .text) with ⟨answer, w⟩
      have hfits : HeaderFits options t ↔ answer = .ok () := by rw [HeaderFits, hlines]
      rw [hfits]
      cases answer with
      | ok _ =>
        simp only [hlines]
        rw [ih]
        simp
      | error r' =>
        -- a header is refused for a cell, which has nothing to do with names
        have hne : r' ≠ r := fun h ↦
          Workbook.not_isOfName_of_writeLines (congrArg Prod.fst hlines) (h ▸ hr)
        simp [hlines, hne]

/-- Where a name has no other fault, it is the first that begins or ends with an apostrophe. -/
theorem startAll_eq_error_iff_quoted {sheets : List Sheet} {d : WorkbookDraft}
    (hcheck : ∀ s ∈ sheets,
      checkName s.name = if Quoted s.name then .error (.apostrophe s.name) else .ok ())
    (hr : r.IsOfName) :
    (startAll options d sheets).1 = .error (.workbook r) ↔
      ∃ before s after, sheets = before ++ s :: after ∧
        (∀ t ∈ before, ¬ Quoted t.name ∧ HeaderFits options t) ∧
        Quoted s.name ∧ r = .apostrophe s.name := by
  rw [startAll_eq_error_iff hr]
  refine exists_congr fun before ↦ exists_congr fun s ↦ exists_congr fun after ↦
    and_congr_right fun hsheets ↦ and_congr (forall₂_congr fun t ht ↦ and_congr_left' ?_) ?_
  · rw [hcheck t (hsheets ▸ List.mem_append_left _ ht)]
    by_cases hquoted : Quoted t.name <;> simp [hquoted]
  · rw [hcheck s (hsheets ▸ List.mem_append_right _ List.mem_cons_self)]
    by_cases hquoted : Quoted s.name <;> simp [hquoted, eq_comm]

end WorkbookDraft

/-- What a workbook makes of the names of worksheets. -/
structure TakesNames (options : Options) (sheets : List Sheet) : Prop where
  /-- A name is refused just if it begins or ends with an apostrophe. -/
  check : ∀ s ∈ sheets,
    checkName s.name = if Quoted s.name then .error (.apostrophe s.name) else .ok ()
  /-- That is so just if the name of the section leaves an apostrophe there. -/
  quoted_iff : ∀ i s, sheets[i]? = some s → (Quoted s.name ↔
    SheetNaming.LeavesApostrophe ((sheets.take i).map (·.name)) s.sectionName)
  /-- The worksheets are refused for a name just if it is the first such name, and no header before
  it is refused. -/
  begin_iff : ∀ r : Workbook.Refusal, r.IsOfName → ∀ d,
    ((WorkbookDraft.sink options sheets).begin d).1 = .error (.workbook r) ↔
      ∃ before s after, sheets = before ++ s :: after ∧
        (∀ t ∈ before, ¬ Quoted t.name ∧ WorkbookDraft.HeaderFits options t) ∧
        Quoted s.name ∧ r = .apostrophe s.name

section Export

variable {form : Form} {options : Options}

/-- The name of a worksheet is made of that of its section, after those before it. -/
theorem ExportPlan.name_eq_sheetName {naming : SheetNaming} {i : ℕ} {s : Sheet}
    (hs : (madePlan form options naming).sheets[i]? = some s) :
    s.name = naming.sheetName (((madePlan form options naming).sheets.take i).map (·.name))
      s.sectionName := by
  have hname := congrArg (·[i]?) (@map_name_sheets form options naming)
  have hsection := congrArg (·[i]?) (@map_sectionName_sheets form options naming)
  simp only [List.getElem?_map, hs, Option.map_some] at hname hsection
  rw [sheetNames, SheetNaming.getElem?_assign, ← hsection, Option.map_some,
    Option.some.injEq] at hname
  rw [hname, List.map_take, map_name_sheets]
  rfl

/-- **The worksheets of an export have names that a workbook takes, apart from apostrophes.** This
holds for every form that has a codebook and whose repeated groups all have an xpath. So many
sections that a number of more than 30 digits is needed are more than any machine can hold. -/
theorem takesNames_sheets {book : Codebook} (hbook : Codebook.ofForm form options = .ok book)
    (hrepeats : "" ∉ form.repeats) (hfew : form.repeats.length < 10 ^ 27) :
    TakesNames options (ExportPlan.make book options .worksheet).sheets := by
  obtain ⟨rfl, htitle, -⟩ := Codebook.ofForm_eq_ok_iff.1 hbook
  have hne : ∀ x ∈ form.name :: form.repeats, x ≠ "" := by
    rintro x hx rfl
    rcases List.mem_cons.1 hx with hx | hx
    · exact htitle (hx ▸ rfl)
    · exact hrepeats hx
  have hone : ∀ i s, (ExportPlan.madePlan form options .worksheet).sheets[i]? = some s →
      (Quoted s.name ↔ SheetNaming.LeavesApostrophe
        (((ExportPlan.madePlan form options .worksheet).sheets.take i).map (·.name))
          s.sectionName) ∧
      checkName s.name = if Quoted s.name then .error (.apostrophe s.name) else .ok () := by
    intro i s hs
    have hlength := congrArg List.length
      (@ExportPlan.map_sectionName_sheets form options .worksheet)
    rw [List.length_map, List.length_cons] at hlength
    have hi := (List.getElem?_eq_some_iff.1 hs).1
    have hsection : s.sectionName ∈ form.name :: form.repeats := by
      rw [← @ExportPlan.map_sectionName_sheets form options .worksheet]
      exact List.mem_map_of_mem (List.mem_of_getElem? hs)
    rw [ExportPlan.name_eq_sheetName hs]
    refine SheetNaming.checkName_sheetName (hne _ hsection) ?_
    rw [List.length_map, List.length_take]
    omega
  have hcheck : ∀ s ∈ (ExportPlan.madePlan form options .worksheet).sheets,
      checkName s.name = if Quoted s.name then .error (.apostrophe s.name) else .ok () := by
    intro s hs
    obtain ⟨i, hi⟩ := List.mem_iff_getElem?.1 hs
    exact (hone i s hi).2
  exact ⟨hcheck, fun i s hs ↦ (hone i s hs).1,
    fun r hr d ↦ WorkbookDraft.startAll_eq_error_iff_quoted hcheck hr⟩

end Export

/-- A form with repeated groups whose xpaths hold an apostrophe, one of them as character 31. -/
def grandparentForm : Form where
  name := "visit"
  children := [
    .group .repeated "kin's" "kin's" none
      [.question { name := "n", xpath := "kin's/n", type := .text }],
    .group .repeated "households_of_the_grandparents'_kin"
      "households_of_the_grandparents'_kin" none []]

/-- Options that keep one column of it. -/
def grandparentOptions : Options := { columns := some ["kin's/n"] }

/-- The worksheet of one of its sections, under a name. -/
def grandparentSheet (s name : String) : Sheet :=
  .ofSection (Codebook.made grandparentForm grandparentOptions) grandparentOptions
    (Codebook.sectionNamed grandparentForm grandparentOptions s) name

/-- The worksheet of its second repeated group is refused, since its name ends after 31 characters;
that of the first one is not. -/
theorem takesNames_grandparentForm :
    let sheets := (ExportPlan.madePlan grandparentForm grandparentOptions .worksheet).sheets
    Codebook.ofForm grandparentForm grandparentOptions =
        .ok (Codebook.made grandparentForm grandparentOptions) ∧
      "" ∉ grandparentForm.repeats ∧ grandparentForm.repeats.length < 10 ^ 27 ∧
      sheets.map (·.name) = ["visit", "kin's", "households_of_the_grandparents'"] ∧
      ((WorkbookDraft.sink grandparentOptions sheets).begin {}).1 =
        .error (.workbook (.apostrophe "households_of_the_grandparents'")) := by
  intro sheets
  have hbook : Codebook.ofForm grandparentForm grandparentOptions =
      .ok (Codebook.made grandparentForm grandparentOptions) :=
    Codebook.ofForm_eq_ok_iff.2 ⟨rfl, by decide, by decide, by decide, by decide⟩
  have hrepeats : "" ∉ grandparentForm.repeats := by decide
  have hfew : grandparentForm.repeats.length < 10 ^ 27 := by decide
  have hnames : sheets.map (·.name) = ["visit", "kin's", "households_of_the_grandparents'"] := by
    rw [ExportPlan.map_name_sheets]
    decide +kernel
  have hsheets : sheets = [grandparentSheet "visit" "visit"] ++
      [grandparentSheet "kin's" "kin's"] ++
      grandparentSheet "households_of_the_grandparents'_kin" "households_of_the_grandparents'" ::
        [] := by
    rw [ExportPlan.map_name_sheets] at hnames
    exact ExportPlan.sheets_madePlan.trans (by rw [hnames]; rfl)
  have hbegin := (takesNames_sheets hbook hrepeats hfew).begin_iff
    (.apostrophe "households_of_the_grandparents'") trivial {}
  refine ⟨hbook, hrepeats, hfew, hnames, hbegin.2 ⟨_, _, _, hsheets, ?_, by decide, rfl⟩⟩
  intro t ht
  obtain rfl | rfl := by simpa using ht
  · exact ⟨by decide, rfl⟩
  · exact ⟨by decide, rfl⟩

end SurveyExport
