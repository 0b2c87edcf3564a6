import SurveyExport.Proofs.Codebook.Check
import SurveyExport.Proofs.Row.Frame
import SurveyExport.Proofs.Row.Splitting

/-!
# References in rows

In the last step to the normal form of a row the references in its texts are replaced. Each text is
cut at its references, and the cut is filled from the row as it was before the step
(`Row.substitute_simultaneous`). So texts that refer to each other, or to themselves, are filled
with one another's texts as they were, and what is filled in stays as it is.

The steps before write to no other keys than those that a section owns (`Section.ownedKeys`). Under
all other keys a row in normal form has the cells it had, unless they are texts that refer to a cell
with a value (`Row.normalize_of_not_mem_ownedKeys`).
-/

namespace SurveyExport

namespace Row

variable {row : Row} {k s : String}

/-! ### All texts at once -/

/-- What stands for a reference afterwards: the display of the cell that the row has under the key,
or if there is none or it is blank, the reference as it is written. -/
def referent (row : Row) (key : List Char) : List Char :=
  match row.get? (String.ofList key) with
  | some c => if c.isBlank then referenceText key else c.display.toList
  | none => referenceText key

theorem replacement_referenced (row : Row) (key : List Char) :
    replacement (referenced row) key = referent row key := by
  rw [replacement, referenced, referent]
  cases row.get? (String.ofList key) with
  | none => rfl
  | some c => cases hblank : c.isBlank <;> simp [Option.filter, hblank]

/-- The texts of a row are filled in along their templates. -/
theorem substituteCell_text_of_isOf {t : Template} (h : t.IsOf s.toList) :
    substituteCell row (.text s) = .text (String.ofList (t.fill (referent row))) := by
  rw [substituteCell, ← h.2, Template.substituteFrom_fill _ h.1,
    funext (replacement_referenced row)]

/-- Puts the text that a row has under a key into a second row, with the references to cells of the
first one replaced. -/
def putText (row filled : Row) (k : String) : Row :=
  match row.get? k with
  | some (.text s) => filled.insert k (substituteCell row (.text s))
  | _ => filled

theorem get?_putText_of_ne {filled : Row} {k' : String} (h : k' ≠ k) :
    (putText row filled k).get? k' = filled.get? k' := by
  rw [putText]
  split
  · rw [KeyMap.get?_insert, if_neg h.symm]
  · rfl

theorem get?_putText_self {filled : Row} (h : filled.get? k = row.get? k) :
    (putText row filled k).get? k = row.substitute.get? k := by
  rw [get?_substitute, putText]
  split
  · rename_i s hget
    rw [KeyMap.get?_insert, if_pos rfl, hget, Option.map_some]
  · rename_i hget
    rw [h]
    cases hcell : row.get? k with
    | none => rfl
    | some c =>
      cases c with
      | text s => exact absurd hcell (hget s)
      | _ => rfl

/-- It makes no difference if the texts are put into the row one after the other. -/
theorem foldl_putText {order : List String} (h : order.Perm row.keys) :
    order.foldl (putText row) row = row.substitute := by
  refine KeyMap.ext_get? fun k ↦ ?_
  have hother : ∀ filled : Row, ∀ k' ∈ order, k' ≠ k →
      (putText row filled k').get? k = filled.get? k :=
    fun _ _ _ hne ↦ get?_putText_of_ne hne.symm
  by_cases hk : k ∈ order
  · obtain ⟨filled, hfilled, -, heq⟩ :=
      get?_foldl_of_mem (h.nodup_iff.2 row.nodup_keys) hk hother hother row
    rw [heq, get?_putText_self hfilled]
  · have hnone : row.get? k = none := by
      cases hget : row.get? k with
      | none => rfl
      | some c => exact absurd (h.mem_iff.2 (KeyMap.mem_keys_iff.2 ⟨c, hget⟩)) hk
    rw [get?_foldl fun filled k' hk' ↦ hother filled k' hk' fun heq ↦ hk (heq ▸ hk'),
      get?_substitute, hnone, Option.map_none]

theorem keys_substitute (row : Row) : row.substitute.keys = row.keys := by
  simp [substitute, KeyMap.mapValues, KeyMap.keys, Function.comp_def]

/-- **All references of a row are replaced at once, and none twice.** -/
theorem substitute_simultaneous (row : Row) :
    row.substitute.keys = row.keys ∧
    (∀ k c, row.get? k = some c → c.text? = none → row.substitute.get? k = some c) ∧
    (∀ k s, row.get? k = some (.text s) →
      ∃ t : Template, t.IsOf s.toList ∧ (∀ t' : Template, t'.IsOf s.toList → t' = t) ∧
        row.substitute.get? k = some (.text (String.ofList (t.fill (referent row))))) ∧
    ∀ order : List String, order.Perm row.keys →
      order.foldl (putText row) row = row.substitute := by
  refine ⟨keys_substitute row, fun k c hget htext ↦ ?_, fun k s hget ↦ ?_,
    fun _ ↦ foldl_putText⟩
  · rw [get?_substitute, hget, Option.map_some]
    cases c with
    | text s => cases htext
    | _ => rfl
  · obtain ⟨t, ht⟩ := Template.exists_isOf s.toList
    refine ⟨t, ht, fun t' ht' ↦ ht.unique ht', ?_⟩
    rw [get?_substitute, hget, Option.map_some, substituteCell_text_of_isOf ht]

/-- A row with texts that refer to each other. -/
def echoRow : Row :=
  KeyMap.ofList [("greeting", .text "Hello $\x7bname\x7d, $\x7bmissing\x7d"),
    ("name", .text "$\x7bgreeting\x7d"), ("seen", .int 2)]

/-- Each text is filled with the other one as it was. -/
theorem substitute_simultaneous_echoRow :
    echoRow.substitute.get? "greeting" =
        some (.text "Hello $\x7bgreeting\x7d, $\x7bmissing\x7d") ∧
      echoRow.substitute.get? "name" =
        some (.text "Hello $\x7bname\x7d, $\x7bmissing\x7d") ∧
      echoRow.substitute.get? "seen" = some (.int 2) := by
  obtain ⟨-, hkept, htexts, -⟩ := substitute_simultaneous echoRow
  refine ⟨?_, ?_, hkept _ _ rfl rfl⟩
  · obtain ⟨t, -, hunique, hget⟩ := htexts "greeting" _ rfl
    have ht : Template.IsOf (.reference "Hello ".toList "name".toList
        (.reference ", ".toList "missing".toList (.last []))) _ :=
      ⟨⟨isPlain_of_not_mem (by decide), by decide, isPlain_of_not_mem (by decide), by decide,
        isPlain_nil⟩, rfl⟩
    rw [hget, ← hunique _ ht]
    rfl
  · obtain ⟨t, -, hunique, hget⟩ := htexts "name" _ rfl
    have ht : Template.IsOf (.reference [] "greeting".toList (.last [])) _ :=
      ⟨⟨isPlain_nil, by decide, isPlain_nil⟩, rfl⟩
    rw [hget, ← hunique _ ht]
    rfl

/-! ### Keys that a section does not own -/

/-- A text refers to a key. -/
def RefersTo (s key : String) : Prop :=
  IsReferenceKey key.toList ∧ referenceText key.toList <:+: s.toList

/-- A text that refers to no cell with a value is not changed. -/
theorem substituteCell_text_eq_self
    (h : ∀ key, RefersTo s key → ∀ c, row.get? key = some c → c.isBlank = true) :
    substituteCell row (.text s) = .text s := by
  obtain ⟨t, ht⟩ := Template.exists_isOf s.toList
  have hfill : t.fill (referent row) = t.fill referenceText := by
    refine Template.fill_congr ht.1 fun key hkey hin ↦ ?_
    rw [ht.2] at hin
    have hrefers : RefersTo s (String.ofList key) := by
      rw [RefersTo, String.toList_ofList]
      exact ⟨hkey, hin⟩
    rw [referent]
    cases hget : row.get? (String.ofList key) with
    | none => rfl
    | some c => simp [h _ hrefers c hget]
  rw [substituteCell_text_of_isOf ht, hfill, ht.2, String.ofList_toList]

end Row

namespace Section

/-- The keys that a section owns: those of its columns, those that the store keeps answers by, those
of its select-multiples and their choices, those of the components of its geopoints, and that of the
time of submission. -/
def ownedKeys (s : Section) : List String :=
  s.columns.map (·.key) ++ s.storedKeys.map (·.2) ++ s.splits.flatMap (·.keys) ++
    s.points.flatMap (·.components) ++ [MetaKey.submissionTime]

variable {form : Form} {options : Options} {name k : String} {questions : List Question}

/-- Normalising a row touches owned keys only. -/
theorem untouched_of_not_mem_ownedKeys
    (h : k ∉ (ofQuestions form options name questions).ownedKeys) :
    Row.Untouched (ofQuestions form options name questions) k := by
  simp only [ownedKeys, List.mem_append, List.mem_map, List.mem_flatMap, List.mem_singleton,
    not_or] at h
  obtain ⟨⟨⟨⟨hcolumns, hstored⟩, hsplits⟩, hpoints⟩, htime⟩ := h
  refine untouched_of_columns ?_ ?_ (fun t ht ↦ ?_) (fun p hp hmem ↦ hpoints ⟨p, hp, hmem⟩) htime
  · rintro c hc rfl
    exact hcolumns ⟨c, hc, rfl⟩
  · rintro e he rfl
    exact hstored ⟨e, he, rfl⟩
  · rintro c hc rfl
    exact hsplits ⟨t, ht, SplitQuestion.key_mem_keys hc⟩

end Section

namespace Row

/-- **Normalising a row leaves alone what the section does not own**, apart from references to cells
with a value. -/
theorem normalize_of_not_mem_ownedKeys {form : Form} {options : Options} {book : Codebook}
    {s : Section} {k : String} (hbook : Codebook.ofForm form options = .ok book)
    (hs : s ∈ book.sections) (hk : k ∉ s.ownedKeys) (used : Options) (row : Row) :
    (row.normalize book used s).contains k = row.contains k ∧
    ((¬ ∃ text key c, row.get? k = some (.text text) ∧ RefersTo text key ∧
        (typed book used s row).get? key = some c ∧ c.isBlank = false) →
      (row.normalize book used s).get? k = row.get? k) := by
  obtain ⟨rfl, -⟩ := Codebook.ofForm_eq_ok_iff.1 hbook
  obtain ⟨-, hsection⟩ := Codebook.eq_sectionNamed_of_mem hs
  have huntouched : Untouched s k := by
    rw [hsection] at hk ⊢
    exact Section.untouched_of_not_mem_ownedKeys hk
  have hget := get?_normalize huntouched (Codebook.made form options) used row
  refine ⟨by rw [KeyMap.contains, hget, Option.isSome_map]; rfl, fun h ↦ ?_⟩
  rw [hget]
  cases hcell : row.get? k with
  | none => rfl
  | some c =>
    cases c with
    | text text =>
      refine congrArg some (substituteCell_text_eq_self fun key hrefers c hc ↦ ?_)
      by_contra hblank
      exact h ⟨text, key, c, hcell, hrefers, hc, by simpa using hblank⟩
    | _ => rfl

/-- A form with a geopoint. -/
def wellForm : Form where
  name := "visit"
  children := [.question { name := "gps", xpath := "gps", type := .geopoint }]

/-- A row with an answer to it, and a remark that refers to a cell that is not there. -/
def wellRow : Row :=
  KeyMap.ofList [("gps", .text "-13.1 28.4 1200 5"), ("remark", .text "near $\x7bplace\x7d")]

/-- The remark is kept, while the geopoint is split. -/
theorem normalize_of_not_mem_ownedKeys_wellForm :
    let book := Codebook.made wellForm {}
    Codebook.ofForm wellForm {} = .ok book ∧ "remark" ∉ book.root.ownedKeys ∧
      (wellRow.normalize book {} book.root).get? "remark" =
        some (.text "near $\x7bplace\x7d") := by
  intro book
  have hbook : Codebook.ofForm wellForm {} = .ok book :=
    Codebook.ofForm_eq_ok_iff.2 ⟨rfl, by decide, by decide, by decide, by decide⟩
  have howned : "remark" ∉ book.root.ownedKeys := by decide
  refine ⟨hbook, howned, ?_⟩
  rw [(normalize_of_not_mem_ownedKeys hbook List.mem_cons_self howned {} wellRow).2]
  · rfl
  · rintro ⟨text, key, c, htext, ⟨-, hin⟩, hget, -⟩
    -- the text refers to none of the keys that the row has
    have hkeys : ∀ key ∈ (typed book {} book.root wellRow).keys,
        ¬ referenceText key.toList <:+: "near $\x7bplace\x7d".toList := by decide +kernel
    obtain rfl : "near $\x7bplace\x7d" = text := Cell.text.inj (Option.some.inj htext)
    exact hkeys key (KeyMap.mem_keys_iff.2 ⟨c, hget⟩) hin

end Row

end SurveyExport
