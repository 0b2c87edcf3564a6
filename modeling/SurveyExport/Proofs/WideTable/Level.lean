import SurveyExport.Proofs.KeyMap
import SurveyExport.WideTable.Spread

/-!
# The answers of a record by xpath

A wide table finds the answers of a record under the xpaths that its keys stand for: the instances
of a repeated group by `Record.instancesAt?`, the other answers by folding over all of them. If no
xpath is given twice, both look-ups find the one answer that is there
(`Record.instancesAt?_eq_some_iff`, `Record.get?_levelCells`).
-/

namespace SurveyExport.Record

variable {media : Option MediaRule} {files : List Attachment} {r : Record}

/-- No xpath is given twice in a record, be it as it is or as the store keeps it. -/
def KeysApart (r : Record) : Prop := (r.map fun e ↦ KeyEscape.decode e.1).Nodup

theorem find?_decode_cons (key : String) (a : Answer) (rest : Record) (xpath : String) :
    (((key, a) :: rest).find? fun e ↦ KeyEscape.decode e.1 == xpath) =
      if KeyEscape.decode key = xpath then some (key, a)
      else rest.find? fun e ↦ KeyEscape.decode e.1 == xpath := by
  rw [List.find?_cons]
  by_cases hkey : KeyEscape.decode key = xpath
  · rw [if_pos hkey, beq_iff_eq.2 hkey]
  · rw [if_neg hkey, beq_eq_false_iff_ne.2 hkey]

/-! ### Cells by xpath -/

/-- The cell of the answer under an xpath, before it is split and labelled. -/
def answerCell? (media : Option MediaRule) (files : List Attachment) (r : Record) (xpath : String) :
    Option Cell :=
  (r.find? fun e ↦ KeyEscape.decode e.1 == xpath).bind fun e ↦ wideCell? media files xpath e.2

theorem answerCell?_cons (key : String) (a : Answer) (rest : Record) (xpath : String) :
    answerCell? media files ((key, a) :: rest) xpath =
      if KeyEscape.decode key = xpath then wideCell? media files xpath a
      else answerCell? media files rest xpath := by
  rw [answerCell?, find?_decode_cons]
  split <;> rfl

/-- There is no cell where there is no answer. -/
theorem answerCell?_eq_none {xpath : String} (h : xpath ∉ r.map fun e ↦ KeyEscape.decode e.1) :
    answerCell? media files r xpath = none := by
  have hnone : (r.find? fun e ↦ KeyEscape.decode e.1 == xpath) = none := by
    refine List.find?_eq_none.2 fun e he hkey ↦ h ?_
    exact List.mem_map.2 ⟨e, he, beq_iff_eq.1 hkey⟩
  rw [answerCell?, hnone]
  rfl

theorem get?_putWideCell (row : Row) (key : String) (a : Answer) (xpath : String) :
    (putWideCell media files row (key, a)).get? xpath =
      if KeyEscape.decode key = xpath then wideCell? media files xpath a <|> row.get? xpath
      else row.get? xpath := by
  rw [putWideCell]
  split
  · rename_i c hc
    rw [KeyMap.get?_insert]
    split
    · rename_i hkey
      rw [← hkey, hc]
      rfl
    · rfl
  · rename_i hc
    split
    · rename_i hkey
      rw [← hkey, hc]
      rfl
    · rfl

/-- If no xpath is given twice, the cell under it is that of the one answer there. -/
theorem get?_levelCells (hnd : r.KeysApart) (xpath : String) :
    (r.levelCells media files).get? xpath = r.answerCell? media files xpath := by
  have hfold : ∀ row : Row, (r.foldl (putWideCell media files) row).get? xpath =
      (r.answerCell? media files xpath <|> row.get? xpath) := by
    induction r with
    | nil => exact fun _ ↦ rfl
    | cons e rest ih =>
      obtain ⟨key, a⟩ := e
      obtain ⟨hkey, hrest⟩ := List.nodup_cons.1 hnd
      intro row
      rw [List.foldl_cons, ih hrest, get?_putWideCell, answerCell?_cons]
      split
      · rename_i heq
        rw [answerCell?_eq_none (heq ▸ hkey)]
        rfl
      · rfl
  rw [levelCells, hfold]
  cases r.answerCell? media files xpath <;> rfl

/-! ### Instances by xpath -/

/-- The instances that an answer holds. -/
def heldBy? : Answer → Option (List Record)
  | .instances records => some records
  | _ => none

/-- The first answer under an xpath decides on the instances there. -/
theorem instancesAt?_cons (key : String) (a : Answer) (rest : Record) (xpath : String) :
    instancesAt? ((key, a) :: rest) xpath =
      if KeyEscape.decode key = xpath then heldBy? a else instancesAt? rest xpath := by
  rw [instancesAt?, find?_decode_cons]
  by_cases hkey : KeyEscape.decode key = xpath
  · rw [if_pos hkey, if_pos hkey]
    cases a <;> rfl
  · rw [if_neg hkey, if_neg hkey]
    rfl

/-- Instances that are found under an xpath are held by an answer there. -/
theorem mem_of_instancesAt? {xpath : String} {records : List Record}
    (h : r.instancesAt? xpath = some records) :
    ∃ key, (key, .instances records) ∈ r ∧ KeyEscape.decode key = xpath := by
  induction r with
  | nil => cases h
  | cons e rest ih =>
    obtain ⟨key, a⟩ := e
    rw [instancesAt?_cons] at h
    split at h
    · rename_i hkey
      cases a with
      | instances records' =>
        obtain rfl := Option.some.inj h
        exact ⟨key, List.mem_cons_self, hkey⟩
      | _ => cases h
    · obtain ⟨key', hmem, hkey'⟩ := ih h
      exact ⟨key', List.mem_cons_of_mem _ hmem, hkey'⟩

/-- If no xpath is given twice, the instances under it are those of the one answer there. -/
theorem instancesAt?_eq_some_iff (hnd : r.KeysApart) {xpath : String}
    {records : List Record} : r.instancesAt? xpath = some records ↔
      ∃ key, (key, .instances records) ∈ r ∧ KeyEscape.decode key = xpath := by
  refine ⟨mem_of_instancesAt?, ?_⟩
  rintro ⟨key, hmem, rfl⟩
  induction r with
  | nil => cases hmem
  | cons e rest ih =>
    obtain ⟨key', a⟩ := e
    obtain ⟨hkey', hrest⟩ := List.nodup_cons.1 hnd
    rw [instancesAt?_cons]
    rcases List.mem_cons.1 hmem with heq | hmem
    · obtain ⟨rfl, rfl⟩ := Prod.mk.inj heq
      rw [if_pos rfl]
      rfl
    · have hne : KeyEscape.decode key' ≠ KeyEscape.decode key := fun heq ↦
        hkey' (List.mem_map.2 ⟨_, hmem, heq.symm⟩)
      rw [if_neg hne]
      exact ih hrest hmem

end SurveyExport.Record
