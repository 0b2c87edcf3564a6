import SurveyExport.Proofs.Submission.Stored
import SurveyExport.Proofs.WideTable.Level
import SurveyExport.WideTable.Basic

/-!
# The wide table of stored submissions

A wide table decodes every key before it is used. So submissions whose keys have no marks give the
same table as their stored forms, under all options (`WideTable.ofRecords_store`).
-/

namespace SurveyExport

namespace Record

variable {book : Codebook} {options : Options} {files : List Attachment} {r : Record}
  {name : String}

/-- The attachments of a record are stored as they are. -/
@[simp] theorem attachments_store (r : Record) : r.store.attachments = r.attachments := by
  rw [attachments, attachments]
  congr 1
  induction r with
  | nil => rfl
  | cons e rest ih =>
    rw [store_cons, List.findSome?_cons, List.findSome?_cons, ih]
    cases e.2 with
    | instances records => rw [Answer.store_instances]
    | _ => rfl

theorem wideCell?_store (media : Option MediaRule) (files : List Attachment) (k : String)
    (a : Answer) : wideCell? media files k a.store = wideCell? media files k a := by
  cases a with
  | instances records => rw [Answer.store_instances]; rfl
  | _ => rfl

theorem decode_store_key {k : String} (h : KeyEscape.Unmarked k) :
    KeyEscape.decode (KeyEscape.store k) = KeyEscape.decode k := by
  rw [KeyEscape.decode_store h, KeyEscape.decode_eq_self h]

/-- The cells of a stored record are those of the record. -/
theorem level_store (h : ∀ e ∈ r, KeyEscape.Unmarked e.1) :
    r.store.level book options files = r.level book options files := by
  have hfold : ∀ (media : Option MediaRule) (row : Row),
      r.store.foldl (putWideCell media files) row = r.foldl (putWideCell media files) row := by
    intro media
    induction r with
    | nil => exact fun _ ↦ rfl
    | cons e rest ih =>
      intro row
      have hput : putWideCell media files row (KeyEscape.store e.1, e.2.store) =
          putWideCell media files row e := by
        rw [putWideCell, decode_store_key (h e List.mem_cons_self), wideCell?_store]
        rfl
      rw [store_cons, List.foldl_cons, List.foldl_cons, hput]
      exact ih (fun e he ↦ h e (List.mem_cons_of_mem _ he)) _
  rw [level, level, splitCells, splitCells, levelCells, levelCells, hfold]

/-- A stored record holds the stored instances. -/
theorem instancesAt?_store (h : ∀ e ∈ r, KeyEscape.Unmarked e.1) (xpath : String) :
    r.store.instancesAt? xpath = (r.instancesAt? xpath).map fun records ↦ records.map store := by
  induction r with
  | nil => rfl
  | cons e rest ih =>
    obtain ⟨key, a⟩ := e
    rw [store_cons, instancesAt?_cons, instancesAt?_cons,
      decode_store_key (h _ List.mem_cons_self)]
    split
    · cases a with
      | instances records => rw [Answer.store_instances]; rfl
      | _ => rfl
    · exact ih fun e he ↦ h e (List.mem_cons_of_mem _ he)

/-- What is made of numbered instances is made of their stored forms, if it is so for each. -/
theorem flatMap_zipIdx_store {records : List Record} {entries : Record × Nat → List WideEntry}
    (h : ∀ i ∈ records, ∀ n, entries (i.store, n) = entries (i, n)) :
    (records.map store).zipIdx.flatMap entries = records.zipIdx.flatMap entries := by
  rw [List.zipIdx_map, List.flatMap_map]
  exact List.flatMap_congr fun e he ↦ h e.1 (List.fst_mem_of_mem_zipIdx he) e.2

mutual

/-- The entries that a slot of a stored instance adds are those of the instance. -/
theorem entries_store (book : Codebook) (options : Options) (files : List Attachment) :
    ∀ (slot : WideSlot) (owner path name : String) (r : Record) (row : Row), r.KeysUnmarked name →
      WideSlot.entries book options files owner path r.store row slot =
        WideSlot.entries book options files owner path r row slot
  | .cell key, owner, path, name, r, row, _ => rfl
  | .instances xpath slots, owner, path, name, r, row, h => by
    obtain ⟨hself, hinside⟩ := everyLevel_iff.1 h
    rw [WideSlot.entries, WideSlot.entries, instancesAt?_store hself]
    cases hget : r.instancesAt? xpath with
    | none => rfl
    | some records =>
      obtain ⟨key, hkey, -⟩ := mem_of_instancesAt? hget
      rw [Option.map_some, Option.getD_some, Option.getD_some]
      refine flatMap_zipIdx_store fun i hi n ↦ ?_
      have hunmarked := hinside key records hkey i hi
      rw [level_store (everyLevel_iff.1 hunmarked).1]
      exact entriesOfAll_store book options files slots _ _ _ _ _ hunmarked

/-- The same for several slots. -/
theorem entriesOfAll_store (book : Codebook) (options : Options) (files : List Attachment) :
    ∀ (slots : List WideSlot) (owner path name : String) (r : Record) (row : Row),
      r.KeysUnmarked name →
      WideSlot.entriesOfAll book options files owner path r.store row slots =
        WideSlot.entriesOfAll book options files owner path r row slots
  | [], _, _, _, _, _, _ => rfl
  | slot :: rest, owner, path, name, r, row, h => by
    rw [WideSlot.entriesOfAll, WideSlot.entriesOfAll,
      entries_store book options files slot _ _ _ _ _ h,
      entriesOfAll_store book options files rest _ _ _ _ _ h]

end

/-- The entries of a stored submission are those of the submission. -/
theorem wideEntries_store {groups : List WideGroup} (h : r.KeysUnmarked name) :
    r.store.wideEntries book options groups = r.wideEntries book options groups := by
  rw [wideEntries, wideEntries, attachments_store]
  generalize r.attachments = files
  induction r with
  | nil => rfl
  | cons e rest ih =>
    obtain ⟨key, a⟩ := e
    obtain ⟨⟨hkey, hinside⟩, hrest⟩ := everyAnswer_cons.1 h
    rw [store_cons, List.flatMap_cons, List.flatMap_cons, ih hrest]
    refine congrArg (· ++ _) ?_
    cases a with
    | instances records =>
      simp only [Answer.store_instances, wideEntriesAt, decode_store_key hkey]
      split
      · rfl
      · refine flatMap_zipIdx_store fun i hi n ↦ ?_
        have hunmarked := hinside records rfl i hi
        rw [level_store (everyLevel_iff.1 hunmarked).1]
        exact entriesOfAll_store book options files _ _ _ _ _ _ hunmarked
    | _ => rfl

end Record

/-- **Submissions and their stored forms give the same wide table**, if no key has a mark. -/
theorem WideTable.ofRecords_store (book : Codebook) (options : Options) {records : List Record}
    {name : String} (h : ∀ r ∈ records, r.KeysUnmarked name) :
    ofRecords book options (records.map Record.store) = ofRecords book options records := by
  have hentries : ∀ r ∈ records, ∀ groups,
      r.store.wideEntries book options groups = r.wideEntries book options groups :=
    fun r hr groups ↦ Record.wideEntries_store (h r hr)
  have htexts : ∀ r ∈ records, ∀ groups,
      r.store.wideTexts book options groups = r.wideTexts book options groups := by
    intro r hr groups
    rw [Record.wideTexts, Record.wideTexts, Record.written, Record.written,
      Record.attachments_store, hentries r hr,
      Record.level_store (Record.everyLevel_iff.1 (h r hr)).1]
  have hall : ∀ groups, (records.map Record.store).flatMap
      (Record.wideEntries book options groups) =
        records.flatMap (Record.wideEntries book options groups) := fun groups ↦ by
    rw [List.flatMap_map]
    exact List.flatMap_congr fun r hr ↦ hentries r hr groups
  rw [ofRecords, ofRecords]
  simp only [hall, List.map_map, WideTable.mk.injEq, true_and]
  exact List.map_congr_left fun r hr ↦ by simp only [Function.comp_apply, htexts r hr]

end SurveyExport
