import SurveyExport.Proofs.Submission.Places
import SurveyExport.Proofs.WideTable.Slots
import SurveyExport.Proofs.WideTable.Spreads

/-!
# The entries of a submission

The walk over a submission makes entries instance by instance and slot by slot. Here they are said
without the walk: an entry stands for a trail to an instance and a column of a question in the
instance's section (`Record.mem_wideEntries`). Nothing is lost and nothing is made up.
-/

namespace SurveyExport

namespace Record

variable {form : Form} {book : Codebook} {options : Options} {files : List Attachment}

/-! ### The entries of one slot -/

/-- The entries of instances are those of each, which is numbered by its position. -/
theorem mem_zipIdx_flatMap {records : List Record} {entries : Record × Nat → List WideEntry}
    {e : WideEntry} : e ∈ records.zipIdx.flatMap entries ↔
      ∃ j n, records[n]? = some j ∧ e ∈ entries (j, n) := by
  rw [List.mem_flatMap]
  constructor
  · rintro ⟨⟨j, n⟩, hj, he⟩
    exact ⟨j, n, List.mem_zipIdx_iff_getElem?.1 hj, he⟩
  · rintro ⟨j, n, hj, he⟩
    exact ⟨(j, n), List.mem_zipIdx_iff_getElem?.2 hj, he⟩

/-- The entries of slots are the entries of each. -/
theorem mem_entriesOfAll {owner path : String} {r : Record} {row : Row} {slots : List WideSlot}
    {e : WideEntry} : e ∈ WideSlot.entriesOfAll book options files owner path r row slots ↔
      ∃ slot ∈ slots, e ∈ WideSlot.entries book options files owner path r row slot := by
  induction slots with
  | nil => simp [WideSlot.entriesOfAll]
  | cons slot rest ih => simp [WideSlot.entriesOfAll, ih]

/-- A slot for a cell adds the one entry below the path. -/
theorem mem_entries_cell {x path key : String} {r : Record} {row : Row} {e : WideEntry}
    (h : x.toList ++ ['/'] <+: key.toList) :
    e ∈ WideSlot.entries book options files x path r row (.cell key) ↔
      e = ⟨x, Trail.spreadFrom path x [] key, row.shown key⟩ := by
  rw [WideSlot.entries, List.mem_singleton, Trail.spreadFrom_nil path h]

/-- A slot for instances adds entries of instances that the record holds there. -/
theorem exists_of_mem_entries_instances {x y path : String} {r : Record} {row : Row}
    {slots : List WideSlot} {e : WideEntry}
    (h : e ∈ WideSlot.entries book options files x path r row (.instances y slots)) :
    ∃ key records, (key, .instances records) ∈ r ∧ KeyEscape.decode key = y ∧
      ∃ j n, records[n]? = some j ∧ e ∈ WideSlot.entriesOfAll book options files y
        (options.indexTags.instancePath (path ++ "/" ++ below x y) (n + 1)) j
        (level book options files j) slots := by
  rw [WideSlot.entries, mem_zipIdx_flatMap] at h
  obtain ⟨j, n, hj, he⟩ := h
  cases hget : r.instancesAt? y with
  | none =>
    rw [hget] at hj
    cases hj
  | some records =>
    rw [hget] at hj
    obtain ⟨key, hkey, hdecode⟩ := mem_of_instancesAt? hget
    exact ⟨key, records, hkey, hdecode, j, n, hj, he⟩

/-- If no xpath is given twice, it adds the entries of all instances that the record holds there. -/
theorem mem_entries_instances {x y path : String} {r : Record} (hr : r.KeysApart) {row : Row}
    {slots : List WideSlot} {e : WideEntry} :
    e ∈ WideSlot.entries book options files x path r row (.instances y slots) ↔
      ∃ key records, (key, .instances records) ∈ r ∧ KeyEscape.decode key = y ∧
        ∃ j n, records[n]? = some j ∧ e ∈ WideSlot.entriesOfAll book options files y
          (options.indexTags.instancePath (path ++ "/" ++ below x y) (n + 1)) j
          (level book options files j) slots := by
  refine ⟨exists_of_mem_entries_instances, ?_⟩
  rintro ⟨key, records, hkey, hdecode, j, n, hj, he⟩
  rw [WideSlot.entries, mem_zipIdx_flatMap]
  refine ⟨j, n, ?_, he⟩
  rwa [(instancesAt?_eq_some_iff hr).2 ⟨key, hkey, hdecode⟩]

/-- A submission adds the entries of all instances in it, under the slots of their groups. -/
theorem mem_wideEntriesAt {groups : List WideGroup} {key : String} {a : Answer} {e : WideEntry} :
    e ∈ wideEntriesAt book options groups files key a ↔
      KeyEscape.decode key ≠ MetaKey.attachments ∧ KeyEscape.decode key ≠ MetaKey.notes ∧
        ∃ records, a = .instances records ∧ ∃ j n, records[n]? = some j ∧
          e ∈ WideSlot.entriesOfAll book options files (KeyEscape.decode key)
            (options.indexTags.instancePath (KeyEscape.decode key) (n + 1)) j
            (level book options files j)
            ((WideGroup.slots? groups (KeyEscape.decode key)).getD []) := by
  cases a with
  | instances records =>
    rw [wideEntriesAt]
    split
    · rename_i hmeta
      exact ⟨nofun, fun h ↦ absurd hmeta (not_or.2 ⟨h.1, h.2.1⟩)⟩
    · rename_i hmeta
      rw [mem_zipIdx_flatMap]
      constructor
      · exact fun h ↦ ⟨(not_or.1 hmeta).1, (not_or.1 hmeta).2, records, rfl, h⟩
      · rintro ⟨-, -, _, heq, h⟩
        exact Answer.instances.inj heq ▸ h
  | _ => simp [wideEntriesAt]

/-! ### The entries of all slots -/

/-- The entries of an instance at a path are those of columns below it. -/
theorem exists_of_mem_entries (hform : form.Legible options) {i : Record} {x path : String}
    {children : List Node} (hx : form.Opens x children) {e : WideEntry}
    (he : e ∈ WideSlot.entriesOfAll book options files x path i (level book options files i)
      (form.wideSlotsOfAll options children)) :
    ∃ trail t j q key, form.Leads x i trail t j ∧ form.Holds t q ∧ key ∈ form.wideKeys options q ∧
      e = ⟨t, Trail.spreadFrom path x trail key, (level book options files j).shown key⟩ := by
  induction i using instance_induction generalizing x path children with
  | record i ih =>
    have hnd := hform.names_nodup
    have hname : x ≠ form.name := hx.ne_name hnd
    obtain ⟨slot, hslot, he⟩ := mem_entriesOfAll.1 he
    cases slot with
    | cell key =>
      obtain ⟨q, hq, hkey⟩ := (Form.cell_mem_slots hnd hx).1 hslot
      have hcell : x.toList ++ ['/'] <+: key.toList :=
        Form.below_of_mem_wideKeys hkey (Form.below_of_holds hform.nested hname hq)
      exact ⟨[], x, i, q, key, .here, hq, hkey, (mem_entries_cell hcell).1 he⟩
    | instances y slots =>
      obtain ⟨hy, inner, hinner, rfl⟩ := (Form.instances_mem_slots hnd hx).1 hslot
      obtain ⟨key, records, hkey, hdecode, j, n, hj, he⟩ := exists_of_mem_entries_instances he
      -- the trail from the inner instance goes on from a step into it
      obtain ⟨rest, t, k, q, c, hleads, hq, hc, rfl⟩ :=
        ih key records hkey j (List.mem_of_getElem? hj) hinner he
      refine ⟨_, t, k, q, c, .into hkey hdecode hy hj hleads, hq, hc, ?_⟩
      rw [← Trail.spreadFrom_cons path (Form.below_of_encloses hform.nested hname hy), hform.tags]

/-- If no xpath is given twice, they are those of all columns below it. -/
theorem mem_entries_of_opens (hform : form.Legible options) {i : Record} {x path : String}
    {children : List Node} (hx : form.Opens x children)
    (hkeys : form.AllLevels (fun _ ↦ KeysApart) x i) {e : WideEntry} :
    e ∈ WideSlot.entriesOfAll book options files x path i (level book options files i)
        (form.wideSlotsOfAll options children) ↔
      ∃ trail t j q key, form.Leads x i trail t j ∧ form.Holds t q ∧
        key ∈ form.wideKeys options q ∧
        e = ⟨t, Trail.spreadFrom path x trail key, (level book options files j).shown key⟩ := by
  refine ⟨exists_of_mem_entries hform hx, ?_⟩
  rintro ⟨trail, t, j, q, key, hleads, hq, hkey, rfl⟩
  have hnd := hform.names_nodup
  induction hleads generalizing path children with
  | @here x i =>
    have hcell : x.toList ++ ['/'] <+: key.toList :=
      Form.below_of_mem_wideKeys hkey (Form.below_of_holds hform.nested (hx.ne_name hnd) hq)
    exact mem_entriesOfAll.2 ⟨.cell key, (Form.cell_mem_slots hnd hx).2 ⟨q, hq, hkey⟩,
      (mem_entries_cell hcell).2 rfl⟩
  | @into x y t key' i j' j records n rest hkey' hdecode hy hn hleads ih =>
    obtain ⟨inner, hinner⟩ := hy.exists_opens
    have hinside := hkeys.inside hkey' hdecode hy (List.mem_of_getElem? hn)
    refine mem_entriesOfAll.2 ⟨.instances y (form.wideSlotsOfAll options inner),
      (Form.instances_mem_slots hnd hx).2 ⟨hy, inner, hinner, rfl⟩,
      (mem_entries_instances hkeys.self).2 ⟨key', records, hkey', hdecode, j', n, hn, ?_⟩⟩
    rw [← Trail.spreadFrom_cons path (Form.below_of_encloses hform.nested (hx.ne_name hnd) hy),
      hform.tags]
    exact ih hinner hinside hq

/-! ### The entries of a submission -/

/-- Each entry of a submission stands for a column of an instance in it. -/
theorem exists_of_mem_wideEntries (hform : form.Legible options) {r : Record} {e : WideEntry}
    (h : e ∈ r.wideEntries book options (WideGroup.ofForm form options)) :
    ∃ key records i n, (key, .instances records) ∈ r ∧ KeyEscape.decode key ∈ form.repeats ∧
      records[n]? = some i ∧ ∃ rest t j q c, form.Leads (KeyEscape.decode key) i rest t j ∧
        form.Holds t q ∧ c ∈ form.wideKeys options q ∧
        e = ⟨t, Trail.spread ((KeyEscape.decode key, n + 1) :: rest) c,
          (level book options r.attachments j).shown c⟩ := by
  obtain ⟨⟨key, a⟩, hkey, he⟩ := List.mem_flatMap.1 h
  obtain ⟨-, -, records, rfl, i, n, hi, he⟩ := mem_wideEntriesAt.1 he
  cases hslots : WideGroup.slots? (WideGroup.ofForm form options) (KeyEscape.decode key) with
  | none =>
    -- instances under a key that is no repeated group are passed over
    rw [hslots] at he
    cases he
  | some slots =>
    obtain ⟨children, hopens, rfl⟩ := WideGroup.exists_opens_of_slots? hslots
    rw [hslots, Option.getD_some, hform.tags] at he
    obtain ⟨rest, t, j, q, c, hleads, hq, hc, rfl⟩ := exists_of_mem_entries hform hopens he
    exact ⟨key, records, i, n, hkey, hopens.mem_repeats, hi, rest, t, j, q, c, hleads, hq, hc, rfl⟩

/-- **The entries of a submission are those of the columns of its instances**, each with the trail
to the instance in the column's name and the cell of the instance as its text. -/
theorem mem_wideEntries (book : Codebook) (hform : form.Spreads options) {r : Record}
    (hr : r.Tabular form) {e : WideEntry} :
    e ∈ r.wideEntries book options (WideGroup.ofForm form options) ↔
      ∃ trail : Trail, trail ≠ [] ∧ ∃ t j q key, form.Leads form.name r trail t j ∧ form.Holds t q ∧
        key ∈ form.wideKeys options q ∧
        e = ⟨t, trail.spread key, (level book options r.attachments j).shown key⟩ := by
  constructor
  · intro he
    obtain ⟨key, records, i, n, hkey, hx, hi, rest, t, j, q, c, hleads, hq, hc, rfl⟩ :=
      exists_of_mem_wideEntries hform.toLegible he
    exact ⟨_, List.cons_ne_nil _ rest, t, j, q, c,
      .into hkey rfl (hr.placed key records hkey hx) hi hleads, hq, hc, rfl⟩
  · rintro ⟨trail, htrail, t, j, q, c, hleads, hq, hc, rfl⟩
    cases hleads with
    | here => exact absurd rfl htrail
    | @into _ x _ key _ i _ records n rest hkey hdecode hencloses hn hleads =>
      subst hdecode
      obtain ⟨children, hopens⟩ := hencloses.exists_opens
      obtain ⟨hne, hne'⟩ := hform.ne_of_mem_repeats hencloses.mem_repeats
      have hinside := hr.apart.inside hkey rfl hencloses (List.mem_of_getElem? hn)
      refine List.mem_flatMap.2
        ⟨_, hkey, mem_wideEntriesAt.2 ⟨hne, hne', records, rfl, i, n, hn, ?_⟩⟩
      rw [WideGroup.slots?_ofForm hform.repeats_nodup hopens, Option.getD_some, hform.tags]
      exact (mem_entries_of_opens hform.toLegible hopens hinside).2
        ⟨rest, t, j, q, c, hleads, hq, hc, rfl⟩

variable {r r' : Record} {e e' : WideEntry}

/-- The column of an entry has a bracket. -/
theorem bracket_mem_column (hform : form.Legible options)
    (h : e ∈ r.wideEntries book options (WideGroup.ofForm form options)) :
    '[' ∈ e.column.toList := by
  obtain ⟨key, records, i, n, -, -, -, rest, t, j, q, c, -, -, -, rfl⟩ :=
    exists_of_mem_wideEntries hform h
  have hmem := Trail.mem_spread (List.cons_ne_nil (KeyEscape.decode key, n + 1) rest) c
  exact hmem

/-- **The repeated group of an entry is read off its column**, whatever submissions the entries are
of. -/
theorem owner_eq_of_column_eq (hform : form.Legible options)
    (h : e ∈ r.wideEntries book options (WideGroup.ofForm form options))
    (h' : e' ∈ r'.wideEntries book options (WideGroup.ofForm form options))
    (hcolumn : e.column = e'.column) : e.owner = e'.owner := by
  obtain ⟨key, records, i, n, -, hx, -, rest, t, j, q, c, hleads, hq, hc, rfl⟩ :=
    exists_of_mem_wideEntries hform h
  obtain ⟨key', records', i', n', -, hx', -, rest', t', j', q', c', hleads', hq', hc', rfl⟩ :=
    exists_of_mem_wideEntries hform h'
  have hdescends := hleads.descends_into hform hx hq hc n
  have hdescends' := hleads'.descends_into hform hx' hq' hc' n'
  obtain ⟨htrail, -⟩ := Trail.spread_inj hdescends hdescends' hcolumn
  obtain ⟨hstep, rfl⟩ := List.cons.inj htrail
  rw [← (Prod.mk.inj hstep).1] at hleads'
  exact hleads.section_unique hleads'

end Record

end SurveyExport
