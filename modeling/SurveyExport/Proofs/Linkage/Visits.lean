import SurveyExport.Linkage
import SurveyExport.Proofs.KeyMap
import SurveyExport.Proofs.Submission.Places

/-!
# The visits of a record

Linking builds a map from sections to rows and merges it at every level of a record. What it does is
easier to say as a flat list: `Record.visits` goes through the instances in the order in which they
are met, each before the instances inside it, and gives each the next number of its section.

`Record.rowsOf_linkAnswers` ties the two together: under every section, linking puts the rows of the
visits of that section, in the order of visit, behind the rows that are there. Everything else about
the rows of instances is a fact about visits.
-/

namespace SurveyExport

/-! ### Links -/

/-- The keys that link the row of an instance to the row around it. -/
def MetaKey.linkKeys : List String := [index, parentIndex, parentTable]

namespace Record

theorem get?_links (number : Nat) (parentIndex : Int) (parentTable k : String) :
    (links number parentIndex parentTable).get? k =
      if k = MetaKey.index then some (.int number)
      else if k = MetaKey.parentIndex then some (.int parentIndex)
      else if k = MetaKey.parentTable then some (.text parentTable)
      else none := by
  have hlinks : links number parentIndex parentTable =
      ((KeyMap.empty.insert MetaKey.index (.int number)).insert MetaKey.parentIndex
        (.int parentIndex)).insert MetaKey.parentTable (.text parentTable) := rfl
  have h₁ : MetaKey.index ≠ MetaKey.parentIndex := by decide
  have h₂ : MetaKey.index ≠ MetaKey.parentTable := by decide
  have h₃ : MetaKey.parentIndex ≠ MetaKey.parentTable := by decide
  rw [hlinks, KeyMap.get?_insert, KeyMap.get?_insert, KeyMap.get?_insert, KeyMap.get?_empty]
  by_cases hk : k = MetaKey.index
  · subst hk
    simp [h₁.symm, h₂.symm]
  · by_cases hk' : k = MetaKey.parentIndex
    · subst hk'
      simp [h₁.symm, h₃.symm]
    · simp only [eq_comm (b := k), hk, hk', if_false]

end Record

/-! ### Visits -/

/-- An instance that is visited. -/
structure Visit where
  /-- The place of the instance in the record that the visit began with. -/
  place : Place
  sectionName : String
  /-- The number of the instance among those of its section. -/
  number : Nat
  /-- The section of the record around the instance. -/
  parentSection : String
  /-- The number of the record around the instance. -/
  parentNumber : Int
  answers : Record

namespace Visit

/-- The visit, seen from the record around the one it was made in. -/
def under (step : Nat × Nat) (v : Visit) : Visit := { v with place := step :: v.place }

@[simp] theorem place_under (step : Nat × Nat) (v : Visit) :
    (v.under step).place = step :: v.place := rfl

@[simp] theorem sectionName_under (step : Nat × Nat) (v : Visit) :
    (v.under step).sectionName = v.sectionName := rfl

@[simp] theorem number_under (step : Nat × Nat) (v : Visit) :
    (v.under step).number = v.number := rfl

@[simp] theorem parentSection_under (step : Nat × Nat) (v : Visit) :
    (v.under step).parentSection = v.parentSection := rfl

@[simp] theorem parentNumber_under (step : Nat × Nat) (v : Visit) :
    (v.under step).parentNumber = v.parentNumber := rfl

@[simp] theorem answers_under (step : Nat × Nat) (v : Visit) :
    (v.under step).answers = v.answers := rfl

end Visit

namespace Record

/-! ### The cells of a record's own answers -/

/-- The row with the cell of an answer, if it has one. -/
def putCell (media : Option MediaRule) (files : List Attachment) (row : Row)
    (e : String × Answer) : Row :=
  match cell? media files e.1 e.2 with
  | some c => row.insert e.1 c
  | none => row

/-- The cells of a record's answers, without those of the instances inside. -/
def cells (media : Option MediaRule) (files : List Attachment) (r : Record) : Row :=
  r.foldl (putCell media files) KeyMap.empty

/-- A cell of a record is that of one of its answers. -/
theorem exists_mem_of_get?_cells {media : Option MediaRule} {files : List Attachment} {r : Record}
    {k : String} {c : Cell} (h : (r.cells media files).get? k = some c) :
    ∃ a, (k, a) ∈ r ∧ cell? media files k a = some c := by
  have hfold : ∀ row : Row, (r.foldl (putCell media files) row).get? k = some c →
      row.get? k = some c ∨ ∃ a, (k, a) ∈ r ∧ cell? media files k a = some c := by
    clear h
    induction r with
    | nil => exact fun _ h ↦ .inl h
    | cons e rest ih =>
      intro row hget
      rcases ih _ hget with hrow | ⟨a, ha, hcell⟩
      · simp only [putCell] at hrow
        split at hrow
        · rename_i c' hc'
          rw [KeyMap.get?_insert] at hrow
          split at hrow
          · rename_i hk
            subst hk
            exact .inr ⟨e.2, List.mem_cons_self, hc'.trans hrow⟩
          · exact .inl hrow
        · exact .inl hrow
      · exact .inr ⟨a, List.mem_cons_of_mem _ ha, hcell⟩
  rcases hfold _ h with h | h
  · simp at h
  · exact h

/-! ### Visiting -/

mutual

/-- The visits of an answer at a position of a record, and the counters after them. The record is
number `index` of the section `name`. -/
def visitAnswer (name : String) (index : Int) (pos : Nat) (key : String) :
    Answer → Counters → List Visit × Counters
  | .instances records, counters =>
    visitInstances name index pos (KeyEscape.decode key) 0 records counters
  | _, counters => ([], counters)

/-- The visits of the answers of a record from a position on. -/
def visitAnswers (name : String) (index : Int) (pos : Nat) :
    List (String × Answer) → Counters → List Visit × Counters
  | [], counters => ([], counters)
  | (key, answer) :: rest, counters =>
    let first := visitAnswer name index pos key answer counters
    let others := visitAnswers name index (pos + 1) rest first.2
    (first.1 ++ others.1, others.2)

/-- The visits of the instances of the section `child`, from the instance number `n` of an answer
on. -/
def visitInstances (name : String) (index : Int) (pos : Nat) (child : String) (n : Nat) :
    List (List (String × Answer)) → Counters → List Visit × Counters
  | [], counters => ([], counters)
  | record :: rest, counters =>
    let counters := counters.next child
    let number := counters.count child
    let inner := visitAnswers child number 0 record counters
    let others := visitInstances name index pos child (n + 1) rest inner.2
    (⟨[(pos, n)], child, number, name, index, record⟩ ::
      (inner.1.map (Visit.under (pos, n)) ++ others.1), others.2)

end

/-- The visits of a record that is number `index` of the section `name`. -/
def visits (name : String) (index : Int) (r : Record) (counters : Counters) : List Visit :=
  (visitAnswers name index 0 r counters).1

/-- An answer that is no list of instances is not visited. -/
theorem visitAnswers_cons_of_ne {name : String} {index : Int} {pos : Nat} {key : String}
    {answer : Answer} {rest : Record} {counters : Counters}
    (h : ∀ records, answer ≠ .instances records) :
    visitAnswers name index pos ((key, answer) :: rest) counters =
      visitAnswers name index (pos + 1) rest counters := by
  cases answer with
  | instances records => exact absurd rfl (h records)
  | _ => simp [visitAnswers, visitAnswer]

/-! ### The rows of the visits -/

end Record

namespace LinkedRows

/-- The rows of a section. -/
def rowsOf (l : LinkedRows) (s : String) : List Row := (l.repeats.get? s).getD []

/-- Rows that are added to a section stand behind those that are there. -/
theorem getD_get?_addRows (repeats : KeyMap (List Row)) (name s : String) (rows : List Row) :
    ((addRows repeats name rows).get? s).getD [] =
      (repeats.get? s).getD [] ++ if name = s then rows else [] := by
  rw [addRows, KeyMap.get?_insert]
  split
  · rename_i hs
    simp [hs]
  · simp

/-- Adding the rows of an instance adds its own row to its section and then the rows inside it. -/
theorem rowsOf_addInstance (l inner : LinkedRows) (name s : String) :
    (l.addInstance name inner).rowsOf s =
      l.rowsOf s ++ (if name = s then [inner.own] else []) ++ inner.rowsOf s := by
  -- each section of the instance is met once, so its rows are put behind those that were there
  have hfold : ∀ (entries : List (String × List Row)) (m : KeyMap (List Row)),
      (entries.map (·.1)).Nodup →
      (((entries.foldl (fun m e ↦ addRows m e.1 e.2) m).get? s).getD []) =
        (m.get? s).getD [] ++ (Entries.lookup s entries).getD [] := by
    intro entries
    induction entries with
    | nil => exact fun m _ ↦ by simp [Entries.lookup]
    | cons e rest ih =>
      intro m hnd
      obtain ⟨hnew, hrest⟩ := List.nodup_cons.1 hnd
      rw [List.foldl_cons, ih _ hrest, getD_get?_addRows, Entries.lookup]
      split
      · rename_i hs
        have hnone : Entries.lookup s rest = none := KeyMap.lookup_eq_none_iff.2 (hs ▸ hnew)
        simp [hnone]
      · simp
  rw [rowsOf, addInstance, KeyMap.toList, hfold _ _ inner.repeats.nodup_keys, getD_get?_addRows]
  rfl

end LinkedRows

/-- The row of a visit: the cells of the instance's own answers over the links to the row around. -/
def Visit.row (media : Option MediaRule) (files : List Attachment) (v : Visit) : Row :=
  (Record.links v.number v.parentNumber v.parentSection).union (v.answers.cells media files)

@[simp] theorem Visit.row_under (media : Option MediaRule) (files : List Attachment)
    (step : Nat × Nat) (v : Visit) : (v.under step).row media files = v.row media files := rfl

/-- The visits of a section. -/
def Visit.ofSection (s : String) (vs : List Visit) : List Visit := vs.filter (·.sectionName = s)

namespace Visit

@[simp] theorem ofSection_nil (s : String) : ofSection s [] = [] := rfl

@[simp] theorem ofSection_append (s : String) (vs ws : List Visit) :
    ofSection s (vs ++ ws) = ofSection s vs ++ ofSection s ws :=
  List.filter_append _ _

theorem ofSection_cons (s : String) (v : Visit) (vs : List Visit) :
    ofSection s (v :: vs) = (if v.sectionName = s then [v] else []) ++ ofSection s vs := by
  rw [ofSection, List.filter_cons]
  split <;> simp_all [ofSection]

@[simp] theorem ofSection_map_under (s : String) (step : Nat × Nat) (vs : List Visit) :
    ofSection s (vs.map (under step)) = (ofSection s vs).map (under step) := by
  rw [ofSection, List.filter_map]
  rfl

end Visit

namespace Record

variable (media : Option MediaRule) (files : List Attachment)

/-- What linking the answers of a record does, said by visits. -/
def LinksAsVisited (r : Record) : Prop :=
  ∀ (name : String) (index : Int) (pos : Nat) (rows : LinkedRows) (counters : Counters),
    let linked := linkAnswers media files name index r rows counters
    let visited := visitAnswers name index pos r counters
    linked.2 = visited.2 ∧ linked.1.own = r.foldl (putCell media files) rows.own ∧
      ∀ s, linked.1.rowsOf s =
        rows.rowsOf s ++ (Visit.ofSection s visited.1).map (Visit.row media files)

variable {media files}

/-- The same for the instances of an answer, if it holds for each of them. -/
theorem linkInstances_eq {records : List Record} (h : ∀ i ∈ records, LinksAsVisited media files i)
    (name : String) (index : Int) (pos : Nat) (child : String) (n : Nat) (rows : LinkedRows)
    (counters : Counters) :
    let linked := linkInstances media files name index child records rows counters
    let visited := visitInstances name index pos child n records counters
    linked.2 = visited.2 ∧ linked.1.own = rows.own ∧
      ∀ s, linked.1.rowsOf s =
        rows.rowsOf s ++ (Visit.ofSection s visited.1).map (Visit.row media files) := by
  induction records generalizing n rows counters with
  | nil => simp [linkInstances, visitInstances]
  | cons r rest ih =>
    obtain ⟨hcounters, hown, hrows⟩ :=
      h r List.mem_cons_self child ((counters.next child).count child) 0 {} (counters.next child)
    simp only [linkInstances, visitInstances]
    rw [hcounters]
    -- the other instances go on from the rows and counters that this one leaves
    obtain ⟨hcounters', hown', hrows'⟩ := ih (fun i hi ↦ h i (List.mem_cons_of_mem _ hi)) (n + 1)
      (rows.addInstance child
        { (linkAnswers media files child ((counters.next child).count child) r {}
            (counters.next child)).1 with
          own := (links ((counters.next child).count child) index name).union
            (linkAnswers media files child ((counters.next child).count child) r {}
              (counters.next child)).1.own })
      (visitAnswers child ((counters.next child).count child) 0 r (counters.next child)).2
    refine ⟨hcounters', hown', fun s ↦ ?_⟩
    rw [hrows' s, LinkedRows.rowsOf_addInstance]
    have hinner := hrows s
    simp only [LinkedRows.rowsOf, KeyMap.get?_empty] at hinner ⊢
    rw [hinner, hown, Visit.ofSection_cons, Visit.ofSection_append, Visit.ofSection_map_under]
    simp only [List.map_append, List.map_map, Option.getD_none, List.nil_append, List.append_assoc]
    congr 2
    split <;> rfl

/-- **Linking puts the rows of the visits under their sections**, in the order of visit. -/
theorem linkAnswers_eq (r : Record) : LinksAsVisited media files r := by
  induction r using Record.induction with
  | nil =>
    intro name index pos rows counters
    simp [linkAnswers, visitAnswers]
  | instances key records rest ihi ihr =>
    intro name index pos rows counters
    obtain ⟨hc, hown, hrows⟩ := linkInstances_eq ihi name index pos (KeyEscape.decode key) 0 rows
      counters
    simp only [linkAnswers, linkAnswer, visitAnswers, visitAnswer]
    rw [hc]
    obtain ⟨hc', hown', hrows'⟩ := ihr name index (pos + 1)
      (linkInstances media files name index (KeyEscape.decode key) records rows counters).1
      (visitInstances name index pos (KeyEscape.decode key) 0 records counters).2
    refine ⟨hc', ?_, fun s ↦ ?_⟩
    · rw [hown', hown]
      rfl
    · rw [hrows' s, hrows s, Visit.ofSection_append, List.map_append, List.append_assoc]
  | answer key a rest hne ih =>
    intro name index pos rows counters
    rw [visitAnswers_cons_of_ne hne, linkAnswers]
    have hlink : linkAnswer media files name index key a rows counters =
        ({ rows with own := putCell media files rows.own (key, a) }, counters) := by
      cases a with
      | instances records => exact absurd rfl (hne records)
      | _ => simp only [linkAnswer, putCell]; split <;> simp_all only
    rw [hlink]
    exact ih name index (pos + 1) _ counters

/-- The rows of a section after linking a record are those of its visits. -/
theorem rowsOf_linkAnswers (r : Record) (name s : String) (index : Int) (counters : Counters) :
    (linkAnswers media files name index r {} counters).1.rowsOf s =
      (Visit.ofSection s (r.visits name index counters)).map (Visit.row media files) := by
  rw [(linkAnswers_eq r name index 0 {} counters).2.2 s]
  simp [LinkedRows.rowsOf, visits]

/-- The own row after linking a record holds the cells of its answers. -/
theorem own_linkAnswers (r : Record) (name : String) (index : Int) (counters : Counters) :
    (linkAnswers media files name index r {} counters).1.own = r.cells media files :=
  (linkAnswers_eq r name index 0 {} counters).2.1

/-! ### The rows of a submission -/

/-- Linking a submission advances the counters as visiting it does. -/
theorem link_counters (media : Option MediaRule) (name : String) (index : Int)
    (counters : Counters) (r : Record) :
    (r.link media name index counters).2 = (visitAnswers name index 0 r counters).2 :=
  (linkAnswers_eq r name index 0 {} counters).1

/-- The row of a submission holds its answers under its own number, and it has no parent. -/
theorem own_link (media : Option MediaRule) (name : String) (index : Int) (counters : Counters)
    (r : Record) : (r.link media name index counters).1.own =
      ((r.cells media r.attachments).insert MetaKey.index (.int index)).insert
        MetaKey.parentIndex (.int (-1)) := by
  rw [← own_linkAnswers r name index counters]
  rfl

/-- The other rows of a submission are those of its visits. -/
theorem rowsOf_link (media : Option MediaRule) (name s : String) (index : Int)
    (counters : Counters) (r : Record) : (r.link media name index counters).1.rowsOf s =
      (Visit.ofSection s (r.visits name index counters)).map (Visit.row media r.attachments) :=
  rowsOf_linkAnswers r name s index counters

end Record

end SurveyExport
