import SurveyExport.Proofs.Linkage.Numbering

/-!
# Which links a row has

The links of a row are merged with the cells of its record, at the two levels in different order: a
submission's number and the mark that it has no parent are put over its cells, while the cells of an
instance are put over its links. So the links of a submission are always its own, and those of an
instance are the ones it was given by its visit, unless it holds an answer under the key of a link.

`Record.exists_linkedByVisits` says this of every record, at any depth and for all keys; what the
visits of a record are is pinned down as well: every instance is visited once, the instances of a
section are numbered on from its counter, and each names the record directly around it.

* `Record.get?_cells`: the cell that a record has under a key is that of the last answer there.
* `Visit.get?_row`: an answer of the instance comes before a link.
* `Visit.hasLinks_iff`: the links are those of the visit just if no answer says otherwise.
-/

namespace SurveyExport

namespace Record

variable (media : Option MediaRule) (files : List Attachment)

/-- The cell of the last answer under a key. -/
def lastCell? (k : String) (r : Record) : Option Cell :=
  r.reverse.findSome? fun e ↦ if e.1 = k then cell? media files e.1 e.2 else none

/-- The cell that a record has under a key is that of the last answer there. -/
theorem get?_cells (r : Record) (k : String) :
    (r.cells media files).get? k = r.lastCell? media files k := by
  induction r using List.reverseRecOn with
  | nil => rfl
  | append_singleton rest e ih =>
    have hstep : cells media files (rest ++ [e]) =
        putCell media files (cells media files rest) e := List.foldl_concat ..
    rw [hstep, lastCell?, List.reverse_concat, List.findSome?_cons, putCell]
    rw [lastCell?] at ih
    cases hcell : cell? media files e.1 e.2 with
    | none => simp [ih]
    | some c => by_cases hk : e.1 = k <;> simp [hk, ih]

end Record

/-- A row names its number, and the number and the section of the row around it. -/
structure Row.HasLinks (row : Row) (number : Nat) (parentNumber : Int) (parentSection : String) :
    Prop where
  index : row.get? MetaKey.index = some (.int number)
  parentIndex : row.get? MetaKey.parentIndex = some (.int parentNumber)
  parentTable : row.get? MetaKey.parentTable = some (.text parentSection)

namespace Visit

variable {media : Option MediaRule} {files : List Attachment} {v : Visit}

/-- The row of an instance has the cell of an answer, and only without one that of a link. -/
theorem get?_row (media : Option MediaRule) (files : List Attachment) (v : Visit) (k : String) :
    (v.row media files).get? k = (v.answers.lastCell? media files k <|>
      (Record.links v.number v.parentNumber v.parentSection).get? k) := by
  rw [row, KeyMap.get?_union, Record.get?_cells]

/-- The answers of the instance say nothing else than its links. -/
def RespectsLinks (media : Option MediaRule) (files : List Attachment) (v : Visit) : Prop :=
  ∀ k ∈ MetaKey.linkKeys, ∀ c, v.answers.lastCell? media files k = some c →
    (Record.links v.number v.parentNumber v.parentSection).get? k = some c

/-- The cells under the keys of links, from the links themselves. -/
theorem hasLinks_iff_forall {row : Row} {number : Nat} {parentNumber : Int}
    {parentSection : String} : row.HasLinks number parentNumber parentSection ↔
      ∀ k ∈ MetaKey.linkKeys,
        row.get? k = (Record.links number parentNumber parentSection).get? k := by
  have h₁ : MetaKey.parentIndex ≠ MetaKey.index := by decide
  have h₂ : MetaKey.parentTable ≠ MetaKey.index := by decide
  have h₃ : MetaKey.parentTable ≠ MetaKey.parentIndex := by decide
  simp only [MetaKey.linkKeys, List.forall_mem_cons, Record.get?_links, if_true, if_neg h₁,
    if_neg h₂, if_neg h₃]
  exact ⟨fun h ↦ ⟨h.index, h.parentIndex, h.parentTable, nofun⟩,
    fun ⟨h, h', h'', _⟩ ↦ ⟨h, h', h''⟩⟩

/-- **The row of an instance has the links of its visit** just if no answer says otherwise. -/
theorem hasLinks_iff : (v.row media files).HasLinks v.number v.parentNumber v.parentSection ↔
    v.RespectsLinks media files := by
  rw [hasLinks_iff_forall]
  refine forall₂_congr fun k _ ↦ ?_
  rw [get?_row]
  cases v.answers.lastCell? media files k with
  | none => exact iff_of_true rfl fun _ h ↦ absurd h (Option.some_ne_none _).symm
  | some c => simp [eq_comm]

end Visit

namespace Record

/-- **What linking makes of a record** that is number `index` of the section `name`: the rows of the
visits `vs`, and the row of the record itself. -/
structure LinkedByVisits (media : Option MediaRule) (name : String) (index : Int)
    (counters : Counters) (r : Record) (vs : List Visit) : Prop where
  /-- Every instance in the record is visited once, whatever its key is. -/
  covered : Covered r name (fun _ ↦ True) vs
  /-- The instances of a section are numbered on from its counter. -/
  numbers : ∀ s, (Visit.ofSection s vs).map (·.number) =
    List.range' (counters.count s + 1) (Visit.ofSection s vs).length
  /-- The counters go on by the number of instances. -/
  counts : ∀ s, (r.link media name index counters).2.count s =
    counters.count s + (Visit.ofSection s vs).length
  /-- An instance names the record directly around it. -/
  parent : ∀ v ∈ vs, HasParent name index vs v
  /-- The rows of a section are those of its visits, in order. -/
  rows : ∀ s, (r.link media name index counters).1.rowsOf s =
    (Visit.ofSection s vs).map (Visit.row media r.attachments)
  /-- A row has the links of its visit just if no answer of the instance says otherwise. -/
  links : ∀ v ∈ vs, (v.row media r.attachments).HasLinks v.number v.parentNumber v.parentSection ↔
    v.RespectsLinks media r.attachments
  /-- Otherwise it has the cell of that answer. -/
  answer : ∀ v ∈ vs, ∀ k ∈ MetaKey.linkKeys, ∀ c,
    v.answers.lastCell? media r.attachments k = some c →
      (v.row media r.attachments).get? k = some c
  /-- The row of the record itself has its number, whatever the record holds. -/
  ownIndex : (r.link media name index counters).1.own.get? MetaKey.index = some (.int index)
  /-- The row of the record itself names no parent, whatever the record holds. -/
  ownParent : (r.link media name index counters).1.own.get? MetaKey.parentIndex =
    some (.int (-1))

/-- **The links of rows**: those of a submission are always its own. Those of an instance, at any
depth, are its number, the number and the section of the record around it, just if the instance
holds no answer under one of these keys that says otherwise. -/
theorem exists_linkedByVisits (media : Option MediaRule) (name : String) (index : Int)
    (counters : Counters) (r : Record) : ∃ vs, LinkedByVisits media name index counters r vs := by
  have hnumbered := numbered_visitAnswers r name index 0 counters
  have hne : MetaKey.parentIndex ≠ MetaKey.index := by decide
  refine ⟨r.visits name index counters, covered_visits r name index counters,
    fun s ↦ (hnumbered s).1, fun s ↦ ?_, hasParent_visitAnswers r name index 0 counters,
    fun s ↦ rowsOf_link media name s index counters r, fun v _ ↦ Visit.hasLinks_iff,
    fun v _ k _ c hc ↦ ?_, ?_, ?_⟩
  · rw [link_counters]
    exact (hnumbered s).2
  · rw [Visit.get?_row, hc]
    rfl
  · simp [own_link, hne]
  · simp [own_link]

/-- A submission whose instance holds answers under the keys of its links. -/
def forgedRecord : Record := [
  ("_index", .scalar (.int 9)),
  ("kids", .instances [
    [("_index", .scalar (.int 99)), ("_parent_table_name", .scalar (.text "forged"))]])]

example : (forgedRecord.link none "visit" 1 KeyMap.empty).1.own.get? MetaKey.index =
    some (.int 1) := rfl

example : ((forgedRecord.link none "visit" 1 KeyMap.empty).1.rowsOf "kids").map
    (·.get? MetaKey.index) = [some (.int 99)] := rfl

end Record

end SurveyExport
