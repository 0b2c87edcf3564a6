import Mathlib.Algebra.BigOperators.Group.Finset.Basic
import Mathlib.Algebra.Order.Ring.Nat
import SurveyExport.Proofs.Linkage.Links
import SurveyExport.Proofs.Submission.Nesting

/-!
# The order and the number of linked rows

The rows of a section stand in preorder: the row of an instance comes before those of the instances
inside it, and these before the rows of what follows in the record. In terms of places this is the
lexicographic order (`Place.Before`), and the visits of a record are made in it
(`Record.pairwise_visitAnswers`).

`Record.exists_preorderRows` puts this together with the numbers of the visits: every instance has
one row, in preorder under its section, and the rows of a section count on from its counter. The
count can be read off the rows if no instance holds an answer under the key of the count, since such
an answer is put over it.
-/

namespace SurveyExport

/-- What lies around an instance comes before it, and of two places that part at a step the one
with the earlier answer, or with the earlier instance of the same answer. -/
def Place.Before : Place → Place → Prop := List.Lex (Prod.Lex (· < ·) (· < ·))

namespace Record

/-! ### The order of the visits -/

/-- The visits of an answer go to its instances from one on. -/
theorem exists_place_of_mem_visitInstances {name child : String} {index : Int} {pos n : Nat}
    {records : List Record} {counters : Counters} {v : Visit}
    (h : v ∈ (visitInstances name index pos child n records counters).1) :
    ∃ m rest, v.place = (pos, m) :: rest ∧ n ≤ m := by
  induction records generalizing n counters with
  | nil => cases h
  | cons i others ih =>
    simp only [visitInstances] at h
    rcases List.mem_cons.1 h with rfl | h
    · exact ⟨n, [], rfl, Nat.le_refl n⟩
    · rcases List.mem_append.1 h with h | h
      · obtain ⟨u, -, rfl⟩ := List.mem_map.1 h
        exact ⟨n, u.place, rfl, Nat.le_refl n⟩
      · obtain ⟨m, rest, hplace, hm⟩ := ih h
        exact ⟨m, rest, hplace, Nat.le_of_succ_le hm⟩

/-- The visits of a record go into its answers from a position on. -/
theorem exists_place_of_mem_visitAnswers {r : Record} {name : String} {index : Int} {pos : Nat}
    {counters : Counters} {v : Visit} (h : v ∈ (visitAnswers name index pos r counters).1) :
    ∃ step rest, v.place = step :: rest ∧ pos ≤ step.1 := by
  induction r using Record.induction generalizing pos counters with
  | nil => cases h
  | instances key records rest _ ihr =>
    simp only [visitAnswers, visitAnswer] at h
    rcases List.mem_append.1 h with h | h
    · obtain ⟨m, inner, hplace, -⟩ := exists_place_of_mem_visitInstances h
      exact ⟨(pos, m), inner, hplace, Nat.le_refl pos⟩
    · obtain ⟨step, inner, hplace, hpos⟩ := ihr h
      exact ⟨step, inner, hplace, Nat.le_of_succ_le hpos⟩
  | answer key a rest hne ih =>
    rw [visitAnswers_cons_of_ne hne] at h
    obtain ⟨step, inner, hplace, hpos⟩ := ih h
    exact ⟨step, inner, hplace, Nat.le_of_succ_le hpos⟩

/-- The instances of an answer are visited in preorder, if those inside each of them are. -/
theorem pairwise_visitInstances {records : List Record}
    (hin : ∀ i ∈ records, ∀ name index pos counters,
      (visitAnswers name index pos i counters).1.Pairwise fun v w ↦ v.place.Before w.place)
    (name : String) (index : Int) (pos : Nat) (child : String) (n : Nat) (counters : Counters) :
    (visitInstances name index pos child n records counters).1.Pairwise
      fun v w ↦ v.place.Before w.place := by
  induction records generalizing n counters with
  | nil => exact .nil
  | cons i others ih =>
    simp only [visitInstances]
    -- what follows parts from this instance and from what is inside it at the first step
    have hafter : ∀ {rest : Place} {w : Visit} {counters' : Counters},
        w ∈ (visitInstances name index pos child (n + 1) others counters').1 →
        Place.Before ((pos, n) :: rest) w.place := by
      intro rest w counters' hw
      obtain ⟨m, rest', hplace, hm⟩ := exists_place_of_mem_visitInstances hw
      rw [hplace]
      exact .rel (.right _ hm)
    refine List.pairwise_cons.2 ⟨fun w hw ↦ ?_, List.pairwise_append.2 ⟨?_, ?_, ?_⟩⟩
    · rcases List.mem_append.1 hw with hw | hw
      · obtain ⟨u, hu, rfl⟩ := List.mem_map.1 hw
        obtain ⟨step, rest, hplace, -⟩ := exists_place_of_mem_visitAnswers hu
        rw [Visit.place_under, hplace]
        exact .cons .nil
      · exact hafter hw
    · exact List.pairwise_map.2 ((hin i List.mem_cons_self _ _ _ _).imp fun h ↦ .cons h)
    · exact ih (fun j hj ↦ hin j (List.mem_cons_of_mem _ hj)) (n + 1) _
    · intro v hv w hw
      obtain ⟨u, -, rfl⟩ := List.mem_map.1 hv
      exact hafter hw

/-- **The instances of a record are visited in preorder.** -/
theorem pairwise_visitAnswers (r : Record) : ∀ (name : String) (index : Int) (pos : Nat)
    (counters : Counters), (visitAnswers name index pos r counters).1.Pairwise
      fun v w ↦ v.place.Before w.place := by
  induction r using Record.induction with
  | nil => exact fun _ _ _ _ ↦ .nil
  | instances key records rest ihi ihr =>
    intro name index pos counters
    simp only [visitAnswers, visitAnswer]
    refine List.pairwise_append.2
      ⟨pairwise_visitInstances ihi name index pos _ 0 counters, ihr name index (pos + 1) _, ?_⟩
    intro v hv w hw
    obtain ⟨m, inner, hplace, -⟩ := exists_place_of_mem_visitInstances hv
    obtain ⟨step, inner', hplace', hpos⟩ := exists_place_of_mem_visitAnswers hw
    rw [hplace, hplace']
    exact .rel (.left _ _ hpos)
  | answer key a rest hne ih =>
    intro name index pos counters
    rw [visitAnswers_cons_of_ne hne]
    exact ih name index (pos + 1) counters

end Record

/-! ### The number of rows -/

/-- The members of a list are counted one value after the other. -/
theorem sum_count_of_nodup {α : Type} [DecidableEq α] {values l : List α} (hnodup : values.Nodup)
    (h : ∀ x ∈ l, x ∈ values) : (values.map fun x ↦ l.count x).sum = l.length := by
  have hsum : ∑ x ∈ ⟨values, Multiset.coe_nodup.2 hnodup⟩, (l : Multiset α).count x =
      (l : Multiset α).card := Multiset.sum_count_eq_card h
  rw [Finset.sum_eq_multiset_sum, Multiset.map_coe, Multiset.sum_coe] at hsum
  simpa only [Multiset.coe_count, Multiset.coe_card] using hsum

theorem Visit.length_ofSection (s : String) (vs : List Visit) :
    (Visit.ofSection s vs).length = (vs.map (·.sectionName)).count s := by
  rw [ofSection, ← List.countP_eq_length_filter, List.count, List.countP_map]
  rfl

namespace LinkedRows

/-- The number of rows, counted section by section. -/
theorem rowCount_eq (l : LinkedRows) :
    l.rowCount = 1 + (l.repeats.keys.map fun s ↦ (l.rowsOf s).length).sum := by
  rw [rowCount, List.length_flatten, KeyMap.values, KeyMap.keys, List.map_map, List.map_map]
  refine congrArg (1 + List.sum ·) (List.map_congr_left fun e he ↦ ?_)
  rw [Function.comp_apply, Function.comp_apply, rowsOf, KeyMap.get?_eq_some_iff.2 he]
  rfl

end LinkedRows

namespace Record

/-- There is a row for the submission and one for each visit. -/
theorem rowCount_link (media : Option MediaRule) (name : String) (index : Int)
    (counters : Counters) (r : Record) :
    (r.link media name index counters).1.rowCount =
      1 + (r.visits name index counters).length := by
  have hlength : ∀ s, ((r.link media name index counters).1.rowsOf s).length =
      (Visit.ofSection s (r.visits name index counters)).length := fun s ↦ by
    rw [rowsOf_link, List.length_map]
  simp only [LinkedRows.rowCount_eq, hlength, Visit.length_ofSection]
  rw [sum_count_of_nodup (KeyMap.nodup_keys _), List.length_map]
  intro s hs
  obtain ⟨v, hv, rfl⟩ := List.mem_map.1 hs
  -- the section of a visit has a row, so it is a key
  rw [KeyMap.mem_keys_iff]
  cases hget : (r.link media name index counters).1.repeats.get? v.sectionName with
  | some rows => exact ⟨rows, rfl⟩
  | none =>
    have hnil := hlength v.sectionName
    rw [LinkedRows.rowsOf, hget] at hnil
    have hmem : v ∈ Visit.ofSection v.sectionName (r.visits name index counters) :=
      List.mem_filter.2 ⟨hv, decide_eq_true rfl⟩
    exact absurd (List.length_pos_of_mem hmem) (by simp [← hnil])

/-! ### The rows of a submission -/

/-- **The rows of a submission** that is number `index` of the section `name`, in the order of the
visits `vs`. -/
structure PreorderRows (media : Option MediaRule) (name : String) (index : Int)
    (counters : Counters) (r : Record) (vs : List Visit) : Prop where
  /-- Every instance in the record is visited once, at its place and with the section that its key
  stands for. -/
  covered : Covered r name (fun _ ↦ True) vs
  /-- The visits are made in preorder. -/
  preorder : vs.Pairwise fun v w ↦ v.place.Before w.place
  /-- The rows of a section are those of its visits, in order. -/
  rows : ∀ s, (r.link media name index counters).1.rowsOf s =
    (Visit.ofSection s vs).map (Visit.row media r.attachments)
  /-- The rows of a section are counted on from its counter. -/
  indices : ∀ s, ((r.link media name index counters).1.rowsOf s).map (·.get? MetaKey.index) =
    (List.range' (counters.count s + 1) (Visit.ofSection s vs).length).map
      fun number ↦ some (.int number)
  /-- The counter of a section goes on by the number of its instances. -/
  counts : ∀ s, (r.link media name index counters).2.count s =
    counters.count s + (Visit.ofSection s vs).length
  /-- A counter of another name stays. -/
  others : ∀ s, (∀ v ∈ vs, v.sectionName ≠ s) →
    (r.link media name index counters).2.count s = counters.count s
  /-- There is one more row than there are instances. -/
  rowCount : (r.link media name index counters).1.rowCount = 1 + vs.length

/-- **Linking counts the instances of each section in preorder and loses none**, in every record in
which no instance holds an answer under the key of the count. -/
theorem exists_preorderRows (media : Option MediaRule) (name : String) (index : Int)
    (counters : Counters) (r : Record)
    (h : r.EveryChild (fun _ c ↦ MetaKey.index ∉ c.2.map (·.1)) name) :
    ∃ vs, PreorderRows media name index counters r vs := by
  have hcovered := covered_visits r name index counters
  have hnumbered := numbered_visitAnswers r name index 0 counters
  have hnumbers : ∀ s, (Visit.ofSection s (r.visits name index counters)).map (·.number) =
      List.range' (counters.count s + 1)
        (Visit.ofSection s (r.visits name index counters)).length := fun s ↦ (hnumbered s).1
  have hcounts : ∀ s, (r.link media name index counters).2.count s =
      counters.count s + (Visit.ofSection s (r.visits name index counters)).length := fun s ↦ by
    rw [link_counters]
    exact (hnumbered s).2
  have hindex : ∀ v ∈ r.visits name index counters,
      (v.row media r.attachments).get? MetaKey.index = some (.int v.number) := by
    intro v hv
    obtain ⟨step, rest, hplace, -, hat⟩ := hcovered.sound v hv
    obtain ⟨-, hfree⟩ := h.of_ne_nil (hplace ▸ List.cons_ne_nil _ _) hat
    have hnone : v.answers.lastCell? media r.attachments MetaKey.index = none := by
      rw [← get?_cells, ← Option.not_isSome_iff_eq_none, Option.isSome_iff_exists]
      rintro ⟨c, hc⟩
      obtain ⟨a, ha, -⟩ := exists_mem_of_get?_cells hc
      exact hfree (List.mem_map_of_mem ha)
    rw [Visit.get?_row, hnone, get?_links, if_pos rfl]
    rfl
  refine ⟨r.visits name index counters, hcovered, pairwise_visitAnswers r name index 0 counters,
    fun s ↦ rowsOf_link media name s index counters r, fun s ↦ ?_, hcounts, fun s hs ↦ ?_,
    rowCount_link media name index counters r⟩
  · -- the numbers of the visits, each written into its row
    rw [rowsOf_link, ← hnumbers s, List.map_map, List.map_map]
    exact List.map_congr_left fun v hv ↦ hindex v (List.mem_filter.1 hv).1
  · have hnone : Visit.ofSection s (r.visits name index counters) = [] :=
      List.filter_eq_nil_iff.2 fun v hv ↦ by simpa using hs v hv
    rw [hcounts, hnone, List.length_nil, Nat.add_zero]

/-- A submission in which instances of `kids` stand at three depths, also inside each other and
inside those of a group whose key is stored with a mark. -/
def kinRecord : Record := [
  ("aLg==b", .instances [[("kids", .instances [[("kids", .instances [[]])]])], []]),
  ("kids", .instances [[("name", .scalar (.text "Ada"))]])]

/-- Three instances of `kids` are counted on from four. -/
theorem exists_preorderRows_kinRecord :
    kinRecord.EveryChild (fun _ c ↦ MetaKey.index ∉ c.2.map (·.1)) "visit" ∧
      ∃ vs, PreorderRows none "visit" 3 (KeyMap.ofList [("kids", 4)]) kinRecord vs := by
  have hfree : kinRecord.EveryChild (fun _ c ↦ MetaKey.index ∉ c.2.map (·.1)) "visit" := by
    simp only [kinRecord, everyChild_cons_instances, everyChild_cons_scalar, everyChild_nil,
      List.forall_mem_cons, List.not_mem_nil, false_implies, implies_true]
    decide
  exact ⟨hfree, exists_preorderRows none "visit" 3 (KeyMap.ofList [("kids", 4)]) kinRecord hfree⟩

example : ((kinRecord.link none "visit" 3 (KeyMap.ofList [("kids", 4)])).1.rowsOf "kids").map
    (·.get? MetaKey.index) = [some (.int 5), some (.int 6), some (.int 7)] := rfl

end Record

end SurveyExport
