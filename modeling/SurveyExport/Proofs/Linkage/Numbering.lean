import SurveyExport.Proofs.Linkage.Visits

/-!
# What is visited, and under which numbers

Three facts about the visits of a record, on which the linkage of an export rests:

* `Record.covered_visits`: the visits go to all places of instances in the record, to each once, and
  find there the section and the answers that the place has.
* `Record.numbered_visitAnswers`: the visits of a section are numbered on from its counter, without
  gaps.
* `Record.hasParent_visitAnswers`: a visit names the section and the number of the instance around
  it, which is visited before, or those of the record itself.
-/

namespace SurveyExport

namespace Counters

@[simp] theorem count_next (c : Counters) (name s : String) :
    (c.next name).count s = c.count s + if name = s then 1 else 0 := by
  rw [count, next, KeyMap.get?_insert]
  split
  · rename_i hs
    simp [count, hs]
  · simp [count]

@[simp] theorem count_empty (s : String) : count KeyMap.empty s = 0 := rfl

end Counters

namespace Record

/-! ### Places -/

/-- The visits are those of the places of `r` whose first step satisfies `P`, each made once. -/
structure Covered (r : Record) (name : String) (P : Nat × Nat → Prop) (vs : List Visit) : Prop where
  /-- A visit finds what is at its place. -/
  sound : ∀ v ∈ vs, ∃ step rest, v.place = step :: rest ∧ P step ∧
    r.at? name v.place = some (v.sectionName, v.answers)
  /-- Every place is visited. -/
  complete : ∀ step rest c, P step → r.at? name (step :: rest) = some c →
    ∃ v ∈ vs, v.place = step :: rest
  /-- No place is visited twice. -/
  nodup : (vs.map (·.place)).Nodup

variable {r : Record} {name : String} {P Q : Nat × Nat → Prop} {vs ws : List Visit}

theorem Covered.congr (h : Covered r name P vs) (hPQ : ∀ step, P step ↔ Q step) :
    Covered r name Q vs := by
  obtain rfl : P = Q := funext fun step ↦ propext (hPQ step)
  exact h

/-- Visits of places that differ in their first step can be put together. -/
theorem Covered.append (hv : Covered r name P vs) (hw : Covered r name Q ws)
    (hPQ : ∀ step, P step → ¬ Q step) :
    Covered r name (fun step ↦ P step ∨ Q step) (vs ++ ws) := by
  refine ⟨fun v h ↦ ?_, fun step rest c hstep hc ↦ ?_, ?_⟩
  · rcases List.mem_append.1 h with h | h
    · obtain ⟨step, rest, hplace, hP, hat⟩ := hv.sound v h
      exact ⟨step, rest, hplace, .inl hP, hat⟩
    · obtain ⟨step, rest, hplace, hQ, hat⟩ := hw.sound v h
      exact ⟨step, rest, hplace, .inr hQ, hat⟩
  · rcases hstep with hP | hQ
    · obtain ⟨v, h, hplace⟩ := hv.complete step rest c hP hc
      exact ⟨v, List.mem_append_left _ h, hplace⟩
    · obtain ⟨v, h, hplace⟩ := hw.complete step rest c hQ hc
      exact ⟨v, List.mem_append_right _ h, hplace⟩
  · -- a place in both parts would begin with a step of both kinds
    rw [List.map_append]
    refine hv.nodup.append hw.nodup fun p hp hp' ↦ ?_
    obtain ⟨v, h, rfl⟩ := List.mem_map.1 hp
    obtain ⟨w, h', hvw⟩ := List.mem_map.1 hp'
    obtain ⟨step, rest, hplace, hP, -⟩ := hv.sound v h
    obtain ⟨step', rest', hplace', hQ, -⟩ := hw.sound w h'
    rw [hplace, hplace'] at hvw
    obtain rfl := (List.cons.inj hvw).1
    exact hPQ _ hP hQ

/-- Where no step leads anywhere, nothing is to be visited. -/
theorem Covered.nil (h : ∀ step, P step → r.child? step = none) : Covered r name P [] := by
  refine ⟨by simp, fun step rest c hstep hc ↦ ?_, by simp⟩
  rw [at?_cons, h step hstep] at hc
  cases hc

/-- The visits of an instance are its own and, seen from outside, those inside it. -/
theorem Covered.child {step : Nat × Nat} {child : String} {i : Record} {number : Nat} {index : Int}
    (hchild : r.child? step = some (child, i)) (h : Covered i child (fun _ ↦ True) vs) :
    Covered r name (· = step)
      (⟨[step], child, number, name, index, i⟩ :: vs.map (Visit.under step)) := by
  refine ⟨fun v hv ↦ ?_, fun step' rest c hstep hc ↦ ?_, ?_⟩
  · rcases List.mem_cons.1 hv with rfl | hv
    · exact ⟨step, [], rfl, rfl, by rw [at?_cons, hchild]; rfl⟩
    · obtain ⟨u, hu, rfl⟩ := List.mem_map.1 hv
      obtain ⟨-, -, -, -, hat⟩ := h.sound u hu
      exact ⟨step, u.place, rfl, rfl, by rw [Visit.place_under, at?_cons, hchild]; exact hat⟩
  · obtain rfl := hstep
    rw [at?_cons, hchild] at hc
    cases rest with
    | nil => exact ⟨_, List.mem_cons_self, rfl⟩
    | cons step' rest =>
      obtain ⟨u, hu, hplace⟩ := h.complete step' rest c trivial hc
      exact ⟨u.under _, List.mem_cons_of_mem _ (List.mem_map_of_mem hu), by simp [hplace]⟩
  · rw [List.map_cons, List.nodup_cons, List.map_map]
    constructor
    · -- the places inside are longer than that of the instance itself
      intro hmem
      obtain ⟨u, hu, hplace⟩ := List.mem_map.1 hmem
      obtain ⟨step', rest, hu', -⟩ := h.sound u hu
      simp [hu'] at hplace
    · have := h.nodup.map fun p p' (heq : step :: p = step :: p') ↦ (List.cons.inj heq).2
      rwa [List.map_map] at this

/-- The instances of an answer from one on are visited, if the visits inside each cover it. -/
theorem covered_visitInstances {pos : Nat} {key : String} {all : List Record}
    (hpos : r[pos]? = some (key, .instances all)) {records : List Record}
    (hin : ∀ i ∈ records, ∀ name index counters,
      Covered i name (fun _ ↦ True) (visits name index i counters))
    {n : Nat} (hn : all.drop n = records) (index : Int) (counters : Counters) :
    Covered r name (fun step ↦ step.1 = pos ∧ n ≤ step.2)
      (visitInstances name index pos (KeyEscape.decode key) n records counters).1 := by
  induction records generalizing n counters with
  | nil =>
    refine .nil fun step ⟨hstep, hle⟩ ↦ ?_
    have hnone : all[step.2]? = none :=
      List.getElem?_eq_none (Nat.le_trans (List.drop_eq_nil_iff.1 hn) hle)
    simp [child?, hstep, hpos, hnone]
  | cons i rest ih =>
    have hget : all[n]? = some i := by rw [← List.head?_drop, hn]; rfl
    have hrest : all.drop (n + 1) = rest := by rw [← List.tail_drop, hn]; rfl
    have hchild : r.child? (pos, n) = some (KeyEscape.decode key, i) :=
      child?_eq_some_iff.2 ⟨key, all, hpos, hget, rfl⟩
    simp only [visitInstances]
    rw [← List.cons_append]
    refine ((Covered.child hchild (hin i List.mem_cons_self _ _ _)).append
      (ih (fun j hj ↦ hin j (List.mem_cons_of_mem _ hj)) hrest _) ?_).congr ?_
    · rintro step rfl ⟨-, hle⟩
      exact absurd hle (by simp)
    · rintro ⟨a, b⟩
      simp only [Prod.mk.injEq]
      omega

/-- The answers of a record from a position on are visited. -/
theorem covered_visitAnswers (rest : Record) : ∀ (r : Record) (name : String) (index : Int)
    (pos : Nat) (counters : Counters), r.drop pos = rest →
    Covered r name (fun step ↦ pos ≤ step.1) (visitAnswers name index pos rest counters).1 := by
  induction rest using Record.induction with
  | nil =>
    intro r name index pos counters hpos
    refine .nil fun step hstep ↦ ?_
    have hnone : r[step.1]? = none :=
      List.getElem?_eq_none (Nat.le_trans (List.drop_eq_nil_iff.1 hpos) hstep)
    simp [child?, hnone]
  | instances key records rest ihi ihr =>
    intro r name index pos counters hpos
    have hget : r[pos]? = some (key, .instances records) := by rw [← List.head?_drop, hpos]; rfl
    have hrest : r.drop (pos + 1) = rest := by rw [← List.tail_drop, hpos]; rfl
    have hin : ∀ i ∈ records, ∀ name index counters,
        Covered i name (fun _ ↦ True) (visits name index i counters) := fun i hi name index c ↦
      (ihi i hi i name index 0 c rfl).congr fun step ↦ by simp
    simp only [visitAnswers, visitAnswer]
    refine ((covered_visitInstances hget hin (n := 0) rfl index counters).append
      (ihr r name index (pos + 1) _ hrest) ?_).congr ?_
    · rintro step ⟨hstep, -⟩ hle
      omega
    · rintro ⟨a, b⟩
      simp only [Nat.zero_le, and_true]
      omega
  | answer key a rest hne ih =>
    intro r name index pos counters hpos
    have hget : r[pos]? = some (key, a) := by rw [← List.head?_drop, hpos]; rfl
    have hrest : r.drop (pos + 1) = rest := by rw [← List.tail_drop, hpos]; rfl
    rw [visitAnswers_cons_of_ne hne]
    -- no step leads into an answer that holds no instances
    have hnone : Covered r name (fun step ↦ step.1 = pos) [] := by
      refine .nil fun step hstep ↦ ?_
      simp only [child?, hstep, hget]
      cases a with
      | instances records => exact absurd rfl (hne records)
      | _ => rfl
    refine (hnone.append (ih r name index (pos + 1) counters hrest) ?_).congr ?_
    · rintro step hstep hle
      omega
    · rintro ⟨a, b⟩
      simp only
      omega

/-- **Every instance of a record is visited once**, with its section and its answers. -/
theorem covered_visits (r : Record) (name : String) (index : Int) (counters : Counters) :
    Covered r name (fun _ ↦ True) (r.visits name index counters) :=
  (covered_visitAnswers r r name index 0 counters rfl).congr fun step ↦ by simp

/-! ### Numbers -/

/-- The visits of each section are numbered on from its counter, which counts them. -/
def Numbered (counters : Counters) (visited : List Visit × Counters) : Prop :=
  ∀ s, (Visit.ofSection s visited.1).map (·.number) =
      List.range' (counters.count s + 1) (Visit.ofSection s visited.1).length ∧
    visited.2.count s = counters.count s + (Visit.ofSection s visited.1).length

theorem Numbered.append {counters : Counters} {first others : List Visit × Counters}
    (h : Numbered counters first) (h' : Numbered first.2 others) :
    Numbered counters (first.1 ++ others.1, others.2) := by
  intro s
  obtain ⟨hn, hc⟩ := h s
  obtain ⟨hn', hc'⟩ := h' s
  rw [Visit.ofSection_append, List.map_append, hn, hn', hc, List.length_append]
  refine ⟨?_, by simp only; omega⟩
  rw [← List.range'_append, Nat.one_mul]
  congr 2
  omega

/-- The visits inside the first instance of an answer, after its own, and those of the others. -/
theorem Numbered.cons {counters : Counters} {step : Nat × Nat} {child name : String} {index : Int}
    {i : Record} {inner : List Visit × Counters} (h : Numbered (counters.next child) inner) :
    Numbered counters
      (⟨[step], child, (counters.next child).count child, name, index, i⟩ ::
        inner.1.map (Visit.under step), inner.2) := by
  intro s
  obtain ⟨hn, hc⟩ := h s
  rw [Counters.count_next] at hn hc
  simp only [Visit.ofSection_cons, Visit.ofSection_map_under, List.map_append, List.map_map,
    List.length_append, List.length_map, hc]
  have hmap : (Visit.ofSection s inner.1).map ((·.number) ∘ Visit.under step) =
      (Visit.ofSection s inner.1).map (·.number) := rfl
  rw [hmap, hn]
  -- only in the instance's own section is there one visit more
  by_cases hs : child = s
  · subst hs
    simp only [Counters.count_next, if_true, List.map_cons, List.map_nil, List.length_cons,
      List.length_nil, Nat.zero_add, List.singleton_append]
    rw [Nat.add_comm 1, List.range'_succ]
    exact ⟨rfl, by omega⟩
  · simp [hs]

theorem numbered_visitInstances {records : List Record}
    (hin : ∀ i ∈ records, ∀ name index pos counters,
      Numbered counters (visitAnswers name index pos i counters))
    (name : String) (index : Int) (pos : Nat) (child : String) (n : Nat) (counters : Counters) :
    Numbered counters (visitInstances name index pos child n records counters) := by
  induction records generalizing n counters with
  | nil => exact fun s ↦ by simp [visitInstances]
  | cons i rest ih =>
    simp only [visitInstances]
    rw [← List.cons_append]
    exact (Numbered.cons (hin i List.mem_cons_self _ _ _ _)).append
      (ih (fun j hj ↦ hin j (List.mem_cons_of_mem _ hj)) (n + 1) _)

/-- **The visits of each section are numbered consecutively**, on from its counter. -/
theorem numbered_visitAnswers (r : Record) : ∀ (name : String) (index : Int) (pos : Nat)
    (counters : Counters), Numbered counters (visitAnswers name index pos r counters) := by
  induction r using Record.induction with
  | nil => exact fun name index pos counters s ↦ by simp [visitAnswers]
  | instances key records rest ihi ihr =>
    intro name index pos counters
    simp only [visitAnswers, visitAnswer]
    exact (numbered_visitInstances ihi name index pos _ 0 counters).append
      (ihr name index (pos + 1) _)
  | answer key a rest hne ih =>
    intro name index pos counters
    rw [visitAnswers_cons_of_ne hne]
    exact ih name index (pos + 1) counters

/-! ### Parents -/

/-- A visit names the record `index` of the section `name`, or an instance that is visited. -/
def HasParent (name : String) (index : Int) (vs : List Visit) (v : Visit) : Prop :=
  (∃ step, v.place = [step] ∧ v.parentSection = name ∧ v.parentNumber = index) ∨
    ∃ u ∈ vs, ∃ step, v.place = u.place ++ [step] ∧ v.parentSection = u.sectionName ∧
      v.parentNumber = u.number

theorem HasParent.mono {index : Int} {v : Visit} (h : HasParent name index vs v) (hsub : vs ⊆ ws) :
    HasParent name index ws v :=
  h.imp_right fun ⟨u, hu, h⟩ ↦ ⟨u, hsub hu, h⟩

theorem hasParent_visitInstances {records : List Record}
    (hin : ∀ i ∈ records, ∀ name index pos counters,
      ∀ v ∈ (visitAnswers name index pos i counters).1,
        HasParent name index (visitAnswers name index pos i counters).1 v)
    (name : String) (index : Int) (pos : Nat) (child : String) (n : Nat) (counters : Counters) :
    ∀ v ∈ (visitInstances name index pos child n records counters).1,
      HasParent name index (visitInstances name index pos child n records counters).1 v := by
  induction records generalizing n counters with
  | nil => simp [visitInstances]
  | cons i rest ih =>
    simp only [visitInstances]
    intro v hv
    rcases List.mem_cons.1 hv with rfl | hv
    · exact .inl ⟨_, rfl, rfl, rfl⟩
    · rcases List.mem_append.1 hv with hv | hv
      · obtain ⟨u, hu, rfl⟩ := List.mem_map.1 hv
        -- a visit directly inside the instance names that instance, which stands at the front
        rcases hin i List.mem_cons_self _ _ _ _ u hu with ⟨step, hplace, hs, hn⟩ |
          ⟨w, hw, step, hplace, hs, hn⟩
        · exact .inr ⟨_, List.mem_cons_self, step, by simp [hplace], hs, hn⟩
        · refine .inr ⟨w.under (pos, n), ?_, step, by simp [hplace], hs, hn⟩
          exact List.mem_cons_of_mem _ (List.mem_append_left _ (List.mem_map_of_mem hw))
      · refine (ih (fun j hj ↦ hin j (List.mem_cons_of_mem _ hj)) (n + 1) _ v hv).mono ?_
        exact List.Subset.trans (List.subset_append_right _ _) (List.subset_cons_self _ _)

/-- **A visit names the instance around it**, or else the record that the visits began with. -/
theorem hasParent_visitAnswers (r : Record) : ∀ (name : String) (index : Int) (pos : Nat)
    (counters : Counters), ∀ v ∈ (visitAnswers name index pos r counters).1,
      HasParent name index (visitAnswers name index pos r counters).1 v := by
  induction r using Record.induction with
  | nil => simp [visitAnswers]
  | instances key records rest ihi ihr =>
    intro name index pos counters v hv
    simp only [visitAnswers, visitAnswer] at hv ⊢
    rcases List.mem_append.1 hv with hv | hv
    · exact (hasParent_visitInstances ihi name index pos _ 0 counters v hv).mono
        (List.subset_append_left _ _)
    · exact (ihr name index (pos + 1) _ v hv).mono (List.subset_append_right _ _)
  | answer key a rest hne ih =>
    intro name index pos counters
    rw [visitAnswers_cons_of_ne hne]
    exact ih name index (pos + 1) counters

end Record

end SurveyExport
