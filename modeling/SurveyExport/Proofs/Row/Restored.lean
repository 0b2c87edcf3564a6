import SurveyExport.Proofs.Codebook.Check
import SurveyExport.Proofs.Codebook.Columns
import SurveyExport.Proofs.Row.Frame
import SurveyExport.Proofs.Submission.Stored
import SurveyExport.Row.Normal

/-!
# Stored keys are restored

The first step of a row's normal form moves cells from stored keys back to the xpaths that its
section lists. `Row.restoreKeys_stored` says that this undoes storing: the row of a stored record
becomes the row of the record itself.

The section lists the xpaths that the store refuses in declared order, and two of them may have the
same stored key, if one of them has a mark. Then the cell goes to the xpath that is listed first,
and that must be the one it was stored under (`Section.RestoresUnmarked`).
-/

namespace SurveyExport

namespace Row

/-- A list of xpaths with stored keys, by which the cells of a row can be restored. -/
structure RestoredBy (row : Row) (listed : List (String × String)) : Prop where
  /-- Every listed xpath is refused, and is listed with its encoded form. -/
  encoded : ∀ e ∈ listed, KeyEscape.isRefused e.1 ∧ e.2 = KeyEscape.encode e.1
  /-- A listed xpath with a cell is the first with its stored key. -/
  first : listed.Pairwise fun e e' ↦ row.get? e'.1 ≠ none → e.2 ≠ e'.2
  /-- No stored key has a cell. -/
  free : ∀ e ∈ listed, row.get? e.2 = none

/-- While the cells of `row` are restored, `current` differs from it only in those that are still to
be moved to their listed xpaths. -/
structure Restoring (row : Row) (listed : List (String × String)) (current : Row) : Prop where
  /-- What is not to be moved is as in the row. -/
  settled : ∀ k, (∀ e ∈ listed, row.get? e.1 ≠ none → k ≠ e.1 ∧ k ≠ e.2) →
    current.get? k = row.get? k
  /-- What is to be moved is under its stored key. -/
  pending : ∀ e ∈ listed, row.get? e.1 ≠ none →
    current.get? e.1 = none ∧ current.get? e.2 = row.get? e.1

section Restoring

variable {row current : Row} {e : String × String} {listed rest : List (String × String)}

theorem RestoredBy.tail (h : row.RestoredBy (e :: rest)) : row.RestoredBy rest where
  encoded e' he' := h.encoded e' (List.mem_cons_of_mem _ he')
  first := (List.pairwise_cons.1 h.first).2
  free e' he' := h.free e' (List.mem_cons_of_mem _ he')

/-- A stored key is no listed xpath, since it is not refused. -/
theorem RestoredBy.ne (h : row.RestoredBy listed) {e e' : String × String} (he : e ∈ listed)
    (he' : e' ∈ listed) : e.2 ≠ e'.1 := by
  intro heq
  have hrefused := (h.encoded e' he').1
  rw [← heq, (h.encoded e he).2, KeyEscape.isRefused_encode] at hrefused
  cases hrefused

/-- A listed xpath without a cell changes nothing. -/
theorem Restoring.restoreKey_eq_self (hrow : row.RestoredBy (e :: rest))
    (h : row.Restoring (e :: rest) current) (hnone : row.get? e.1 = none) :
    restoreKey current e = current := by
  -- the stored key is not that of a pending cell either
  have hstored : current.get? e.2 = none := by
    rw [h.settled e.2 fun e' he' hcell ↦ ⟨hrow.ne List.mem_cons_self he', ?_⟩]
    · exact hrow.free e List.mem_cons_self
    · rcases List.mem_cons.1 he' with rfl | he'
      · exact absurd hnone hcell
      · exact (List.pairwise_cons.1 hrow.first).1 e' he' hcell
  simp only [restoreKey, hstored]
  split <;> rfl

/-- The cell of a listed xpath is moved there. -/
theorem Restoring.restoreKey_eq (h : row.Restoring (e :: rest) current) {c : Cell}
    (hcell : row.get? e.1 = some c) :
    restoreKey current e = (current.erase e.2).insert e.1 c := by
  obtain ⟨hnone, hstored⟩ := h.pending e List.mem_cons_self (by simp [hcell])
  simp [restoreKey, KeyMap.contains, hnone, hstored, hcell]

/-- One step of restoring. -/
theorem Restoring.step (hrow : row.RestoredBy (e :: rest))
    (h : row.Restoring (e :: rest) current) : row.Restoring rest (restoreKey current e) := by
  have hmem : ∀ e' ∈ rest, e' ∈ e :: rest := fun e' he' ↦ List.mem_cons_of_mem _ he'
  cases hcell : row.get? e.1 with
  | none =>
    rw [h.restoreKey_eq_self hrow hcell]
    refine ⟨fun k hk ↦ h.settled k fun e' he' hcell' ↦ ?_, fun e' he' ↦ h.pending e' (hmem e' he')⟩
    rcases List.mem_cons.1 he' with rfl | he'
    · exact absurd hcell hcell'
    · exact hk e' he' hcell'
  | some c =>
    rw [h.restoreKey_eq hcell]
    refine ⟨fun k hk ↦ ?_, fun e' he' hcell' ↦ ?_⟩
    · rw [KeyMap.get?_insert, KeyMap.get?_erase]
      by_cases hxpath : e.1 = k
      · rw [if_pos hxpath, ← hxpath, hcell]
      · rw [if_neg hxpath]
        by_cases hstored : e.2 = k
        · rw [if_pos hstored, ← hstored, hrow.free e List.mem_cons_self]
        · rw [if_neg hstored]
          refine h.settled k fun e' he' hcell' ↦ ?_
          rcases List.mem_cons.1 he' with rfl | he'
          · exact ⟨Ne.symm hxpath, Ne.symm hstored⟩
          · exact hk e' he' hcell'
    · -- another pending cell stays where it is
      obtain ⟨hnone, hget⟩ := h.pending e' (hmem e' he') hcell'
      have hdiffer : e.2 ≠ e'.2 := (List.pairwise_cons.1 hrow.first).1 e' he' hcell'
      have hxpath : e.1 ≠ e'.1 := fun heq ↦ hdiffer (by
        rw [(hrow.encoded e List.mem_cons_self).2, (hrow.encoded e' (hmem e' he')).2, heq])
      have hcross : e.1 ≠ e'.2 := (hrow.ne (hmem e' he') List.mem_cons_self).symm
      simp [hxpath, hcross, hdiffer, hnone, hget]

/-- Restoring ends with the row. -/
theorem Restoring.restoreKeys_eq (hrow : row.RestoredBy listed)
    (h : row.Restoring listed current) : restoreKeys listed current = row := by
  induction listed generalizing current with
  | nil => exact KeyMap.ext_get? fun k ↦ h.settled k (by simp)
  | cons e rest ih =>
    rw [restoreKeys, List.foldl_cons]
    exact ih hrow.tail (h.step hrow)

end Restoring

end Row

namespace Section

/-- Of the xpaths that a section lists, one without marks is the first with its stored key. -/
def RestoresUnmarked (s : Section) : Prop :=
  s.storedKeys.Pairwise fun e e' ↦ KeyEscape.Unmarked e'.1 → e.2 ≠ e'.2

/-- Distinct stored keys lead back to the xpaths they are listed with. -/
theorem restoresUnmarked_of_nodup {s : Section} (h : (s.storedKeys.map (·.2)).Nodup) :
    s.RestoresUnmarked := by
  refine (List.pairwise_map.1 h).imp ?_
  exact fun hne _ ↦ hne

variable {form : Form} {options : Options} {name : String} {questions : List Question}

/-- The xpaths that are listed are refused, and are listed with their encoded form. -/
theorem isRefused_of_mem_storedKeys {e : String × String}
    (h : e ∈ (ofQuestions form options name questions).storedKeys) :
    KeyEscape.isRefused e.1 ∧ e.2 = KeyEscape.encode e.1 := by
  obtain ⟨q, -, hcond, rfl⟩ := mem_storedKeys_iff.1 h
  exact ⟨(Bool.and_eq_true_iff.1 hcond).2, rfl⟩

/-- The refused xpath of a question that is no note is listed. -/
theorem mem_storedKeys {q : Question} (hq : q ∈ questions) (hnote : q.type.isNote = false)
    (hrefused : KeyEscape.isRefused q.xpath) :
    (q.xpath, KeyEscape.encode q.xpath) ∈
      (ofQuestions form options name questions).storedKeys :=
  mem_storedKeys_iff.2 ⟨q, hq, by simp [hnote, hrefused], rfl⟩

end Section

namespace Row

variable {form : Form} {options : Options} {name : String} {row stored : Row}

/-- What a section lists restores the cells of a row without marked keys. -/
theorem restoredBy_storedKeys (hunmarked : ∀ k, row.get? k ≠ none → KeyEscape.Unmarked k)
    (hsection : (Codebook.sectionNamed form options name).RestoresUnmarked) :
    row.RestoredBy (Codebook.sectionNamed form options name).storedKeys where
  encoded _ he := Section.isRefused_of_mem_storedKeys he
  first := hsection.imp fun h hcell ↦ h (hunmarked _ hcell)
  free e he := by
    by_contra hcell
    obtain ⟨hrefused, hencode⟩ := Section.isRefused_of_mem_storedKeys he
    exact KeyEscape.not_unmarked_encode hrefused (hencode ▸ hunmarked e.2 hcell)

/-- A stored row is to be restored, if every refused key of the row is listed. -/
theorem restoring_stored {listed : List (String × String)} (hrow : StoredFrom row stored)
    (hunmarked : ∀ k, row.get? k ≠ none → KeyEscape.Unmarked k) (hlisted : row.RestoredBy listed)
    (hmem : ∀ k, row.get? k ≠ none → KeyEscape.isRefused k → (k, KeyEscape.encode k) ∈ listed) :
    row.Restoring listed stored := by
  refine ⟨fun k hsettled ↦ ?_, fun e he hcell ↦ ?_⟩
  · -- a refused key of the row would be pending, and so would its stored form
    refine Option.ext fun c ↦ ⟨fun hget ↦ ?_, fun hget ↦ ?_⟩
    · obtain ⟨k₀, rfl, hcell⟩ := hrow.exists_get? hget
      have hne : row.get? k₀ ≠ none := by simp [hcell]
      by_cases hrefused : KeyEscape.isRefused k₀
      · exact absurd (KeyEscape.store_of_isRefused hrefused)
          (hsettled _ (hmem k₀ hne hrefused) hne).2
      · rwa [KeyEscape.store_of_not_isRefused hrefused]
    · have hne : row.get? k ≠ none := by simp [hget]
      by_cases hrefused : KeyEscape.isRefused k
      · exact absurd rfl (hsettled _ (hmem k hne hrefused) hne).1
      · rw [← KeyEscape.store_of_not_isRefused hrefused, hrow.get?_store k (hunmarked k hne), hget]
  · obtain ⟨hrefused, hencode⟩ := hlisted.encoded e he
    constructor
    · by_contra hcell'
      obtain ⟨c, hc⟩ := Option.ne_none_iff_exists'.1 hcell'
      obtain ⟨k₀, hk₀, -⟩ := hrow.exists_get? hc
      rw [hk₀, KeyEscape.isRefused_store] at hrefused
      cases hrefused
    · rw [hencode, ← KeyEscape.store_of_isRefused hrefused,
        hrow.get?_store e.1 (hunmarked e.1 hcell)]

/-- **Restoring undoes storing**, if the section lists every refused key of the row. -/
theorem restoreKeys_stored (hrow : StoredFrom row stored)
    (hsection : (Codebook.sectionNamed form options name).RestoresUnmarked)
    (hkeys : ∀ k, row.get? k ≠ none → KeyEscape.isRefused k →
      ∃ q, form.Holds name q ∧ q.type.isNote = false ∧ q.xpath = k) :
    restoreKeys (Codebook.sectionNamed form options name).storedKeys stored =
      restoreKeys (Codebook.sectionNamed form options name).storedKeys row := by
  have hunmarked : ∀ k, row.get? k ≠ none → KeyEscape.Unmarked k := fun k hk ↦ by
    obtain ⟨c, hc⟩ := Option.ne_none_iff_exists'.1 hk
    exact hrow.unmarked k c hc
  have hlisted := restoredBy_storedKeys hunmarked hsection
  rw [restoreKeys_eq_self fun e he ↦ .inr (hlisted.free e he)]
  refine (restoring_stored hrow hunmarked hlisted fun k hk hrefused ↦ ?_).restoreKeys_eq hlisted
  obtain ⟨q, hq, hnote, rfl⟩ := hkeys k hk hrefused
  exact Section.mem_storedKeys (Codebook.mem_questionsOf.2 hq) hnote hrefused

/-- So a stored row and the row it was made from have the same normal form. -/
theorem normalize_stored (hrow : StoredFrom row stored)
    (hsection : (Codebook.sectionNamed form options name).RestoresUnmarked)
    (hkeys : ∀ k, row.get? k ≠ none → KeyEscape.isRefused k →
      ∃ q, form.Holds name q ∧ q.type.isNote = false ∧ q.xpath = k) (book : Codebook) :
    stored.normalize book options (Codebook.sectionNamed form options name) =
      row.normalize book options (Codebook.sectionNamed form options name) := by
  rw [normalize, normalize, typed, typed, answered, answered, parted, parted,
    restoreKeys_stored hrow hsection hkeys]

end Row

end SurveyExport
