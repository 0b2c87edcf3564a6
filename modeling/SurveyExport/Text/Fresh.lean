/-!
# Names that are not taken

A name that clashes with an earlier one is replaced by the first of its numbered variants that is
free. The search is bounded; it succeeds if any variant within the bound is free. Names are given
one after the other, each with regard to those before it.
-/

namespace SurveyExport.Text

/--
The first free variant from number `i` on. After `bound` variants that are taken the next one is
given without a test.
-/
def firstFree (taken : String → Bool) (variant : Nat → String) : (bound i : Nat) → String
  | 0, i => variant i
  | bound + 1, i =>
    if taken (variant i) then firstFree taken variant bound (i + 1) else variant i

/--
The variants of a name with a greatest number of characters: the name, and then the name with a
number, for which the end of the name makes room.
-/
def numbered (limit : Nat) (base : List Char) (i : Nat) : String :=
  if i = 0 then String.ofList base
  else
    let digits := (toString i).toList
    String.ofList (base.take (limit - digits.length) ++ digits)

/-- Names given one after the other, each with regard to those before it. -/
def giveEach (give : List String → String → String) (taken : List String) :
    List String → List String
  | [] => []
  | s :: rest =>
    let name := give taken s
    name :: giveEach give (taken ++ [name]) rest

/-- Each text is given a name. -/
@[simp] theorem length_giveEach (give : List String → String → String) (taken ss : List String) :
    (giveEach give taken ss).length = ss.length := by
  induction ss generalizing taken with
  | nil => rfl
  | cons s rest ih => simp [giveEach, ih]

/-- What is found is a variant within the bound, and all variants before it are taken. -/
theorem exists_variant_of_firstFree (taken : String → Bool) (variant : Nat → String)
    (bound i : Nat) : ∃ j, i ≤ j ∧ j ≤ i + bound ∧ firstFree taken variant bound i = variant j ∧
      ∀ l, i ≤ l → l < j → taken (variant l) = true := by
  induction bound generalizing i with
  | zero => exact ⟨i, Nat.le_refl i, Nat.le_refl i, rfl, fun l hl hlt ↦ by omega⟩
  | succ bound ih =>
    simp only [firstFree]
    split
    · rename_i htaken
      obtain ⟨j, hij, hj, hfound, hbefore⟩ := ih (i + 1)
      refine ⟨j, by omega, by omega, hfound, fun l hil hlj ↦ ?_⟩
      rcases Nat.eq_or_lt_of_le hil with rfl | hil
      · exact htaken
      · exact hbefore l hil hlj
    · exact ⟨i, Nat.le_refl i, by omega, rfl, fun l hl hlt ↦ by omega⟩

/-- A free variant within the bound makes the search find a free one. -/
theorem taken_firstFree {taken : String → Bool} {variant : Nat → String} {bound i j : Nat}
    (hij : i ≤ j) (hj : j ≤ i + bound) (hfree : taken (variant j) = false) :
    taken (firstFree taken variant bound i) = false := by
  induction bound generalizing i with
  | zero =>
    obtain rfl : i = j := by omega
    exact hfree
  | succ bound ih =>
    simp only [firstFree]
    split
    · rename_i htaken
      have hne : i ≠ j := by
        rintro rfl
        simp [hfree] at htaken
      exact ih (by omega) (by omega)
    · rename_i hfree'
      simpa using hfree'

end SurveyExport.Text
