/-!
# Lists of entries

The fields of an object and the answers of a submission are lists of keys with values, in the
order written. A key is looked up from the front, and putting a value keeps the place of a key
that is already there.
-/

namespace SurveyExport.Entries

variable {α : Type}

/-- The value that a list of entries gives to a key: that of the first entry with it. -/
def lookup (k : String) : List (String × α) → Option α
  | [] => none
  | (k', v) :: rest => if k' = k then some v else lookup k rest

/-- Gives a key a value: in place if the key is there, else at the end. -/
def put (k : String) (v : α) : List (String × α) → List (String × α)
  | [] => [(k, v)]
  | (k', v') :: rest => if k' = k then (k, v) :: rest else (k', v') :: put k v rest

/-- Putting a value does not touch the values of other keys. -/
theorem lookup_put (k k' : String) (v : α) (entries : List (String × α)) :
    lookup k' (put k v entries) = if k = k' then some v else lookup k' entries := by
  induction entries with
  | nil => simp [put, lookup]
  | cons head rest ih =>
    obtain ⟨a, b⟩ := head
    simp only [put]
    split
    · rename_i hak
      subst hak
      simp only [lookup]
      split <;> simp_all
    · rename_i hak
      simp only [lookup, ih]
      rcases Classical.em (a = k') with rfl | hak'
      · simp [Ne.symm hak]
      · simp [hak']

/-- The keys after putting a value: the old ones, and the new one at the end if it was missing. -/
theorem map_fst_put (k : String) (v : α) (entries : List (String × α)) :
    (put k v entries).map (·.1) =
      if k ∈ entries.map (·.1) then entries.map (·.1) else entries.map (·.1) ++ [k] := by
  induction entries with
  | nil => simp [put]
  | cons head rest ih =>
    obtain ⟨a, b⟩ := head
    simp only [put]
    split
    · rename_i hak
      simp [hak]
    · rename_i hak
      have hka : k ≠ a := Ne.symm hak
      simp only [List.map_cons, ih, List.mem_cons, hka, false_or]
      split <;> simp

end SurveyExport.Entries
