import SurveyExport.Proofs.Row.Answers
import SurveyExport.Proofs.Row.Frame

/-!
# Where a row has values

A cell that is not null is a value. The steps that come after splitting, labelling, taking the types
of columns, reading the time of submission and replacing references, change what cells hold, but not
which of them are null. So a row in normal form has values under the same keys as it has after
splitting (`Row.isNullAt?_normalize`).
-/

namespace SurveyExport

/-! ### Cells -/

namespace Cell

theorem isNull_of_ofText?_eq_some {type : BindType} {s : String} {c : Cell}
    (h : ofText? type s = some c) : c.isNull = false := by
  unfold ofText? at h
  split at h
  · obtain ⟨n, -, rfl⟩ := Option.map_eq_some_iff.1 h
    rfl
  · obtain ⟨x, -, rfl⟩ := Option.map_eq_some_iff.1 h
    rfl
  · obtain ⟨d, -, rfl⟩ := Option.map_eq_some_iff.1 h
    rfl
  · cases h

/-- A cell is null in its column's type just if it was before. -/
theorem isNull_coerce (type : BindType) (c : Cell) : (c.coerce type).isNull = c.isNull := by
  cases htype : type.isConverted with
  | false => rw [coerce_eq_self htype]
  | true =>
    cases c with
    | text s =>
      simp only [coerce, htype, if_true]
      cases hread : ofText? type s with
      | none => rfl
      | some c => exact isNull_of_ofText?_eq_some hread
    | float x =>
      simp only [coerce, htype, if_true]
      split <;> rfl
    | int n =>
      simp only [coerce, htype, if_true]
      split <;> rfl
    | _ => simp only [coerce, htype, if_true]

theorem isNull_coerceSubmissionTime (c : Cell) : c.coerceSubmissionTime.isNull = c.isNull := by
  cases c with
  | text s =>
    rw [coerceSubmissionTime]
    cases readSubmissionTime? s <;> rfl
  | _ => rfl

end Cell

namespace Row

variable {row row' : Row} {k x : String}

/-- Whether the cell under a key is null, if there is one. -/
def isNullAt? (row : Row) (k : String) : Option Bool := (row.get? k).map Cell.isNull

/-- A row has a value under a key: a cell that is not null. -/
def HasValue (row : Row) (k : String) : Prop := row.isNullAt? k = some false

instance (row : Row) (k : String) : Decidable (row.HasValue k) :=
  inferInstanceAs (Decidable (row.isNullAt? k = some false))

theorem hasValue_iff : row.HasValue k ↔ ∃ c, row.get? k = some c ∧ c.isNull = false :=
  Option.map_eq_some_iff

theorem isNull_substituteCell (row : Row) (c : Cell) :
    (substituteCell row c).isNull = c.isNull := by
  cases c <;> rfl

theorem isNull_labelledCell (labelOf : String → Option String) (c : Cell) :
    (labelledCell labelOf c).isNull = c.isNull := by
  rw [labelledCell]
  split
  · rfl
  · rename_i hblank
    cases hnull : c.isNull with
    | true => exact absurd (Cell.isBlank_of_isNull hnull) hblank
    | false => rfl

/-- A step that changes the cell under one key leaves it null if it was so, and no value becomes
null. -/
theorem isNullAt?_congr {cellOf : Cell → Cell} (hcell : ∀ c, (cellOf c).isNull = c.isNull)
    (hself : row'.get? x = (row.get? x).map cellOf) (hother : k ≠ x → row'.get? k = row.get? k) :
    row'.isNullAt? k = row.isNullAt? k := by
  rw [isNullAt?, isNullAt?]
  by_cases hk : k = x
  · rw [hk, hself, Option.map_map]
    exact congrArg (fun f ↦ (row.get? x).map f) (funext hcell)
  · rw [hother hk]

theorem isNullAt?_labelOne (labelOf : String → String → Option String) :
    (labelOne labelOf row x).isNullAt? k = row.isNullAt? k :=
  isNullAt?_congr (isNull_labelledCell _) get?_labelOne_self get?_labelOne

theorem isNullAt?_coerceColumn {column : Column} :
    (coerceColumn row column).isNullAt? k = row.isNullAt? k := by
  refine isNullAt?_congr (fun c ↦ ?_) (get?_coerceColumn_self row column) get?_coerceColumn
  split
  · rfl
  · exact Cell.isNull_coerce _ _

theorem isNullAt?_coerceTime : (coerceTime row).isNullAt? k = row.isNullAt? k :=
  isNullAt?_congr Cell.isNull_coerceSubmissionTime (get?_coerceTime_self row) get?_coerceTime

theorem isNullAt?_substitute : row.substitute.isNullAt? k = row.isNullAt? k :=
  isNullAt?_congr (isNull_substituteCell row) (get?_substitute row k) fun h ↦ absurd rfl h

theorem isNullAt?_foldl {α : Type} {step : Row → α → Row}
    (h : ∀ row : Row, ∀ y, (step row y).isNullAt? k = row.isNullAt? k) (items : List α)
    (row : Row) : (items.foldl step row).isNullAt? k = row.isNullAt? k := by
  induction items generalizing row with
  | nil => rfl
  | cons y rest ih => exact (ih (step row y)).trans (h row y)

/-- **After splitting no value is lost or added**: what is done to a cell then leaves null null, and
values values. -/
theorem isNullAt?_normalize (book : Codebook) (options : Options) (s : Section) (row : Row)
    (k : String) :
    (row.normalize book options s).isNullAt? k = (parted book options s row).isNullAt? k := by
  rw [normalize, isNullAt?_substitute, typed, isNullAt?_coerceTime,
    isNullAt?_foldl fun _ _ ↦ isNullAt?_coerceColumn, answered]
  split
  · exact isNullAt?_foldl (fun _ _ ↦ isNullAt?_labelOne _) _ _
  · rfl

end Row

end SurveyExport
