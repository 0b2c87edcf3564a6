import SurveyExport.Proofs.Text.Cut
import SurveyExport.SystemFile.Draft

/-!
# Names that a system file accepts

A dictionary is refused if a name is empty or longer than 64 bytes, or differs from an earlier one
in case at most (`checkVariables_eq_ok_iff`). The names that are given to titles are made to pass: a
name is cut to 64 bytes with room for what is put before or after it (`validName_baseName`,
`validName_withSuffix`), and is only given if it clashes with none before it
(`NamePool.gives_of_assign?`). The one title that has no name is that of braces alone, since braces
are left out.
-/

namespace SurveyExport

/-- Where a character fits, something is kept. -/
theorem Text.fitting_ne_nil {n : Nat} (hn : 4 ≤ n) (c : Char) (cs : List Char) :
    fitting n (c :: cs) ≠ [] := by
  have hc : c.utf8Size ≤ n := Nat.le_trans c.utf8Size_le_four hn
  rw [fitting, if_pos hc]
  exact List.cons_ne_nil _ _

namespace SystemFile

/-! ### Valid names -/

/-- A name that a variable may have. -/
def ValidName (name : String) : Prop := name ≠ "" ∧ name.utf8ByteSize ≤ maxNameLength

/-- A title that holds a character other than a brace. -/
def Nameable (title : String) : Prop := ∃ c ∈ title.toList, c ≠ '{' ∧ c ≠ '}'

/-- Four hexadecimal digits. -/
structure IsSuffix (digits : String) : Prop where
  length_eq : digits.toList.length = suffixLength - 1
  hex : ∀ c ∈ digits.toList, Numeral.isHexDigit c = true

theorem nameChars_ne_nil_iff {title : String} : nameChars title ≠ [] ↔ Nameable title := by
  rw [nameChars, ne_eq, List.map_eq_nil_iff, List.filter_eq_nil_iff]
  simp [Nameable]

/-- The name of a title is not longer than names may be. -/
theorem utf8ByteSize_baseName_le (title : String) :
    (baseName title).utf8ByteSize ≤ maxNameLength := by
  rw [← Text.byteLength_toList, baseName.eq_def]
  split
  · rename_i cs _
    have hcut := Text.byteLength_fitting_le (maxNameLength - 1) ('_' :: cs)
    have hmark : '@'.utf8Size = 1 := rfl
    rw [String.toList_ofList, Text.byteLength, hmark]
    simp only [maxNameLength] at hcut ⊢
    omega
  · rw [String.toList_ofList]
    exact Text.byteLength_fitting_le _ _

/-- **A title has a valid name** if it holds a character other than braces. -/
theorem validName_baseName {title : String} (h : Nameable title) : ValidName (baseName title) := by
  refine ⟨fun hempty ↦ ?_, utf8ByteSize_baseName_le title⟩
  have hchars := nameChars_ne_nil_iff.2 h
  rw [← String.toList_inj, baseName.eq_def] at hempty
  split at hempty
  · simp at hempty
  · obtain ⟨c, cs, hcs⟩ := List.exists_cons_of_ne_nil hchars
    rw [hcs, String.toList_ofList] at hempty
    exact Text.fitting_ne_nil (by decide) c cs hempty

/-- A hexadecimal digit takes one byte. -/
theorem utf8Size_of_isHexDigit {c : Char} (h : Numeral.isHexDigit c = true) : c.utf8Size = 1 := by
  simp only [Numeral.isHexDigit, Char.isDigit, Bool.or_eq_true, Bool.and_eq_true, decide_eq_true_eq,
    Char.le_def, UInt32.le_iff_toNat_le] at h
  rw [Char.utf8Size_eq_one_iff, UInt32.le_iff_toNat_le]
  change c.val.toNat ≤ 127
  rcases h with (⟨-, h⟩ | ⟨-, h⟩) | ⟨-, h⟩
  · change c.val.toNat ≤ 57 at h
    omega
  · change c.val.toNat ≤ 102 at h
    omega
  · change c.val.toNat ≤ 70 at h
    omega

/-- **A name with a suffix is valid**, whatever the name is. -/
theorem validName_withSuffix (name : String) {digits : String} (h : IsSuffix digits) :
    ValidName (withSuffix name digits) := by
  have hdigits : digits.utf8ByteSize = suffixLength - 1 := by
    rw [← Text.byteLength_toList, ← h.length_eq]
    exact Text.byteLength_eq_length fun c hc ↦ utf8Size_of_isHexDigit (h.hex c hc)
  have hcut := (Text.longestFit_cutBytes (maxNameLength - suffixLength) name).fits
  have hmark : "@".utf8ByteSize = 1 := rfl
  refine ⟨fun hempty ↦ ?_, ?_⟩
  · have hmem : '@' ∈ (withSuffix name digits).toList := by simp [withSuffix]
    simp [hempty] at hmem
  · rw [withSuffix, String.utf8ByteSize_append, String.utf8ByteSize_append, hdigits, hmark]
    simp only [maxNameLength, suffixLength] at hcut ⊢
    omega

/-! ### Names from a pool -/

namespace NamePool

/-- The pool gives a name and is another one afterwards. -/
structure Gives (pool : NamePool) (name : String) (after : NamePool) : Prop where
  /-- The name differs from those given before, not in case alone. -/
  new : Text.lowercase name ∉ pool.names.map Text.lowercase
  /-- The name is given now. -/
  names : after.names = pool.names ++ [name]

theorem not_mem_of_clashes {pool : NamePool} {name : String} (h : ¬ pool.clashes name = true) :
    Text.lowercase name ∉ pool.names.map Text.lowercase := by
  intro hmem
  obtain ⟨other, hother, heq⟩ := List.mem_map.1 hmem
  exact h (List.any_eq_true.2 ⟨other, hother, beq_iff_eq.2 heq⟩)

variable {draw : Nat → String} {pool after : NamePool} {name title : String}

/-- A name that is drawn is new, and has one of the suffixes. -/
theorem gives_of_drawName? {stem : String} {limit drawn : Nat}
    (h : drawName? draw pool stem limit drawn = some (name, after)) :
    pool.Gives name after ∧ ∃ i, name = withSuffix stem (draw i) := by
  induction limit generalizing drawn with
  | zero => cases h
  | succ limit ih =>
    simp only [drawName?] at h
    split at h
    · exact ih h
    · rename_i hnew
      obtain ⟨rfl, rfl⟩ := Prod.mk.inj (Option.some.inj h)
      exact ⟨⟨not_mem_of_clashes hnew, rfl⟩, drawn, rfl⟩

/-- **A name that is given is new**: the name of the title, or that with a suffix. -/
theorem gives_of_assign? {limit : Nat}
    (h : pool.assign? draw limit title = some (name, after)) :
    pool.Gives name after ∧
      (name = baseName title ∨ ∃ i, name = withSuffix (baseName title) (draw i)) := by
  simp only [assign?] at h
  split at h
  · obtain ⟨hgives, hname⟩ := gives_of_drawName? h
    exact ⟨hgives, .inr hname⟩
  · rename_i hnew
    obtain ⟨rfl, rfl⟩ := Prod.mk.inj (Option.some.inj h)
    exact ⟨⟨not_mem_of_clashes hnew, rfl⟩, .inl rfl⟩

/-- A name that is given is valid, if the title can be named. -/
theorem validName_of_assign? {limit : Nat} (hdraw : ∀ i, IsSuffix (draw i)) (ht : Nameable title)
    (h : pool.assign? draw limit title = some (name, after)) : ValidName name := by
  obtain ⟨-, rfl | ⟨i, rfl⟩⟩ := gives_of_assign? h
  · exact validName_baseName ht
  · exact validName_withSuffix _ (hdraw i)

end NamePool

/-! ### What is refused -/

/-- A width that a text variable may have. -/
def VariableType.Fits : VariableType → Prop
  | .numeric => True
  | .text width => 0 < width ∧ width ≤ maxWidth

/-- **Variables are accepted** just if their names are valid, their widths fit, and no two names
differ in case at most. -/
theorem checkVariables_eq_ok_iff {seen : List String} {vars : List Variable} :
    checkVariables seen vars = .ok () ↔ (∀ v ∈ vars, ValidName v.name ∧ v.type.Fits) ∧
      (vars.map fun v ↦ Text.lowercase v.name).Nodup ∧
      ∀ v ∈ vars, Text.lowercase v.name ∉ seen := by
  induction vars generalizing seen with
  | nil => simp [checkVariables]
  | cons v rest ih =>
    have hvalid : (v.name.isEmpty || maxNameLength < v.name.utf8ByteSize) = true ↔
        ¬ ValidName v.name := by
      rw [ValidName, Bool.or_eq_true, String.isEmpty_iff, decide_eq_true_eq, ← Nat.not_le]
      by_cases hempty : v.name = "" <;> simp [hempty]
    have hrest : checkVariables (Text.lowercase v.name :: seen) rest = .ok () ↔
        (∀ w ∈ rest, ValidName w.name ∧ w.type.Fits) ∧
          (Text.lowercase v.name ∉ rest.map (fun w ↦ Text.lowercase w.name) ∧
            (rest.map fun w ↦ Text.lowercase w.name).Nodup) ∧
          ∀ w ∈ rest, Text.lowercase w.name ∉ seen := by
      rw [ih]
      simp only [List.mem_cons, not_or, List.mem_map, not_exists, not_and]
      constructor
      · rintro ⟨hw, hnodup, hseen⟩
        exact ⟨hw, ⟨fun w hw' heq ↦ (hseen w hw').1 heq, hnodup⟩, fun w hw' ↦ (hseen w hw').2⟩
      · rintro ⟨hw, ⟨hnew, hnodup⟩, hseen⟩
        exact ⟨hw, hnodup, fun w hw' ↦ ⟨fun heq ↦ hnew w hw' heq, hseen w hw'⟩⟩
    simp only [checkVariables, List.forall_mem_cons, List.map_cons, List.nodup_cons]
    split
    · rename_i hname
      exact iff_of_false nofun fun h ↦ hvalid.1 hname h.1.1.1
    · rename_i hname
      have hname' : ValidName v.name := by simpa [hvalid] using hname
      split
      · rename_i hseen
        exact iff_of_false nofun fun h ↦ h.2.2.1 (List.contains_iff_mem.1 hseen)
      · rename_i hseen
        have hseen' : Text.lowercase v.name ∉ seen := fun h ↦ hseen (List.contains_iff_mem.2 h)
        cases htype : v.type with
        | numeric => simp [hrest, hname', hseen', VariableType.Fits]
        | text width =>
          by_cases hwidth : 0 < width ∧ width ≤ maxWidth
          · have hfits : (width = 0 || maxWidth < width) = false := by
              simp only [Bool.or_eq_false_iff, decide_eq_false_iff_not]
              omega
            simp [hrest, hname', hseen', VariableType.Fits, hwidth, hfits]
          · have hfits : (width = 0 || maxWidth < width) = true := by
              simp only [Bool.or_eq_true, decide_eq_true_eq]
              omega
            simp [hfits, VariableType.Fits, hwidth]

end SystemFile

end SurveyExport
