import SurveyExport.Proofs.Form.Paths
import SurveyExport.Proofs.Row.Frame
import SurveyExport.WideTable.Basic

/-!
# The keys of a question's columns

In a wide table a question has the key of its own column, or the keys of its choices or components.
They are among the keys that its section has for it (`Form.mem_ownKeys_of_mem_wideKeys`), they lie
below the same repeated group as the question (`Form.below_of_mem_wideKeys`), and none of them is
the name of a metadata column (`Form.not_mem_extraColumns_of_mem_ownKeys`).

The keys of components put a mark before the last name of an xpath, so this name has to be found:
`splitName_spec` says what the two parts are. Keys of different components are different
(`Form.getElem_pointKeys_inj`).
-/

namespace SurveyExport

/-! ### The last name of an xpath -/

theorem Text.not_mem_of_splitLastChars? {d : Char} {cs : List Char}
    (h : splitLastChars? d cs = none) : d ∉ cs := by
  induction cs with
  | nil => exact List.not_mem_nil
  | cons c cs ih =>
    simp only [splitLastChars?] at h
    split at h
    · cases h
    · rename_i hrest
      split at h
      · cases h
      · rename_i hc
        rw [List.mem_cons, not_or]
        exact ⟨fun heq ↦ hc heq.symm, ih hrest⟩

/-- A character that does not occur splits nothing. -/
theorem Text.splitLastChars?_eq_none {d : Char} {cs : List Char} (h : d ∉ cs) :
    splitLastChars? d cs = none := by
  induction cs with
  | nil => rfl
  | cons c cs ih =>
    rw [List.mem_cons, not_or] at h
    rw [splitLastChars?, ih h.2, if_neg (Ne.symm h.1)]

/-- A text is split at a character behind which it does not occur again. -/
theorem Text.splitLastChars?_append {d : Char} {after : List Char} (h : d ∉ after)
    (before : List Char) : splitLastChars? d (before ++ d :: after) = some (before, after) := by
  induction before with
  | nil => rw [List.nil_append, splitLastChars?, splitLastChars?_eq_none h, if_pos rfl]
  | cons c before ih => rw [List.cons_append, splitLastChars?, ih]

/-- The two parts make up the xpath, and the name has no slash. -/
theorem splitName_spec (xpath : String) :
    (splitName xpath).1.toList ++ (splitName xpath).2.toList = xpath.toList ∧
      '/' ∉ (splitName xpath).2.toList := by
  rw [splitName, Text.splitLast?]
  cases hsplit : Text.splitLastChars? '/' xpath.toList with
  | none => exact ⟨rfl, Text.not_mem_of_splitLastChars? hsplit⟩
  | some parts =>
    obtain ⟨before, after⟩ := parts
    obtain ⟨heq, hafter⟩ := Text.splitLastChars?_eq_some hsplit
    exact ⟨by simp [heq], by simpa using hafter⟩

/-- The path before the last name is empty, or ends in a slash. -/
theorem splitName_path (xpath : String) :
    (splitName xpath).1 = "" ∨ ∃ path, (splitName xpath).1 = path ++ "/" := by
  rw [splitName]
  cases Text.splitLast? '/' xpath with
  | none => exact .inl rfl
  | some parts => exact .inr ⟨parts.1, rfl⟩

/-- An xpath is split behind its last slash. -/
theorem splitName_append {path name : String} (hpath : path = "" ∨ ∃ outer, path = outer ++ "/")
    (hname : '/' ∉ name.toList) : splitName (path ++ name) = (path, name) := by
  rw [splitName, Text.splitLast?, String.toList_append]
  rcases hpath with rfl | ⟨outer, rfl⟩
  · rw [show ("" : String).toList = [] from rfl, List.nil_append,
      Text.splitLastChars?_eq_none hname]
    simp
  · have hsplit : (outer ++ "/").toList ++ name.toList = outer.toList ++ '/' :: name.toList := by
      simp
    rw [hsplit, Text.splitLastChars?_append hname]
    simp

/-- The key of a component: a mark before the last name, and an ending behind it. -/
theorem mem_pointKeys {xpath key : String} (h : key ∈ pointKeys xpath) :
    ∃ suffix ∈ pointSuffixes, key.toList = (splitName xpath).1.toList ++ '_' ::
      ((splitName xpath).2.toList ++ '_' :: suffix.toList) := by
  have hkeys : pointKeys xpath = pointSuffixes.map fun suffix ↦
      (splitName xpath).1 ++ "_" ++ (splitName xpath).2 ++ "_" ++ suffix := rfl
  rw [hkeys] at h
  obtain ⟨suffix, hsuffix, rfl⟩ := List.mem_map.1 h
  exact ⟨suffix, hsuffix, by simp⟩

/-- What lies below a path, as a whole, has its last name below the path too. -/
theorem below_splitName {x xpath : String} (h : x.toList ++ ['/'] <+: xpath.toList) :
    x.toList ++ ['/'] <+: (splitName xpath).1.toList := by
  obtain ⟨heq, hname⟩ := splitName_spec xpath
  rw [← heq] at h
  rcases List.prefix_or_prefix_of_prefix h (List.prefix_append _ _) with hsub | hsub
  · exact hsub
  · -- otherwise the slash behind `x` would stand in the name, or just end the path
    obtain ⟨rest, hrest⟩ := hsub
    rcases List.eq_nil_or_concat rest with rfl | ⟨rest, c, rfl⟩
    · exact ⟨[], by rw [List.append_nil, ← hrest, List.append_nil]⟩
    · have hrest' := hrest
      rw [List.concat_eq_append, ← List.append_assoc] at hrest'
      obtain ⟨-, hslash⟩ := List.append_inj' hrest' rfl
      obtain rfl := (List.cons.inj hslash).1
      refine absurd ?_ hname
      have hname' := (List.prefix_append_right_inj _).1 (hrest ▸ h)
      exact hname'.subset (by simp)

namespace Form

variable {form : Form} {options : Options} {q : Question} {key : String}

/-! ### The keys of a question's columns in a wide table -/

/-- A column of a question is its own, or one for a choice, or one for a component. -/
theorem mem_wideKeys (h : key ∈ form.wideKeys options q) : q.type.isNote = false ∧
    ((key = q.xpath ∧ (q.type = .selectMultiple → options.splitSelectMultiples = false)) ∨
      (q.type = .selectMultiple ∧ options.splitSelectMultiples = true ∧
        ∃ c ∈ form.choiceColumns options q, c.key = key) ∨
      (q.type = .geopoint ∧ key ∈ pointKeys q.xpath)) := by
  rw [wideKeys] at h
  split at h
  · cases h
  · rename_i hnote
    refine ⟨by simpa using hnote, ?_⟩
    split at h
    · rename_i htype
      split at h
      · rename_i hsplit
        exact .inr (.inl ⟨htype, hsplit, List.mem_map.1 h⟩)
      · rename_i hsplit
        exact .inl ⟨List.mem_singleton.1 h, fun _ ↦ by simpa using hsplit⟩
    · rename_i htype
      rcases List.mem_cons.1 h with rfl | h
      · exact .inl ⟨rfl, fun heq ↦ by rw [htype] at heq; cases heq⟩
      · exact .inr (.inr ⟨htype, h⟩)
    · rename_i hmultiple _
      exact .inl ⟨List.mem_singleton.1 h, fun heq ↦ absurd heq hmultiple⟩

/-- A question has a column of its own, unless it is a note or split. -/
theorem xpath_mem_wideKeys (hnote : q.type.isNote = false)
    (hunsplit : q.type = .selectMultiple → options.splitSelectMultiples = false) :
    q.xpath ∈ form.wideKeys options q := by
  simp only [wideKeys, hnote, Bool.false_eq_true, if_false]
  split
  · rename_i htype
    simp [hunsplit htype]
  · exact List.mem_cons_self
  · exact List.mem_cons_self

/-- The columns of a question in a wide table are columns of its section. -/
theorem mem_ownKeys_of_mem_wideKeys (h : key ∈ form.wideKeys options q) :
    key ∈ form.ownKeys options q := by
  obtain ⟨-, ⟨rfl, -⟩ | ⟨htype, hsplit, c, hc, rfl⟩ | ⟨htype, hkey⟩⟩ := mem_wideKeys h
  · exact List.mem_cons_self
  · exact choiceKey_mem_ownKeys htype (by rwa [if_pos hsplit])
  · exact pointKey_mem_ownKeys htype hkey

theorem mem_ownKeys (h : key ∈ form.ownKeys options q) : key = q.xpath ∨
    (∃ c ∈ form.choiceColumns options q, c.key = key) ∨ key ∈ pointKeys q.xpath := by
  rw [ownKeys, List.mem_cons] at h
  refine h.imp_right fun h ↦ ?_
  rw [derivedColumns] at h
  split at h
  · split at h
    · rw [List.map_map] at h
      exact .inl (List.mem_map.1 h)
    · cases h
  · rw [List.map_map] at h
    obtain ⟨key, hkey, rfl⟩ := List.mem_map.1 h
    exact .inr hkey
  · cases h

/-! ### Keys of one question -/

theorem choiceKey_ne (xpath name : String) : xpath ++ "/" ++ name ≠ xpath := by
  intro h
  have := congrArg (fun s ↦ s.toList.length) h
  simp only [String.toList_append, List.length_append] at this
  have hslash : ("/" : String).toList.length = 1 := rfl
  omega

/-- The key of a choice's column determines the name of the choice. -/
theorem choiceName_eq {c d : ChoiceColumn} (hc : c ∈ form.choiceColumns options q)
    (hd : d ∈ form.choiceColumns options q) (h : c.key = d.key) : c.name = d.name := by
  obtain ⟨choice, -, rfl⟩ := List.mem_map.1 hc
  obtain ⟨choice', -, rfl⟩ := List.mem_map.1 hd
  exact String.toList_inj.1 (by simpa using congrArg String.toList h)

theorem pointKey_ne {xpath key : String} (h : key ∈ pointKeys xpath) : key ≠ xpath := by
  rintro rfl
  obtain ⟨suffix, -, heq⟩ := mem_pointKeys h
  have hparts := (splitName_spec key).1
  have hlength := congrArg List.length (hparts.trans heq)
  simp only [List.length_append, List.length_cons] at hlength
  omega

theorem nodup_pointKeys (xpath : String) : (pointKeys xpath).Nodup := by
  refine List.Nodup.map_on (fun s _ t _ h ↦ ?_) (by decide)
  exact String.toList_inj.1 (by simpa using congrArg String.toList h)

/-- The last characters of the ending of a component's key tell it from the others. -/
theorem eq_of_take_pointSuffixes : ∀ suffix ∈ pointSuffixes, 8 ≤ suffix.toList.reverse.length ∧
    ∀ suffix' ∈ pointSuffixes,
      suffix.toList.reverse.take 8 = suffix'.toList.reverse.take 8 → suffix = suffix' := by
  decide

/-- **The key of a component tells the geopoint.** -/
theorem eq_of_mem_pointKeys {xpath xpath' key : String} (h : key ∈ pointKeys xpath)
    (h' : key ∈ pointKeys xpath') : xpath = xpath' := by
  obtain ⟨suffix, hsuffix, heq⟩ := mem_pointKeys h
  obtain ⟨suffix', hsuffix', heq'⟩ := mem_pointKeys h'
  have hend : ∀ {before : List Char} {ending}, ending ∈ pointSuffixes →
      (before ++ '_' :: ending.toList).reverse.take 8 = ending.toList.reverse.take 8 := by
    intro before ending hending
    rw [List.reverse_append, List.reverse_cons, List.append_assoc,
      List.take_append_of_le_length (eq_of_take_pointSuffixes ending hending).1]
  rw [heq, ← List.cons_append, ← List.append_assoc, ← List.cons_append,
    ← List.append_assoc] at heq'
  have hends := congrArg (fun cs ↦ cs.reverse.take 8) heq'
  rw [hend hsuffix, hend hsuffix'] at hends
  obtain rfl := (eq_of_take_pointSuffixes suffix hsuffix).2 suffix' hsuffix' hends
  -- without the ending, the mark stands at the front of the last name
  have hmarked : (splitName xpath).1 ++ ("_" ++ (splitName xpath).2) =
      (splitName xpath').1 ++ ("_" ++ (splitName xpath').2) :=
    String.toList_inj.1 (by simpa using List.append_cancel_right heq')
  have hslash : ∀ x, '/' ∉ ("_" ++ (splitName x).2).toList := fun x ↦ by
    simpa using (splitName_spec x).2
  have hsplit := congrArg splitName hmarked
  rw [splitName_append (splitName_path xpath) (hslash xpath),
    splitName_append (splitName_path xpath') (hslash xpath')] at hsplit
  obtain ⟨hpath, hname⟩ := Prod.mk.inj hsplit
  rw [String.append_right_inj] at hname
  refine String.toList_inj.1 ?_
  rw [← (splitName_spec xpath).1, ← (splitName_spec xpath').1, hpath, hname]

/-- **No two components of geopoints have the same key**, whatever the geopoints are called. -/
theorem getElem_pointKeys_inj (xpath xpath' : String) (i j : Fin 4) :
    (pointKeys xpath)[i] = (pointKeys xpath')[j] ↔ xpath = xpath' ∧ i = j := by
  constructor
  · intro h
    obtain rfl : xpath = xpath' :=
      eq_of_mem_pointKeys (List.getElem_mem i.isLt) (h ▸ List.getElem_mem j.isLt)
    exact ⟨rfl, Fin.ext ((nodup_pointKeys xpath).getElem_inj_iff.1 h)⟩
  · rintro ⟨rfl, rfl⟩
    rfl

/-! ### Where the columns of a question lie -/

/-- What the columns of a question and the question lie below is the same. -/
theorem below_of_mem_wideKeys {x : String} (h : key ∈ form.wideKeys options q)
    (hx : x.toList ++ ['/'] <+: q.xpath.toList) : x.toList ++ ['/'] <+: key.toList := by
  obtain ⟨-, ⟨rfl, -⟩ | ⟨-, -, c, hc, rfl⟩ | ⟨-, hkey⟩⟩ := mem_wideKeys h
  · exact hx
  · obtain ⟨choice, -, rfl⟩ := List.mem_map.1 hc
    simp only [String.toList_append]
    exact hx.trans (by simp)
  · obtain ⟨suffix, -, heq⟩ := mem_pointKeys hkey
    rw [heq]
    exact (below_splitName hx).trans (List.prefix_append _ _)

/-- The characters in the keys of a question's columns are those of its xpath, of its choices' names
and of the endings and marks that are put to them. -/
theorem not_mem_ownKeys {c : Char} (h : key ∈ form.ownKeys options q) (hxpath : c ∉ q.xpath.toList)
    (hchoices : ∀ choice ∈ form.splitChoices q, c ∉ choice.name.toList)
    (hmarks : c ∉ '/' :: '_' :: pointSuffixes.flatMap String.toList) : c ∉ key.toList := by
  rw [List.mem_cons, List.mem_cons, not_or, not_or] at hmarks
  obtain ⟨hslash, hmark, hsuffixes⟩ := hmarks
  rcases mem_ownKeys h with rfl | ⟨d, hd, rfl⟩ | hkey
  · exact hxpath
  · obtain ⟨choice, hchoice, rfl⟩ := List.mem_map.1 hd
    have hname := hchoices choice hchoice
    simp [hxpath, hname, hslash]
  · obtain ⟨suffix, hsuffix, heq⟩ := mem_pointKeys hkey
    rw [← (splitName_spec q.xpath).1, List.mem_append, not_or] at hxpath
    have hend : c ∉ suffix.toList := fun hc ↦ hsuffixes (List.mem_flatMap.2 ⟨suffix, hsuffix, hc⟩)
    rw [heq]
    simp [hxpath, hmark, hend]

/-! ### Metadata columns -/

/-- The name of a metadata column ends unlike the key of a component. -/
theorem take_ne_of_metadata : ∀ name ∈ MetaKey.wideColumns ++ MetaKey.reviewColumns,
    '/' ∉ name.toList ∧ ∀ suffix ∈ pointSuffixes,
      name.toList.reverse.take 5 ≠ suffix.toList.reverse.take 5 := by decide

theorem mem_metadata_of_mem_extraColumns {name : String}
    (h : name ∈ WideTable.extraColumns options) :
    name ∈ MetaKey.wideColumns ++ MetaKey.reviewColumns := by
  have hall : name ∈ MetaKey.wideColumns ++
      if options.includeReviews then MetaKey.reviewColumns else [] := by
    rw [WideTable.extraColumns] at h
    split at h
    · exact (List.mem_filter.1 h).1
    · exact h
  refine (List.mem_append.1 hall).elim (List.mem_append_left _) fun h ↦ ?_
  split at h
  · exact List.mem_append_right _ h
  · cases h

/-- No metadata column has a bracket in its name. -/
theorem not_mem_of_mem_extraColumns {name : String} (h : name ∈ WideTable.extraColumns options) :
    '[' ∉ name.toList := by
  have hall : ∀ name ∈ MetaKey.wideColumns ++ MetaKey.reviewColumns, '[' ∉ name.toList := by decide
  exact hall name (mem_metadata_of_mem_extraColumns h)

/-- No name with a slash is that of a metadata column. -/
theorem not_mem_extraColumns_of_slash {name : String} (h : '/' ∈ name.toList) :
    name ∉ WideTable.extraColumns options := fun hmem ↦
  (take_ne_of_metadata name (mem_metadata_of_mem_extraColumns hmem)).1 h

/-- No choice has the name of a metadata column. -/
theorem choiceKey_not_mem_extraColumns {c : ChoiceColumn} (hc : c ∈ form.choiceColumns options q) :
    c.key ∉ WideTable.extraColumns options := by
  obtain ⟨choice, -, rfl⟩ := List.mem_map.1 hc
  exact not_mem_extraColumns_of_slash (by simp)

/-- No component has the name of a metadata column. -/
theorem pointKey_not_mem_extraColumns {xpath : String} (hkey : key ∈ pointKeys xpath) :
    key ∉ WideTable.extraColumns options := by
  intro hmem
  obtain ⟨-, hends⟩ := take_ne_of_metadata key (mem_metadata_of_mem_extraColumns hmem)
  obtain ⟨suffix, hsuffix, heq⟩ := mem_pointKeys hkey
  refine hends suffix hsuffix ?_
  have hlength : 5 ≤ suffix.toList.reverse.length := by
    have hall : ∀ suffix ∈ pointSuffixes, 5 ≤ suffix.toList.reverse.length := by decide
    exact hall suffix hsuffix
  rw [heq]
  simp only [List.reverse_append, List.reverse_cons, List.append_assoc]
  exact List.take_append_of_le_length hlength

/-- No column of a question has the name of a metadata column, if the question itself has not. -/
theorem not_mem_extraColumns_of_mem_ownKeys (h : key ∈ form.ownKeys options q)
    (hxpath : q.xpath ∉ WideTable.extraColumns options) : key ∉ WideTable.extraColumns options := by
  rcases mem_ownKeys h with rfl | ⟨c, hc, rfl⟩ | hkey
  · exact hxpath
  · exact choiceKey_not_mem_extraColumns hc
  · exact pointKey_not_mem_extraColumns hkey

/-- A column of a question in a wide table that has the name of a metadata column is the question's
own. -/
theorem eq_xpath_of_mem_extraColumns (h : key ∈ form.wideKeys options q)
    (hmem : key ∈ WideTable.extraColumns options) :
    key = q.xpath ∧ (q.type = .selectMultiple → options.splitSelectMultiples = false) := by
  obtain ⟨-, hown | ⟨-, -, c, hc, rfl⟩ | ⟨-, hkey⟩⟩ := mem_wideKeys h
  · exact hown
  · exact absurd hmem (choiceKey_not_mem_extraColumns hc)
  · exact absurd hmem (pointKey_not_mem_extraColumns hkey)

end Form

end SurveyExport
