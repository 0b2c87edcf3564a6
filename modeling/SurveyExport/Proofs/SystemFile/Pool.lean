import SurveyExport.Proofs.SystemFile.Naming

/-!
# The names of one file

The variables of a file are named one after the other from one pool. What has to hold of the pool at
any time is `NamePool.Sound`: its names are short, and no two of them differ in case at most. Giving
one more name keeps it (`NamePool.Sound.of_assign?`), whatever was given before and whichever
suffixes are drawn, and so does giving any number of names (`NamePool.Sound.of_assignAll?`).

A search for a suffix stops after a number of draws, the limit. If it has found a name by then, any
greater limit gives the same name (`NamePool.assignAll?_mono`), so what is proved of names that are
given under some limit holds of a search without one, whenever it ends.

* `NamePool.namesVariables_of_assignAll?`: the names of a run are short and distinct, and variables
  that have them are never refused for a name that comes twice.
-/

namespace SurveyExport.SystemFile

/-- Names that are new and distinct are not refused as duplicates. -/
theorem checkVariables_ne_duplicate {seen : List String} {vars : List Variable}
    (hnodup : (vars.map fun v ↦ Text.lowercase v.name).Nodup)
    (hnew : ∀ v ∈ vars, Text.lowercase v.name ∉ seen) (name : String) :
    checkVariables seen vars ≠ .error (.duplicateVariable name) := by
  induction vars generalizing seen with
  | nil => simp [checkVariables]
  | cons v rest ih =>
    obtain ⟨hv, hrest⟩ := List.forall_mem_cons.1 hnew
    obtain ⟨hdistinct, hnodup⟩ := List.nodup_cons.1 hnodup
    have htail : checkVariables (Text.lowercase v.name :: seen) rest ≠
        .error (.duplicateVariable name) := by
      refine ih hnodup fun w hw hmem ↦ ?_
      rcases List.mem_cons.1 hmem with heq | hmem
      · exact hdistinct (List.mem_map.2 ⟨w, hw, heq⟩)
      · exact hrest w hw hmem
    rw [checkVariables, if_neg (mt List.contains_iff_mem.1 hv)]
    split
    · simp
    · cases v.type with
      | numeric => exact htail
      | text width =>
        dsimp only
        split
        · simp
        · exact htail

namespace NamePool

variable {draw : Nat → String} {limit limit' : Nat} {pool after : NamePool} {title name : String}
  {titles names : List String}

/-! ### Searches that end -/

/-- A search that ends goes on to the same end under a greater limit. -/
theorem drawName?_mono {stem : String} {drawn : Nat} (hle : limit ≤ limit')
    (h : drawName? draw pool stem limit drawn = some (name, after)) :
    drawName? draw pool stem limit' drawn = some (name, after) := by
  induction limit generalizing limit' drawn with
  | zero => cases h
  | succ limit ih =>
    cases limit' with
    | zero => omega
    | succ limit' =>
      rw [drawName?] at h ⊢
      split at h
      · rename_i hclash
        rw [if_pos hclash]
        exact ih (Nat.le_of_succ_le_succ hle) h
      · rename_i hnew
        rw [if_neg hnew]
        exact h

theorem assign?_mono (hle : limit ≤ limit')
    (h : pool.assign? draw limit title = some (name, after)) :
    pool.assign? draw limit' title = some (name, after) := by
  rw [assign?] at h ⊢
  split at h
  · rename_i hclash
    rw [if_pos hclash]
    exact drawName?_mono hle h
  · rename_i hnew
    rw [if_neg hnew]
    exact h

/-- The names of titles, taken apart. -/
theorem assignAll?_cons_eq_some_iff {rest : List String} :
    assignAll? draw limit pool (title :: rest) = some names ↔
      ∃ name after others, pool.assign? draw limit title = some (name, after) ∧
        assignAll? draw limit after rest = some others ∧ names = name :: others := by
  simp only [assignAll?, Option.bind_eq_bind, Option.bind_eq_some_iff, Option.some.injEq,
    Prod.exists]
  constructor
  · rintro ⟨name, after, hname, others, hothers, rfl⟩
    exact ⟨name, after, others, hname, hothers, rfl⟩
  · rintro ⟨name, after, others, hname, hothers, rfl⟩
    exact ⟨name, after, hname, others, hothers, rfl⟩

/-- **The limit decides nothing but whether names are given.** -/
theorem assignAll?_mono (hle : limit ≤ limit')
    (h : assignAll? draw limit pool titles = some names) :
    assignAll? draw limit' pool titles = some names := by
  induction titles generalizing pool names with
  | nil => exact h
  | cons title rest ih =>
    obtain ⟨name, after, others, hname, hothers, rfl⟩ := assignAll?_cons_eq_some_iff.1 h
    exact assignAll?_cons_eq_some_iff.2
      ⟨name, after, others, assign?_mono hle hname, ih hothers, rfl⟩

/-! ### What holds of a pool -/

/-- The names given so far are short, and no two of them differ in case at most. -/
structure Sound (pool : NamePool) : Prop where
  short : ∀ name ∈ pool.names, name.utf8ByteSize ≤ maxNameLength
  distinct : (pool.names.map Text.lowercase).Nodup

/-- **One more name keeps the pool sound**, whatever the pool holds and the title is. -/
theorem Sound.of_assign? (hpool : pool.Sound) (hdraw : ∀ i, IsSuffix (draw i))
    (h : pool.assign? draw limit title = some (name, after)) : after.Sound := by
  obtain ⟨hgives, hname⟩ := gives_of_assign? h
  have hshort : name.utf8ByteSize ≤ maxNameLength := by
    rcases hname with rfl | ⟨i, rfl⟩
    · exact utf8ByteSize_baseName_le title
    · exact (validName_withSuffix _ (hdraw i)).2
  constructor
  · rw [hgives.names]
    intro other hother
    rcases List.mem_append.1 hother with hother | hother
    · exact hpool.short other hother
    · exact List.mem_singleton.1 hother ▸ hshort
  · rw [hgives.names, List.map_append, List.map_singleton, List.nodup_append]
    refine ⟨hpool.distinct, List.pairwise_singleton _ _, fun x hx y hy heq ↦ hgives.new ?_⟩
    rwa [← List.mem_singleton.1 hy, ← heq]

/-- **Names that are given one after the other** keep it sound, beside those given before. -/
theorem Sound.of_assignAll? (hpool : pool.Sound) (hdraw : ∀ i, IsSuffix (draw i))
    (h : assignAll? draw limit pool titles = some names) :
    names.length = titles.length ∧ ∀ drawn, Sound ⟨pool.names ++ names, drawn⟩ := by
  induction titles generalizing pool names with
  | nil =>
    obtain rfl := Option.some.inj h
    exact ⟨rfl, fun _ ↦ by simpa using ⟨hpool.short, hpool.distinct⟩⟩
  | cons title rest ih =>
    obtain ⟨name, after, others, hname, hothers, rfl⟩ := assignAll?_cons_eq_some_iff.1 h
    obtain ⟨hlength, hsound⟩ := ih (hpool.of_assign? hdraw hname) hothers
    rw [(gives_of_assign? hname).1.names, List.append_assoc] at hsound
    exact ⟨congrArg Nat.succ hlength, hsound⟩

end NamePool

/-! ### The names of variables -/

/-- Names that the variables of one file may have. -/
structure NamesVariables (names : List String) : Prop where
  /-- A name has at most 64 bytes. -/
  short : ∀ name ∈ names, name.utf8ByteSize ≤ 64
  /-- Two names differ, not in case alone. -/
  distinct : names.Pairwise fun name other ↦ Text.lowercase name ≠ Text.lowercase other
  /-- Variables with these names are not refused because two have the same name. -/
  no_duplicate : ∀ (info : FileInfo) (vars : List Variable), vars.map (·.name) = names →
    ∀ name, Draft.start info vars ≠ .error (.duplicateVariable name)

/-- **The names of any titles are short and distinct**, if each search for a suffix ends, whichever
suffixes are drawn. -/
theorem NamePool.namesVariables_of_assignAll? {draw : Nat → String}
    (hdraw : ∀ i, IsSuffix (draw i)) {limit : Nat} {titles names : List String}
    (h : assignAll? draw limit {} titles = some names) :
    names.length = titles.length ∧ NamesVariables names ∧
      ∀ limit' ≥ limit, assignAll? draw limit' {} titles = some names := by
  have hempty : Sound {} := ⟨nofun, .nil⟩
  obtain ⟨hlength, hsound⟩ := hempty.of_assignAll? hdraw h
  obtain ⟨hshort, hdistinct⟩ := hsound 0
  refine ⟨hlength, ⟨hshort, List.pairwise_map.1 hdistinct, ?_⟩,
    fun limit' hle ↦ assignAll?_mono hle h⟩
  rintro info vars rfl name hstart
  have hcheck : checkVariables [] vars ≠ .error (.duplicateVariable name) := by
    refine checkVariables_ne_duplicate ?_ (fun _ _ ↦ List.not_mem_nil) name
    simpa [Function.comp_def] using hdistinct
  rw [Draft.start] at hstart
  split at hstart
  · cases hstart
  · cases hres : checkVariables [] vars with
    | ok _ => simp [hres, bind, Except.bind, pure, Except.pure] at hstart
    | error fault =>
      rw [hres] at hstart hcheck
      exact hcheck (by simpa [bind, Except.bind] using hstart)

/-- Suffixes of which the first two are the same. -/
def stutter (i : Nat) : String := if i < 2 then "00ff" else "ab12"

/-- Three names that differ in case alone: the third one needs a second suffix. -/
theorem NamePool.namesVariables_stutter :
    (∀ i, IsSuffix (stutter i)) ∧
      assignAll? stutter 2 {} ["name", "NAME", "Name"] = some ["name", "NAME@00ff", "Name@ab12"] ∧
      NamesVariables ["name", "NAME@00ff", "Name@ab12"] := by
  have hdraw : ∀ i, IsSuffix (stutter i) := by
    intro i
    rw [stutter]
    split <;> exact ⟨rfl, by simp [Numeral.isHexDigit]⟩
  have hnames : assignAll? stutter 2 {} ["name", "NAME", "Name"] =
      some ["name", "NAME@00ff", "Name@ab12"] := by decide +kernel
  exact ⟨hdraw, hnames, (namesVariables_of_assignAll? hdraw hnames).2.1⟩

end SurveyExport.SystemFile
