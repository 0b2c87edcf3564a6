import SurveyExport.Proofs.Json.Fields
import SurveyExport.Proofs.SystemFile.Decoding
import SurveyExport.Proofs.SystemFile.Naming
import SurveyExport.Proofs.SystemFile.ShortNames
import SurveyExport.Proofs.Text.Blank

/-!
# What the record of long names is read as

The record of long names is one text: for each variable its short name, a `=` and its name, with a
tab between two variables. It is read by cutting it at its tabs, and each piece at its first `=`.

A short name holds neither of the two, since only few characters are plain. So a `=` in a name does
no harm. But nothing refuses a tab in a name, and such a name falls into pieces. The pairs are read
back just if no name holds a tab (`readNames?_joinedNames_iff`).

* `exists_readNames?_eq_iff`: what is read from the dictionary of a draft. The length of the record
  fits in four bytes, since there are few variables and their names are short.
-/

namespace SurveyExport

/-! ### Texts cut at a character -/

namespace Text

/-- The texts before and after the first occurrence of `d`, if there is one. -/
def splitFirst? (d : Char) (s : String) : Option (String × String) :=
  match s.toList.dropWhile (· != d) with
  | [] => none
  | _ :: after => some (String.ofList (s.toList.takeWhile (· != d)), String.ofList after)

/-- A text is cut at the first occurrence. -/
theorem splitFirst?_append {d : Char} {before : String} (h : d ∉ before.toList) (after : String) :
    splitFirst? d (before ++ String.singleton d ++ after) = some (before, after) := by
  have hfront : ∀ c ∈ before.toList, (c != d) = true := fun c hc ↦
    bne_iff_ne.2 fun heq ↦ h (heq ▸ hc)
  simp [splitFirst?, List.dropWhile_append_of_pos hfront, List.takeWhile_append_of_pos hfront]

/-- What stands behind the first occurrence is part of the text. -/
theorem mem_of_splitFirst? {d c : Char} {s before after : String}
    (h : splitFirst? d s = some (before, after)) (hc : c ∈ after.toList) : c ∈ s.toList := by
  simp only [splitFirst?] at h
  split at h
  · cases h
  · rename_i e rest hrest
    obtain ⟨-, rfl⟩ := Prod.mk.inj (Option.some.inj h)
    rw [String.toList_ofList] at hc
    exact (List.dropWhile_sublist _).subset (hrest ▸ List.mem_cons_of_mem e hc)

/-- Texts without a character, joined by it, are the texts it cuts. -/
theorem splitAt_intercalate {d : Char} {parts : List String} (hne : parts ≠ [])
    (h : ∀ s ∈ parts, d ∉ s.toList) :
    splitAt d ((String.singleton d).intercalate parts) = parts := by
  have hfree : ∀ s ∈ parts, ∀ c ∈ s.toList, (c == d) = false := fun s hs c hc ↦
    beq_eq_false_iff_ne.2 fun heq ↦ h s hs (heq ▸ hc)
  induction parts with
  | nil => exact absurd rfl hne
  | cons s rest ih =>
    obtain ⟨hs, hrest⟩ := List.forall_mem_cons.1 hfree
    cases rest with
    | nil => simp [splitAt, pieces_eq_singleton hs]
    | cons t rest =>
      have hcut := ih (List.cons_ne_nil _ _) (List.forall_mem_cons.1 h).2 hrest
      rw [splitAt] at hcut ⊢
      rw [String.intercalate_cons_cons, String.toList_append, String.toList_append,
        String.toList_singleton, List.append_assoc, List.singleton_append,
        pieces_append_cons hs (beq_self_eq_true d), List.map_cons, hcut, String.ofList_toList]

/-- No text that a character cuts holds it. -/
theorem not_mem_of_mem_splitAt {d : Char} {s part : String} (h : part ∈ splitAt d s) :
    d ∉ part.toList := by
  obtain ⟨piece, hpiece, rfl⟩ := List.mem_map.1 h
  rw [String.toList_ofList]
  intro hd
  simpa using not_separator_of_mem_pieces hpiece hd

/-- Joined texts take as many bytes as they and the separators between them. -/
theorem utf8ByteSize_intercalate_le {d : Char} {n : ℕ} {parts : List String}
    (h : ∀ s ∈ parts, s.utf8ByteSize ≤ n) :
    ((String.singleton d).intercalate parts).utf8ByteSize ≤ parts.length * (n + d.utf8Size) := by
  induction parts with
  | nil => simp
  | cons s rest ih =>
    obtain ⟨hs, hrest⟩ := List.forall_mem_cons.1 h
    have hjoined := ih hrest
    rw [List.length_cons, Nat.succ_mul]
    cases rest with
    | nil =>
      rw [String.intercalate_singleton]
      omega
    | cons t rest =>
      rw [String.intercalate_cons_cons, String.utf8ByteSize_append, String.utf8ByteSize_append,
        String.utf8ByteSize_singleton]
      omega

end Text

namespace SystemFile

/-! ### Pairs of names -/

/-- The pairs of short names and names that a record of long names holds. -/
def readNames? (payload : List UInt8) : Option (List (String × String)) := do
  let text ← String.fromUTF8? ⟨payload.toArray⟩
  (Text.splitAt '\t' text).mapM (Text.splitFirst? '=')

/-- The text of a record for pairs of short names and names. -/
def joinedNames (pairs : List (String × String)) : String :=
  "\t".intercalate (pairs.map fun p ↦ p.1 ++ "=" ++ p.2)

theorem readNames?_bytes (s : String) :
    readNames? (Text.bytes s) = (Text.splitAt '\t' s).mapM (Text.splitFirst? '=') := by
  rw [readNames?, Text.bytes_eq_encode, Text.fromUTF8?_encode, String.ofList_toList]
  rfl

/-- **Pairs are read back just if no name holds a tab**, as long as no short name holds a tab or a
`=`. -/
theorem readNames?_joinedNames_iff {pairs : List (String × String)} (hne : pairs ≠ [])
    (hshort : ∀ p ∈ pairs, '\t' ∉ p.1.toList ∧ '=' ∉ p.1.toList) :
    readNames? (Text.bytes (joinedNames pairs)) = some pairs ↔
      ∀ p ∈ pairs, '\t' ∉ p.2.toList := by
  rw [readNames?_bytes, mapM_eq_some_iff]
  constructor
  · -- a name is part of a piece, and no piece holds a tab
    intro h p hp htab
    obtain ⟨part, hpart, hread⟩ := List.mem_map.1 (h ▸ List.mem_map_of_mem (f := some) hp)
    exact Text.not_mem_of_mem_splitAt hpart (Text.mem_of_splitFirst? hread htab)
  · intro h
    rw [joinedNames, show "\t" = String.singleton '\t' from rfl, Text.splitAt_intercalate,
      List.map_map]
    · exact List.map_congr_left fun p hp ↦ Text.splitFirst?_append (hshort p hp).2 p.2
    · rwa [ne_eq, List.map_eq_nil_iff]
    · intro part hpart
      obtain ⟨p, hp, rfl⟩ := List.mem_map.1 hpart
      simp [hshort p hp, h p hp]

/-- The joined pairs take few bytes if their parts do. -/
theorem utf8ByteSize_joinedNames_le {pairs : List (String × String)}
    (h : ∀ p ∈ pairs, p.1.utf8ByteSize ≤ 8 ∧ p.2.utf8ByteSize ≤ maxNameLength) :
    (joinedNames pairs).utf8ByteSize ≤ pairs.length * 74 := by
  have hparts : ∀ part ∈ pairs.map fun p ↦ p.1 ++ "=" ++ p.2, part.utf8ByteSize ≤ 73 := by
    intro part hpart
    obtain ⟨p, hp, rfl⟩ := List.mem_map.1 hpart
    obtain ⟨hshort, hname⟩ := h p hp
    have hmark : "=".utf8ByteSize = 1 := rfl
    rw [String.utf8ByteSize_append, String.utf8ByteSize_append, hmark]
    simp only [maxNameLength] at hname
    omega
  have hjoined := Text.utf8ByteSize_intercalate_le (d := '\t') hparts
  rwa [List.length_map, show '\t'.utf8Size = 1 from rfl] at hjoined

/-- A short name holds neither a tab nor a `=`. -/
theorem IsShort.not_mem {cs : List Char} (h : IsShort cs) : '\t' ∉ cs ∧ '=' ∉ cs :=
  ⟨fun hc ↦ absurd (h.plain _ hc) (by decide), fun hc ↦ absurd (h.plain _ hc) (by decide)⟩

/-! ### The record of a dictionary -/

/-- The short names of variables with their names. -/
def namePairs (vars : List Variable) : List (String × String) :=
  (shortNames (vars.map (·.name))).zip (vars.map (·.name))

theorem namesBytes_eq (vars : List Variable) :
    namesBytes vars = Text.bytes (joinedNames (namePairs vars)) := by
  rw [namesBytes, pairedNames, joinedNames, namePairs, List.zip_map_right, List.map_map,
    List.map_zip_eq_zipWith]
  rfl

theorem map_snd_namePairs (vars : List Variable) :
    (namePairs vars).map Prod.snd = vars.map (·.name) :=
  List.map_snd_zip (length_shortNames (vars.map (·.name))).ge

/-- What holds of all names holds in all pairs. -/
theorem forall_mem_namePairs {vars : List Variable} {P : String → Prop} :
    (∀ p ∈ namePairs vars, P p.2) ↔ ∀ v ∈ vars, P v.name := by
  rw [← List.forall_mem_map (f := Prod.snd), map_snd_namePairs, List.forall_mem_map]

/-- The short names in pairs are short. -/
theorem isShort_of_mem_namePairs {vars : List Variable} (hfew : vars.length < 9000000)
    {p : String × String} (h : p ∈ namePairs vars) : IsShort p.1.toList :=
  isShort_of_mem_shortNames (by rwa [List.length_map]) (List.of_mem_zip h).1

/-- The record of a few variables takes less than two gigabytes. -/
theorem length_namesBytes_lt {vars : List Variable} (hvalid : ∀ v ∈ vars, ValidName v.name)
    (hfew : vars.length < 9000000) : (namesBytes vars).length < 2147483648 := by
  have hjoined := @utf8ByteSize_joinedNames_le (namePairs vars) fun p hp ↦
    ⟨(isShort_of_mem_namePairs hfew hp).isShortName.size_le,
      forall_mem_namePairs (P := (·.utf8ByteSize ≤ maxNameLength)).2
        (fun v hv ↦ (hvalid v hv).2) p hp⟩
  have hlength := congrArg List.length (map_snd_namePairs vars)
  rw [List.length_map, List.length_map] at hlength
  rw [namesBytes_eq, Text.length_bytes]
  omega

/-- The pairs of a few variables are read back just if no name holds a tab. -/
theorem readNames?_namesBytes_iff {vars : List Variable} (hne : vars ≠ [])
    (hfew : vars.length < 9000000) :
    readNames? (namesBytes vars) = some (namePairs vars) ↔ ∀ v ∈ vars, '\t' ∉ v.name.toList := by
  have hpairs : namePairs vars ≠ [] := fun hnil ↦ hne <|
    List.map_eq_nil_iff.1 ((map_snd_namePairs vars).symm.trans (congrArg _ hnil))
  have hshort : ∀ p ∈ namePairs vars, '\t' ∉ p.1.toList ∧ '=' ∉ p.1.toList := fun p hp ↦
    (isShort_of_mem_namePairs hfew hp).not_mem
  rw [namesBytes_eq, readNames?_joinedNames_iff hpairs hshort]
  exact forall_mem_namePairs (P := fun name ↦ '\t' ∉ name.toList)

/-- The record of long names stands in a dictionary and is found with this payload. -/
structure HoldsNames (vars : List Variable) (dictionary payload : List UInt8) : Prop where
  placed : ∃ before after,
    dictionary = before ++ longNames (shortNames (vars.map (·.name))) vars ++ after
  walked : Walks (longNames (shortNames (vars.map (·.name))) vars) [.extension 13 1 payload]

/-- **The names of a dictionary are read back just if none holds a tab.** -/
theorem exists_readNames?_eq_iff {info : FileInfo} {vars : List Variable} {d : Draft}
    (hstart : Draft.start info vars = .ok d) (hfew : vars.length < 9000000) :
    ∃ payload, HoldsNames vars d.dictionary payload ∧
      (readNames? payload = some (namePairs vars) ↔ ∀ v ∈ vars, '\t' ∉ v.name.toList) := by
  obtain ⟨hne, hcheck, rfl⟩ := start_eq_ok_iff.mp hstart
  have hvalid : ∀ v ∈ vars, ValidName v.name := fun v hv ↦
    ((checkVariables_eq_ok_iff.1 hcheck).1 v hv).1
  refine ⟨namesBytes vars, ⟨⟨headerBytes info (caseSegments vars) ++
      (vars.zipWith variableBytes (shortNames (vars.map (·.name)))).flatten ++
        allValueLabels 1 vars ++ machineNumbers ++ machineFloats,
      encodingName ++ allLongValueLabels vars ++ int32 999 ++ int32 0, ?_⟩,
    walks_extensionBytes (by decide) (by decide) (length_namesBytes_lt hvalid hfew)
      (Nat.one_dvd _)⟩, readNames?_namesBytes_iff hne hfew⟩
  simp only [dictionaryBytes, List.append_assoc]

/-- Two variables, and a `=` in the name of one. -/
def measureVars : List Variable := [.numeric "bmi=kg/m²", .numeric "age"]

/-- A variable with a tab in its name. -/
def tabbedVars : List Variable := [.numeric "a\tb"]

/-- A `=` in a name is part of it. A name with a tab is accepted, but not read back. -/
theorem exists_readNames?_eq_iff_measures :
    (∃ d, Draft.start ⟨none, .midnight Value.gregorianEve⟩ measureVars = .ok d ∧
      measureVars.length < 9000000 ∧ ∃ payload, HoldsNames measureVars d.dictionary payload ∧
        readNames? payload = some [("BMIKGM", "bmi=kg/m²"), ("AGE", "age")]) ∧
    ∃ d, Draft.start ⟨none, .midnight Value.gregorianEve⟩ tabbedVars = .ok d ∧
      tabbedVars.length < 9000000 ∧ ∃ payload, HoldsNames tabbedVars d.dictionary payload ∧
        readNames? payload ≠ some [("AB", "a\tb")] := by
  have hmeasures : namePairs measureVars = [("BMIKGM", "bmi=kg/m²"), ("AGE", "age")] := by
    decide +kernel
  have htabbed : namePairs tabbedVars = [("AB", "a\tb")] := by decide +kernel
  constructor
  · obtain ⟨d, hd⟩ : ∃ d, Draft.start ⟨none, .midnight Value.gregorianEve⟩ measureVars = .ok d :=
      ⟨_, start_eq_ok_iff.mpr ⟨by decide, rfl, rfl⟩⟩
    obtain ⟨payload, hholds, hread⟩ := exists_readNames?_eq_iff hd (by decide)
    exact ⟨d, hd, by decide, payload, hholds, hmeasures ▸ hread.2 (by decide +kernel)⟩
  · obtain ⟨d, hd⟩ : ∃ d, Draft.start ⟨none, .midnight Value.gregorianEve⟩ tabbedVars = .ok d :=
      ⟨_, start_eq_ok_iff.mpr ⟨by decide, rfl, rfl⟩⟩
    obtain ⟨payload, hholds, hread⟩ := exists_readNames?_eq_iff hd (by decide)
    exact ⟨d, hd, by decide, payload, hholds, htabbed ▸ hread.not.2 (by decide +kernel)⟩

end SystemFile

end SurveyExport
