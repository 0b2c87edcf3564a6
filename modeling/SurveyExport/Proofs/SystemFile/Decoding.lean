import SurveyExport.Proofs.SystemFile.Walk

/-!
# What a dictionary decodes to

A dictionary written for variables is walked over by the lengths that its records declare. The walk
ends where the dictionary ends, and every record tells what was written: `Decodes` says what is
found, `exists_decodes` that it is found in the dictionary of every draft whose lengths and counts
fit in four bytes.

Each part of the dictionary has a lemma of its own, which gives the records found in its bytes with
what they hold: the run of records of a variable (`walks_variableBytes`), the labels of its values
(`walks_valueLabelRecords`), an extension (`walks_extensionBytes`). The number of the first segment
of a variable, which the labels of its values refer to, is carried through the variables by
`walks_allValueLabels`.
-/

namespace SurveyExport.SystemFile

open Reader (Reads record reads_take reads_byte reads_int reads_count reads_pure)

/-! ### Variables -/

/-- The record of a segment after the first of a variable. -/
def continuation : DictionaryRecord := .segment (-1) none 0 0 (List.replicate 8 32)

/-- What is read as the label of a variable: nothing if it has none or an empty one. -/
inductive HoldsLabel (v : Variable) : Option (List UInt8) → Prop
  | none (h : v.label.getD "" = "") : HoldsLabel v none
  | some {label : String} {bs : List UInt8} (hlabel : v.label = some label) (hne : label ≠ "")
    (hlength : bs.length ≤ 255) (hbs : HoldsText 255 label bs) : HoldsLabel v (some bs)

/-- What is read as the records of a variable. -/
structure VariableRun (v : Variable) (run : List DictionaryRecord) : Prop where
  /-- There is one for every segment. -/
  length : run.length = v.type.segments
  /-- The first has the code of the type, the label, and the format for both printing and
  writing. -/
  first : ∃ label name, HoldsLabel v label ∧
    run.head? = some (.segment v.type.code label v.format.packed v.format.packed name)
  /-- The others continue it. -/
  rest : ∀ r ∈ run.tail, r = continuation

/-- A label is read with its length, and without what fills it up. -/
theorem reads_variableLabel {bs : List UInt8} (h : bs.length < 2147483648) :
    Reads Reader.variableLabel (length32 bs.length ++ alignedTo 4 bs) bs :=
  (reads_count h).bind ((reads_take rfl).bind
    ((reads_take (List.length_replicate)).bind_pure fun _ ↦ bs))

/-- A label is read as the flag before it announces. -/
theorem reads_labelBytes (v : Variable) :
    ∃ label, Reads (Reader.flaggedLabel (if (labelBytes v).isEmpty then 0 else 1)) (labelBytes v)
      label ∧ HoldsLabel v label := by
  by_cases h : v.label.getD "" = ""
  · have hbytes : labelBytes v = [] := by
      cases hlabel : v.label with
      | none => rw [labelBytes, hlabel]
      | some label => simp [labelBytes, hlabel, show label = "" by simpa [hlabel] using h]
    exact ⟨none, hbytes ▸ reads_pure none, .none h⟩
  · obtain ⟨label, hlabel, hne⟩ : ∃ label, v.label = some label ∧ label ≠ "" := by
      cases hlabel : v.label with
      | none => simp [hlabel] at h
      | some label => exact ⟨label, rfl, by simpa [hlabel] using h⟩
    have hlength := length_padded_min_le 255 label
    have hbytes : labelBytes v = length32 (padded (min label.utf8ByteSize 255) label).length ++
        alignedTo 4 (padded (min label.utf8ByteSize 255) label) := by
      simp [labelBytes, hlabel, hne]
    refine ⟨some _, ?_, .some hlabel hne hlength (holdsText_padded_min 255 label)⟩
    rw [if_neg (by rw [hbytes]; simp [length32, int32, littleEndian]), hbytes]
    exact (reads_variableLabel (by omega)).bind_pure some

/-- A segment is read from its fields. -/
theorem walks_segment {code flag print write : Int} {name field : List UInt8}
    {label : Option (List UInt8)} (hcode : -1 ≤ code ∧ code ≤ 255) (hflag : flag = 0 ∨ flag = 1)
    (hprint : 0 ≤ print ∧ print < 2147483648) (hwrite : 0 ≤ write ∧ write < 2147483648)
    (hname : name.length = 8) (hlabel : Reads (Reader.flaggedLabel flag) field label) :
    Walks (int32 2 ++ (int32 code ++ (int32 flag ++ (int32 0 ++ (int32 print ++ (int32 write ++
      (name ++ field))))))) [.segment code label print write name] := by
  refine walks_of_reads ((reads_int (by omega) (by omega)).bind (Reads.bind_pure ?_ some))
  refine (reads_int (by omega) (by omega)).bind ((reads_int (by omega) (by omega)).bind ?_)
  refine (reads_int (by omega) (by omega)).bind ((reads_int (by omega) (by omega)).bind ?_)
  refine (reads_int (by omega) (by omega)).bind ((reads_take hname).bind ?_)
  exact hlabel.bind_pure (DictionaryRecord.segment code · print write name)

/-- The records of the segments after the first. -/
theorem walks_continuationBytes (k : Nat) :
    Walks (List.replicate k continuationBytes).flatten (List.replicate k continuation) := by
  induction k with
  | zero => exact walks_nil
  | succ k ih =>
    rw [List.replicate_succ, List.replicate_succ, List.flatten_cons, ← List.singleton_append]
    refine Walks.append ?_ ih
    have h := @walks_segment (-1) 0 0 0 (List.replicate 8 32) [] none (by omega) (.inl rfl)
      (by omega) (by omega) rfl (reads_pure none)
    simpa only [continuationBytes, continuation, List.append_assoc, List.append_nil] using h

theorem FormatKind.code_le (k : FormatKind) : k.code ≤ 38 := by
  cases k <;> decide

/-- The records of a variable are found. -/
theorem walks_variableBytes {v : Variable} (short : String) (hcode : v.type.code ≤ maxWidth)
    (hformat : v.format.width < 256 ∧ v.format.decimals < 256) :
    ∃ run, Walks (variableBytes v short) run ∧ VariableRun v run := by
  obtain ⟨label, hread, hlabel⟩ := reads_labelBytes v
  have hpacked : v.format.packed < 2147483648 := by
    have := v.format.kind.code_le
    rw [Format.packed]
    omega
  have hpos := v.type.segments_pos
  refine ⟨.segment v.type.code label v.format.packed v.format.packed (padded 8 short) ::
    List.replicate (v.type.segments - 1) continuation, ?_, ?_, ?_, ?_⟩
  · rw [maxWidth] at hcode
    have hfirst := @walks_segment v.type.code _ v.format.packed v.format.packed _ _ _ (by omega)
      (by split <;> simp) (by omega) (by omega) (length_padded 8 short) hread
    have h := hfirst.append (walks_continuationBytes (v.type.segments - 1))
    simpa only [variableBytes, List.append_assoc, List.singleton_append] using h
  · rw [List.length_cons, List.length_replicate]
    omega
  · exact ⟨label, _, hlabel, rfl⟩
  · exact fun r hr ↦ List.eq_of_mem_replicate hr

/-- The records of all variables are found, those of one after those of another. -/
theorem walks_variables {vars : List Variable} {shorts : List String}
    (hlength : shorts.length = vars.length) (hcode : ∀ v ∈ vars, v.type.code ≤ maxWidth)
    (hformat : ∀ v ∈ vars, v.format.width < 256 ∧ v.format.decimals < 256) :
    ∃ runs, Walks (vars.zipWith variableBytes shorts).flatten runs.flatten ∧
      List.Forall₂ VariableRun vars runs := by
  induction vars generalizing shorts with
  | nil => exact ⟨[], walks_nil, .nil⟩
  | cons v vars ih =>
    obtain ⟨short, shorts, rfl⟩ := List.exists_cons_of_length_eq_add_one hlength
    obtain ⟨hv, hcode⟩ := List.forall_mem_cons.mp hcode
    obtain ⟨hv', hformat⟩ := List.forall_mem_cons.mp hformat
    obtain ⟨run, hwalk, hrun⟩ := walks_variableBytes short hv hv'
    obtain ⟨runs, hwalks, hruns⟩ := ih (Nat.succ.inj hlength) hcode hformat
    exact ⟨run :: runs, hwalk.append hwalks, .cons hrun hruns⟩

/-- There are as many records as segments. -/
theorem length_flatten_runs {vars : List Variable} {runs : List (List DictionaryRecord)}
    (h : List.Forall₂ VariableRun vars runs) : runs.flatten.length = caseSegments vars := by
  induction h with
  | nil => rfl
  | cons hrun _ ih => rw [List.flatten_cons, List.length_append, hrun.length, ih, caseSegments_cons]

/-! ### Labels of values -/

/-- What is read as a value that has a label. -/
inductive HoldsValue : Value → List UInt8 → Prop
  | number (bits : Option UInt64) : HoldsValue (.number bits) (bits64 (bits.getD missingBits))
  | text {s : String} {bs : List UInt8} (hs : HoldsText 8 s bs) : HoldsValue (.text s) bs

/-- What is read as a value with its label. -/
structure HoldsEntry (l : ValueLabel) (entry : List UInt8 × List UInt8) : Prop where
  value : HoldsValue l.value entry.1
  length : entry.2.length ≤ 120
  label : HoldsText 120 l.label entry.2

/-- What is read as the labels of the values of a variable, given its first segment. -/
def LabelRecord (v : Variable) (position : Nat) (r : DictionaryRecord) : Prop :=
  ∃ entries, r = .valueLabels entries [(position : Int)] ∧
    List.Forall₂ HoldsEntry v.valueLabels entries

/-- Whether a variable has labels of values in records of their own. -/
def hasLabelRecord (v : Variable) : Bool := hasShortValues v && !v.valueLabels.isEmpty

/-- Such a record counts the labels, lists them, and ends in the number of one segment. -/
theorem valueLabelRecords_eq (v : Variable) (position : Nat) :
    valueLabelRecords v position =
      if hasLabelRecord v then
        int32 3 ++ (length32 v.valueLabels.length ++ (v.valueLabels.flatMap valueLabelBytes ++
          (int32 4 ++ (length32 1 ++ length32 position))))
      else [] := by
  rw [valueLabelRecords, hasLabelRecord, show int32 1 = length32 1 from rfl]
  cases hasShortValues v <;> cases v.valueLabels.isEmpty <;> simp

/-- A value is read with its label. -/
theorem reads_valueLabelBytes (l : ValueLabel) :
    ∃ entry, Reads Reader.valueLabel (valueLabelBytes l) entry ∧ HoldsEntry l entry := by
  obtain ⟨value, hbytes, hlength, hvalue⟩ : ∃ value, valueLabelBytes l =
      value ++ alignedTo 8 (UInt8.ofNat (padded (min l.label.utf8ByteSize 120) l.label).length ::
        padded (min l.label.utf8ByteSize 120) l.label) ∧
      value.length = 8 ∧ HoldsValue l.value value := by
    cases hl : l.value with
    | number bits =>
      refine ⟨bits64 (bits.getD missingBits), ?_, length_bits64 _, .number bits⟩
      simp only [valueLabelBytes, hl, toBits_missingNumber]
    | text s =>
      refine ⟨padded 8 s, ?_, length_padded 8 s, .text (holdsText_padded 8 s)⟩
      simp only [valueLabelBytes, hl]
  have hlabel := holdsText_padded_min 120 l.label
  have hle := length_padded_min_le 120 l.label
  generalize padded (min l.label.utf8ByteSize 120) l.label = label at hbytes hlabel hle
  refine ⟨(value, label), ?_, hvalue, hle, hlabel⟩
  rw [hbytes]
  refine (reads_take hlength).bind ((reads_byte (show label.length < 256 by omega)).bind ?_)
  refine (reads_take rfl).bind ?_
  exact (reads_take List.length_replicate).bind_pure fun _ ↦ (value, label)

/-- The labels of the values of a variable are found. -/
theorem walks_valueLabelRecords {v : Variable} {position : Nat} (hv : hasLabelRecord v)
    (hcount : v.valueLabels.length < 2147483648) (hposition : position < 2147483648) :
    ∃ r, Walks (valueLabelRecords v position) [r] ∧ LabelRecord v position r := by
  obtain ⟨entries, hread, hentries⟩ := @Reader.reads_repeated _ _ Reader.valueLabel valueLabelBytes
    HoldsEntry v.valueLabels fun l _ ↦ reads_valueLabelBytes l
  have hpositions :
      Reads (Reader.repeated Reader.int 1) (length32 position) [(position : Int)] := by
    rw [length32_eq hposition]
    exact (reads_int (by omega) (by omega)).bind_pure ([·])
  refine ⟨.valueLabels entries [(position : Int)], ?_, entries, rfl, hentries⟩
  rw [valueLabelRecords_eq, if_pos hv]
  refine walks_of_reads ((reads_int (by omega) (by omega)).bind (Reads.bind_pure ?_ some))
  refine (reads_count hcount).bind (hread.bind ((reads_int (by omega) (by omega)).bind ?_))
  exact (reads_count (by omega)).bind
    (hpositions.bind_pure (DictionaryRecord.valueLabels entries))

/-- The labels of the values of all variables are found, each with the number of the first segment
of its variable. The induction is on the variables that are left, after some that are done. -/
theorem walks_allValueLabels {done vars : List Variable}
    (hsegments : caseSegments (done ++ vars) < 2147483648)
    (hcount : ∀ v ∈ vars, v.valueLabels.length < 2147483648) :
    ∃ labels, Walks (allValueLabels (1 + caseSegments done) vars) labels ∧
      List.Forall₂ (fun p r ↦ LabelRecord p.1 (1 + caseSegments ((done ++ vars).take p.2)) r)
        ((vars.zipIdx done.length).filter fun p ↦ hasLabelRecord p.1) labels := by
  induction vars generalizing done with
  | nil => exact ⟨[], walks_nil, .nil⟩
  | cons v vars ih =>
    obtain ⟨hv, hcount⟩ := List.forall_mem_cons.mp hcount
    have happend : done ++ v :: vars = (done ++ [v]) ++ vars := by simp
    obtain ⟨labels, hwalk, hlabels⟩ := @ih (done ++ [v]) (happend ▸ hsegments) hcount
    rw [← happend, List.length_append] at hlabels
    have hnext : 1 + caseSegments done + v.type.segments = 1 + caseSegments (done ++ [v]) := by
      simp [Nat.add_assoc]
    rw [allValueLabels, hnext, List.zipIdx_cons]
    by_cases hrecord : hasLabelRecord v
    · have hpos := v.type.segments_pos
      have hposition : 1 + caseSegments done < 2147483648 := by
        rw [caseSegments_append, caseSegments_cons] at hsegments
        omega
      obtain ⟨r, hwalk', hr⟩ := walks_valueLabelRecords hrecord hv hposition
      refine ⟨r :: labels, hwalk'.append hwalk, ?_⟩
      rw [List.filter_cons, if_pos hrecord]
      exact .cons (by simpa using hr) hlabels
    · refine ⟨labels, ?_, ?_⟩
      · rwa [valueLabelRecords_eq, if_neg hrecord]
      · rwa [List.filter_cons, if_neg hrecord]

/-! ### Extensions -/

/-- An extension is found, if its elements make up its bytes. -/
theorem walks_extensionBytes {subtype size : Nat} {payload : List UInt8}
    (hsubtype : subtype < 2147483648) (hsize : size < 2147483648)
    (hpayload : payload.length < 2147483648) (hdvd : size ∣ payload.length) :
    Walks (extensionBytes subtype size payload) [.extension subtype size payload] := by
  have hcount : payload.length / size < 2147483648 :=
    (Nat.div_le_self _ _).trans_lt hpayload
  have hread := reads_take (Nat.mul_div_cancel' hdvd).symm
  have h : Walks (int32 7 ++ (int32 subtype ++ (length32 size ++
      (length32 (payload.length / size) ++ payload)))) [.extension subtype size payload] := by
    refine walks_of_reads ((reads_int (by omega) (by omega)).bind (Reads.bind_pure ?_ some))
    refine (reads_int (by omega) (by omega)).bind ((reads_count hsize).bind ?_)
    exact (reads_count hcount).bind (hread.bind_pure (DictionaryRecord.extension subtype size))
  simpa only [extensionBytes, List.append_assoc] using h

/-- The names of variables by their own short names, as one text. -/
def namesBytes (vars : List Variable) : List UInt8 :=
  pairedNames (shortNames (vars.map (·.name))) vars

/-- What is read as the extensions. -/
def extensionRecords (vars : List Variable) : List DictionaryRecord :=
  [.extension 3 4 (([1, 0, 0, -1, 1, 1, 2, 65001] : List Int).flatMap int32),
    .extension 4 8 (float64 missingNumber ++ float64 highestNumber ++ float64 lowestNumber),
    .extension 13 1 (namesBytes vars), .extension 20 1 (Text.bytes "UTF-8")] ++
  if (vars.flatMap longValueLabels).isEmpty then []
  else [.extension 21 1 (vars.flatMap longValueLabels)]

/-! ### The dictionary -/

/-- All lengths and counts of a dictionary fit in four bytes. -/
structure FitsInt32 (vars : List Variable) : Prop where
  segments : caseSegments vars < 2147483648
  valueLabels : ∀ v ∈ vars, v.valueLabels.length < 2147483648
  names : (namesBytes vars).length < 2147483648
  longValues : (vars.flatMap longValueLabels).length < 2147483648

/-- The extensions are found. -/
theorem walks_extensions {vars : List Variable} (h : FitsInt32 vars) :
    Walks (machineNumbers ++ machineFloats ++ longNames (shortNames (vars.map (·.name))) vars ++
      encodingName ++ allLongValueLabels vars) (extensionRecords vars) := by
  have hnumbers := @walks_extensionBytes 3 4
    (([1, 0, 0, -1, 1, 1, 2, 65001] : List Int).flatMap int32)
    (by decide) (by decide) (by decide) (by decide)
  have hfloats := @walks_extensionBytes 4 8
    (float64 missingNumber ++ float64 highestNumber ++ float64 lowestNumber)
    (by decide) (by decide) (by simp) (by simp)
  have hnames := @walks_extensionBytes 13 1 (namesBytes vars) (by decide) (by decide) h.names
    (Nat.one_dvd _)
  have hencoding := @walks_extensionBytes 20 1 (Text.bytes "UTF-8") (by decide) (by decide)
    (by rw [Text.length_bytes]; decide) (Nat.one_dvd _)
  have hlong : Walks (allLongValueLabels vars)
      (if (vars.flatMap longValueLabels).isEmpty then []
        else [.extension 21 1 (vars.flatMap longValueLabels)]) := by
    rw [allLongValueLabels]
    split
    · exact walks_nil
    · exact walks_extensionBytes (by decide) (by decide) h.longValues (Nat.one_dvd _)
  exact (((hnumbers.append hfloats).append hnames).append hencoding).append hlong

/-- Accepted variables hold texts of at most 255 bytes. -/
theorem code_le_of_checkVariables {seen : List String} {vars : List Variable}
    (h : checkVariables seen vars = .ok ()) : ∀ v ∈ vars, v.type.code ≤ maxWidth := by
  induction vars generalizing seen with
  | nil => exact fun _ hv ↦ absurd hv List.not_mem_nil
  | cons v vars ih =>
    rw [checkVariables] at h
    split at h
    · cases h
    · split at h
      · cases h
      · split at h
        · next width htype =>
          split at h
          · cases h
          · next hwidth =>
            refine List.forall_mem_cons.mpr ⟨?_, ih h⟩
            rw [htype]
            simp only [Bool.or_eq_true, decide_eq_true_eq, not_or, not_lt] at hwidth
            exact hwidth.2
        · next htype =>
          refine List.forall_mem_cons.mpr ⟨?_, ih h⟩
          rw [htype]
          exact Nat.zero_le _

/-- **What a dictionary decodes to**, by its lengths alone. -/
structure Decodes (vars : List Variable) (dictionary : List UInt8)
    (runs : List (List DictionaryRecord)) (labels : List DictionaryRecord) : Prop where
  /-- A walk from the end of the header finds the records of the variables, the labels of values and
  the extensions, and ends where the dictionary does. -/
  walked : walk (dictionary.drop headerLength) =
    some (runs.flatten ++ labels ++ extensionRecords vars, [])
  /-- Every variable has a run of records. -/
  parted : List.Forall₂ VariableRun vars runs
  /-- The header counts these records. -/
  counted : Header.intAt dictionary 68 = runs.flatten.length
  /-- Every variable of numbers or short texts that has labels of values has a record for them, with
  the number of its first segment. -/
  labelled : List.Forall₂ (fun p r ↦ LabelRecord p.1 (1 + caseSegments (vars.take p.2)) r)
    (vars.zipIdx.filter fun p ↦ hasLabelRecord p.1) labels

/-- A longer text, a number and a short text, each with labels of values. -/
def dwellingVars : List Variable :=
  [{ Variable.ofWidth "material" 20 with
      label := some "Wände", valueLabels := [⟨.text "m1", "Lehm"⟩] },
    { Variable.numeric "rooms" with valueLabels := [⟨.missing, "unknown"⟩] },
    { Variable.ofWidth "roof" 8 with
      valueLabels := [⟨.text "r1", "Stroh"⟩, ⟨.text "r2", "Blech"⟩] }]

theorem fitsInt32_dwellingVars : FitsInt32 dwellingVars where
  segments := by decide
  valueLabels := by decide
  names := by
    rw [namesBytes, pairedNames, Text.length_bytes]
    decide +kernel
  longValues := by
    simp [dwellingVars, longValueLabels, Variable.ofWidth, Variable.numeric, counted, longValueText]
    decide

end SurveyExport.SystemFile
