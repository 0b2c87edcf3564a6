import SurveyExport.Proofs.SystemFile.Cases

/-!
# What a refused case leaves

A case that is refused for its values leaves the draft as it is. There is one more reason to refuse
a case: the header counts up to 2147483647 cases, and there are as many already. This is found out
when the case has been written, so its bytes stay, although it is not counted
(`Draft.isRefusal_of_refused`).

Calls never count further than that (`Draft.count_afterCalls_le`), and a draft with just as many
cases is reached from every start by accepted calls alone (`Draft.count_afterCalls_replicate`).
-/

namespace SurveyExport.SystemFile

/-- The bytes of a case are none only if there are no variables. -/
theorem caseBytes_ne_nil {vars : List Variable} {values : List Value} (h : Suits vars values)
    (hvars : vars ≠ []) : caseBytes vars values ≠ [] := by
  obtain ⟨v, rest, rfl⟩ := List.exists_cons_of_ne_nil hvars
  have hlength := length_caseBytes h
  have hpos := v.type.segments_pos
  rw [caseSegments_cons] at hlength
  intro hnil
  rw [hnil, List.length_nil] at hlength
  omega

namespace Draft

/-- The bytes that have been written. -/
def bytes (d : Draft) : List UInt8 := d.dictionary ++ d.written.reverse.flatten

/-! ### Calls before -/

/-- Calls leave the variables. -/
theorem vars_afterCalls (d : Draft) (calls : List (List Value)) :
    (d.afterCalls calls).vars = d.vars := by
  induction calls generalizing d with
  | nil => rfl
  | cons values calls ih => exact (ih _).trans (vars_addCase d values)

/-- A call does not count beyond the greatest number of cases. -/
theorem count_addCase_le {d : Draft} (h : d.count ≤ maxCases) (values : List Value) :
    (d.addCase values).2.count ≤ maxCases := by
  by_cases hvalues : Suits d.vars values
  · by_cases hcount : d.count < maxCases
    · rw [addCase_of_suits hvalues hcount]
      exact hcount
    · rw [addCase_of_full hvalues (Nat.le_of_not_lt hcount)]
      exact h
  · obtain ⟨fault, -, hstep⟩ := addCase_of_not_suits hvalues
    rw [hstep]
    exact h

/-- Nor does any number of calls. -/
theorem count_afterCalls_le {d : Draft} (h : d.count ≤ maxCases) (calls : List (List Value)) :
    (d.afterCalls calls).count ≤ maxCases := by
  induction calls generalizing d with
  | nil => exact h
  | cons values calls ih => exact ih (count_addCase_le h values)

/-- Calls that suit the variables are all counted, up to the greatest number of cases. -/
theorem count_afterCalls_replicate {d : Draft} {values : List Value} (h : Suits d.vars values)
    {n : ℕ} (hn : d.count + n ≤ maxCases) :
    (d.afterCalls (List.replicate n values)).count = d.count + n := by
  obtain ⟨haccepted, hafter⟩ :=
    @afterCalls_eq d (List.replicate n values) (by rwa [List.length_replicate])
  have hall : (List.replicate n values).filter (Suits d.vars ·) = List.replicate n values :=
    List.filter_eq_self.2 fun call hcall ↦ by simpa [List.eq_of_mem_replicate hcall] using h
  rw [hafter, haccepted, hall, List.length_replicate]

/-! ### The refused call -/

/-- **What the refusal of a case means**: `d'` is the draft `d` after it. -/
structure IsRefusal (d : Draft) (values : List Value) (fault : Fault) (d' : Draft) : Prop where
  /-- The case is not counted. -/
  count_eq : d'.count = d.count
  /-- The bytes written so far are the same, except if there are too many cases. -/
  bytes_eq_iff : d'.bytes = d.bytes ↔ fault ≠ .tooManyCases
  /-- But for that exception, nothing is changed at all. -/
  eq_of_ne : fault ≠ .tooManyCases → d' = d
  /-- There are too many cases just if nothing is wrong with the values, and no case is left to
  count. -/
  tooManyCases_iff : fault = .tooManyCases ↔ Suits d.vars values ∧ d.count = maxCases
  /-- The bytes of the refused case are then written behind those that are there. -/
  bytes_eq_append : fault = .tooManyCases → d'.bytes = d.bytes ++ caseBytes d.vars values

/-- **A refused case leaves the draft as it is**, unless it is one case too many: whatever calls
come before it, accepted or refused. -/
theorem isRefusal_of_refused {info : FileInfo} {vars : List Variable} {first d' : Draft}
    (hstart : start info vars = .ok first) (calls : List (List Value)) {values : List Value}
    {fault : Fault} (h : (first.afterCalls calls).addCase values = (.error fault, d')) :
    IsRefusal (first.afterCalls calls) values fault d' := by
  obtain ⟨hne, -, rfl⟩ := start_eq_ok_iff.mp hstart
  generalize hd : afterCalls _ calls = d at h
  have hvars : d.vars ≠ [] := by rwa [← hd, vars_afterCalls]
  have hcount : d.count ≤ maxCases := hd ▸ count_afterCalls_le (Nat.zero_le _) calls
  by_cases hvalues : Suits d.vars values
  · have hfull : d.count = maxCases := by
      by_contra hleft
      rw [addCase_of_suits hvalues (Nat.lt_of_le_of_ne hcount hleft)] at h
      cases h
    rw [addCase_of_full hvalues hfull.ge] at h
    cases h
    -- the new bytes stand behind the others, and are some
    have hbytes : bytes { d with written := caseBytes d.vars values :: d.written } =
        d.bytes ++ caseBytes d.vars values := by
      simp [bytes, List.append_assoc]
    exact ⟨rfl, by simp [hbytes, caseBytes_ne_nil hvalues hvars], fun hne ↦ absurd rfl hne,
      iff_of_true rfl ⟨hvalues, hfull⟩, fun _ ↦ hbytes⟩
  · obtain ⟨fault', hfault, hstep⟩ := addCase_of_not_suits hvalues
    rw [hstep] at h
    cases h
    exact ⟨rfl, iff_of_true rfl hfault, fun _ ↦ rfl,
      iff_of_false hfault fun hfull ↦ hvalues hfull.1, fun heq ↦ absurd heq hfault⟩

/-- After as many cases as can be counted, the bytes of one more are written although it is
refused. -/
theorem isRefusal_visitVars : ∃ d d', start ⟨none, .midnight Value.gregorianEve⟩ visitVars = .ok d ∧
    Suits visitVars visitCalls[0] ∧
    (d.afterCalls (List.replicate maxCases visitCalls[0])).addCase visitCalls[0] =
      (.error .tooManyCases, d') ∧
    d'.count = 2147483647 ∧
    d'.bytes = (d.afterCalls (List.replicate maxCases visitCalls[0])).bytes ++
      caseBytes visitVars visitCalls[0] ∧
    d'.bytes ≠ (d.afterCalls (List.replicate maxCases visitCalls[0])).bytes := by
  obtain ⟨d, hd⟩ : ∃ d, start ⟨none, .midnight Value.gregorianEve⟩ visitVars = .ok d :=
    ⟨_, start_eq_ok_iff.mpr ⟨by decide, rfl, rfl⟩⟩
  obtain ⟨-, -, hstarted⟩ := start_eq_ok_iff.mp hd
  have hcount : d.count = 0 := congrArg Draft.count hstarted
  have hvalues : Suits visitVars visitCalls[0] := by decide
  generalize hcalls : List.replicate maxCases visitCalls[0] = calls
  have hvars : (d.afterCalls calls).vars = visitVars :=
    (vars_afterCalls d calls).trans (congrArg Draft.vars hstarted)
  have hfull : (d.afterCalls calls).count = maxCases := by
    rw [← hcalls, count_afterCalls_replicate (by rwa [hstarted]) (by rw [hcount, Nat.zero_add]),
      hcount, Nat.zero_add]
  have hstep := addCase_of_full (hvars.symm ▸ hvalues) hfull.ge
  have hrefusal := isRefusal_of_refused hd calls hstep
  refine ⟨d, _, hd, hvalues, hstep, hrefusal.count_eq.trans hfull, ?_, ?_⟩
  · rw [hrefusal.bytes_eq_append rfl, hvars]
  · exact fun hbytes ↦ hrefusal.bytes_eq_iff.1 hbytes rfl

end Draft

end SurveyExport.SystemFile
