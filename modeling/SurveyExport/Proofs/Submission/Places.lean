import SurveyExport.KeyEscape
import SurveyExport.Submission.Basic

/-!
# Places in a submission

An instance of a repeated group is found in a submission by its place: from outside in, the position
of an answer in the record around the instance, and the position of the instance in that answer. The
place of the submission itself is empty. `Record.at?` follows a place and gives the section of the
record there, as the key of the last answer names it, together with the record.

A record is empty or begins with an answer, and an answer that is a list of instances holds records;
`Record.induction` is the induction that goes with it.
-/

namespace SurveyExport

/-- A place in a submission: positions of answers and of instances in them, from outside in. -/
abbrev Place := List (Nat × Nat)

namespace Record

/-- Induction on a record, with a hypothesis for the records that its first answer holds. -/
@[elab_as_elim]
theorem induction {P : Record → Prop} (nil : P [])
    (instances : ∀ key records rest, (∀ i ∈ records, P i) → P rest →
      P ((key, .instances records) :: rest))
    (answer : ∀ key a rest, (∀ records, a ≠ .instances records) → P rest →
      P ((key, a) :: rest)) : ∀ r : Record, P r
  | [] => nil
  | (key, .instances records) :: rest =>
    instances key records rest (fun i _ ↦ induction nil instances answer i)
      (induction nil instances answer rest)
  | (key, .scalar value) :: rest =>
    answer key _ rest (fun _ ↦ nofun) (induction nil instances answer rest)
  | (key, .list values) :: rest =>
    answer key _ rest (fun _ ↦ nofun) (induction nil instances answer rest)
  | (key, .tags texts) :: rest =>
    answer key _ rest (fun _ ↦ nofun) (induction nil instances answer rest)
  | (key, .notes texts) :: rest =>
    answer key _ rest (fun _ ↦ nofun) (induction nil instances answer rest)
  | (key, .attachments files) :: rest =>
    answer key _ rest (fun _ ↦ nofun) (induction nil instances answer rest)
termination_by r => sizeOf r
decreasing_by
  all_goals simp only [List.cons.sizeOf_spec, Prod.mk.sizeOf_spec, Answer.instances.sizeOf_spec]
  case _ h => have := List.sizeOf_lt_of_mem h; omega
  all_goals omega

/-- Induction on the depth of a record: from all instances in its answers to the record. -/
@[elab_as_elim]
theorem instance_induction {P : Record → Prop} (record : ∀ r : Record,
      (∀ key records, (key, .instances records) ∈ r → ∀ i ∈ records, P i) → P r) (r : Record) :
    P r := by
  refine record r ?_
  induction r using induction with
  | nil => exact fun key records h ↦ absurd h List.not_mem_nil
  | instances key records rest ihi ihr =>
    intro key' records' h i hi
    rcases List.mem_cons.1 h with heq | h
    · obtain ⟨-, hrecords⟩ := Prod.mk.inj heq
      obtain rfl := Answer.instances.inj hrecords
      exact record i (ihi i hi)
    · exact ihr key' records' h i hi
  | answer key a rest hne ih =>
    intro key' records' h i hi
    rcases List.mem_cons.1 h with heq | h
    · exact absurd (Prod.mk.inj heq).2.symm (hne records')
    · exact ih key' records' h i hi

/-- The instance at one step into a record, with the section that its key names. -/
def child? (r : Record) (step : Nat × Nat) : Option (String × Record) :=
  match r[step.1]? with
  | some (key, .instances records) =>
    records[step.2]?.map fun i ↦ (KeyEscape.decode key, i)
  | _ => none

/-- The section and the record at a place of a record of the section `s`. -/
def at? (s : String) (r : Record) : Place → Option (String × Record)
  | [] => some (s, r)
  | step :: rest => (r.child? step).bind fun c ↦ at? c.1 c.2 rest

theorem at?_cons (s : String) (r : Record) (step : Nat × Nat) (rest : Place) :
    r.at? s (step :: rest) = (r.child? step).bind fun c ↦ c.2.at? c.1 rest := rfl

/-- A longer place is followed from where the shorter one ends. -/
theorem at?_append (s : String) (r : Record) (p p' : Place) :
    r.at? s (p ++ p') = (r.at? s p).bind fun c ↦ c.2.at? c.1 p' := by
  induction p generalizing s r with
  | nil => rfl
  | cons step rest ih =>
    rw [List.cons_append, at?_cons, at?_cons]
    cases r.child? step with
    | none => rfl
    | some c => exact ih c.1 c.2

/-- One step further from a record is an instance directly in it. -/
theorem at?_concat_eq_some_iff {s : String} {r : Record} {place : Place} {step : Nat × Nat}
    {c : String × Record} : r.at? s (place ++ [step]) = some c ↔
      ∃ b, r.at? s place = some b ∧ b.2.child? step = some c := by
  have hone : ∀ b : String × Record, b.2.at? b.1 [step] = b.2.child? step := by
    intro b
    rw [at?_cons]
    cases b.2.child? step <;> rfl
  rw [at?_append, Option.bind_eq_some_iff]
  simp only [hone]

/-- A child is an instance that an answer holds. -/
theorem child?_eq_some_iff {r : Record} {step : Nat × Nat} {c : String × Record} :
    r.child? step = some c ↔ ∃ key records, r[step.1]? = some (key, .instances records) ∧
      records[step.2]? = some c.2 ∧ c.1 = KeyEscape.decode key := by
  obtain ⟨s, i⟩ := c
  simp only [child?]
  split
  · rename_i key records hkey
    rw [hkey]
    simp only [Option.map_eq_some_iff, Prod.mk.injEq, Option.some.injEq, Answer.instances.injEq]
    constructor
    · rintro ⟨i', hi, rfl, rfl⟩
      exact ⟨key, records, ⟨rfl, rfl⟩, hi, rfl⟩
    · rintro ⟨key', records', ⟨rfl, rfl⟩, hi, rfl⟩
      exact ⟨i, hi, rfl, rfl⟩
  · rename_i hne
    constructor
    · rintro ⟨⟩
    · rintro ⟨key, records, hkey, -⟩
      exact absurd hkey (hne key records)

/-- An instance that an answer holds is a child. -/
theorem exists_child?_of_mem {r : Record} {key : String} {records : List Record} {i : Record}
    (h : (key, .instances records) ∈ r) (hi : i ∈ records) :
    ∃ step, r.child? step = some (KeyEscape.decode key, i) := by
  obtain ⟨pos, hpos⟩ := List.mem_iff_getElem?.1 h
  obtain ⟨n, hn⟩ := List.mem_iff_getElem?.1 hi
  exact ⟨(pos, n), child?_eq_some_iff.2 ⟨key, records, hpos, hn, rfl⟩⟩

/-! ### What holds at every place -/

/-- What holds of a record of the section `name` and of every instance inside it, each with its
section. -/
def EveryLevel (P : String → Record → Prop) (name : String) (r : Record) : Prop :=
  ∀ place s i, r.at? name place = some (s, i) → P s i

/-- What holds at every place holds of the record and at every place of the instances in it. -/
theorem everyLevel_iff {P : String → Record → Prop} {name : String} {r : Record} :
    r.EveryLevel P name ↔ P name r ∧ ∀ key records, (key, .instances records) ∈ r →
      ∀ i ∈ records, EveryLevel P (KeyEscape.decode key) i := by
  constructor
  · intro h
    refine ⟨h [] name r rfl, fun key records hkey i hi place s j hj ↦ ?_⟩
    obtain ⟨step, hstep⟩ := exists_child?_of_mem hkey hi
    refine h (step :: place) s j ?_
    rw [at?_cons, hstep]
    exact hj
  · rintro ⟨hself, hinside⟩ place s i hi
    cases place with
    | nil =>
      obtain ⟨rfl, rfl⟩ := Prod.mk.inj (Option.some.inj hi)
      exact hself
    | cons step rest =>
      rw [at?_cons] at hi
      obtain ⟨c, hc, hat⟩ := Option.bind_eq_some_iff.1 hi
      obtain ⟨key, records, hkey, hrecords, hname⟩ := child?_eq_some_iff.1 hc
      rw [hname] at hat
      exact hinside key records (List.mem_of_getElem? hkey) c.2 (List.mem_of_getElem? hrecords)
        rest s i hat

/-- What holds of every answer of a record of the section `name` and of every instance inside. -/
def EveryAnswer (P : String → String → Answer → Prop) (name : String) (r : Record) : Prop :=
  r.EveryLevel (fun s i ↦ ∀ e ∈ i, P s e.1 e.2) name

theorem everyAnswer_iff {P : String → String → Answer → Prop} {name : String} {r : Record} :
    r.EveryAnswer P name ↔ ∀ e ∈ r, P name e.1 e.2 ∧
      ∀ records, e.2 = .instances records → ∀ i ∈ records,
        EveryAnswer P (KeyEscape.decode e.1) i := by
  rw [EveryAnswer, everyLevel_iff]
  constructor
  · rintro ⟨hself, hinside⟩ ⟨key, answer⟩ he
    refine ⟨hself _ he, fun records hrecords ↦ hinside key records ?_⟩
    obtain rfl : answer = .instances records := hrecords
    exact he
  · intro h
    exact ⟨fun e he ↦ (h e he).1, fun key records hkey ↦ (h _ hkey).2 records rfl⟩

@[simp] theorem everyAnswer_nil {P : String → String → Answer → Prop} {name : String} :
    EveryAnswer P name [] :=
  everyAnswer_iff.2 fun _ he ↦ absurd he List.not_mem_nil

theorem everyAnswer_cons {P : String → String → Answer → Prop} {name key : String} {a : Answer}
    {rest : Record} : EveryAnswer P name ((key, a) :: rest) ↔
      (P name key a ∧ ∀ records, a = .instances records → ∀ i ∈ records,
        EveryAnswer P (KeyEscape.decode key) i) ∧ EveryAnswer P name rest := by
  rw [everyAnswer_iff, everyAnswer_iff (r := rest), List.forall_mem_cons]

end Record

end SurveyExport
