import SurveyExport.Csv

/-!
# Reading comma-separated values

A reader for quoted tables, written without regard to how they are made, and the proof that it reads
back every table.

The reader goes through a text once, from left to right. Its state is the place in the current field
(`Place`), what has been read of the field and of the record, and the records that are complete. A
comma ends a field, and either character of a line break ends a record, unless they are between
quotes; between quotes two quotes stand for one. An empty line is no record. A text is refused if
quotes stand in the middle of a field that does not begin with them, or are not closed.

What is written for a field leads the reader to a place from which the comma or the line break
behind it ends the field (`Reader.exists_feed_fieldChars`). From there it is one induction on the
fields of a record, and one on the records of a table.

* `Csv.read?_table`: a table reads back as its records.
-/

namespace SurveyExport.Csv

/-- Where a reader stands in a field. -/
inductive Place where
  /-- Nothing of the field has been read. -/
  | start
  /-- In a field without quotes around it. -/
  | bare
  /-- Between quotes. -/
  | quoted
  /-- Behind a quote that ends the field, or is the first of two. -/
  | closed
deriving DecidableEq, Repr

/-- A reader in the middle of a text. -/
structure Reader where
  place : Place
  /-- The characters of the current field. -/
  field : List Char
  /-- The fields before it in the current record. -/
  fields : List String
  /-- The records before the current one. -/
  records : List (List String)
deriving DecidableEq, Repr

namespace Reader

/-- Takes a character into the current field. -/
def push (r : Reader) (place : Place) (c : Char) : Reader :=
  { r with place, field := r.field ++ [c] }

/-- Ends the current field. -/
def endField (r : Reader) : Reader :=
  ⟨.start, [], r.fields ++ [String.ofList r.field], r.records⟩

/-- Ends the current record, unless nothing of it has been read. -/
def endRecord (r : Reader) : Reader :=
  if r.place = .start ∧ r.fields = [] then r
  else ⟨.start, [], [], r.records ++ [r.fields ++ [String.ofList r.field]]⟩

/-- Reads one character. -/
def step (r : Reader) (c : Char) : Option Reader :=
  if r.place = .quoted then
    some (if c = '"' then { r with place := .closed } else r.push .quoted c)
  else if c = ',' then some r.endField
  else if c = '\n' ∨ c = '\r' then some r.endRecord
  else if c = '"' then
    match r.place with
    | .start => some { r with place := .quoted }
    | .closed => some (r.push .quoted c)
    | _ => none
  else if r.place = .closed then none
  else some (r.push .bare c)

/-- Reads characters one after the other. -/
def feed (r : Reader) (cs : List Char) : Option Reader := cs.foldlM step r

/-- The records that were read; a last record may end with the text. -/
def finish? (r : Reader) : Option (List (List String)) :=
  if r.place = .quoted then none else some r.endRecord.records

end Reader

/-- The records of a text. -/
def read? (s : String) : Option (List (List String)) :=
  ((⟨.start, [], [], []⟩ : Reader).feed s.toList).bind Reader.finish?

namespace Reader

variable {fs : List String} {rs : List (List String)}

@[simp] theorem feed_nil (r : Reader) : r.feed [] = some r := rfl

@[simp] theorem feed_cons (r : Reader) (c : Char) (cs : List Char) :
    r.feed (c :: cs) = (r.step c).bind fun r' ↦ r'.feed cs := List.foldlM_cons

/-- A text is read part by part. -/
theorem feed_append (r : Reader) (cs ds : List Char) :
    r.feed (cs ++ ds) = (r.feed cs).bind fun r' ↦ r'.feed ds := List.foldlM_append

/-! ### Fields -/

/-- Between quotes, a text with its quotes doubled is read as it is. -/
theorem feed_doubled (f cs : List Char) :
    feed ⟨.quoted, f, fs, rs⟩ (doubled cs) = some ⟨.quoted, f ++ cs, fs, rs⟩ := by
  induction cs generalizing f with
  | nil => simp [doubled]
  | cons c cs ih =>
    have ih' := ih (f ++ [c])
    by_cases hc : c = '"'
    · subst hc
      simpa [doubled, step, push] using ih'
    · simpa [doubled, step, push, hc] using ih'

theorem needsQuotes_eq_false_iff {c : Char} :
    needsQuotes c = false ↔ c ≠ ',' ∧ c ≠ '"' ∧ c ≠ '\r' ∧ c ≠ '\n' := by
  simp [needsQuotes, and_assoc]

/-- Outside quotes, a text without special characters is read as it is. -/
theorem feed_bare (f : List Char) {cs : List Char} (h : ∀ c ∈ cs, needsQuotes c = false) :
    feed ⟨.bare, f, fs, rs⟩ cs = some ⟨.bare, f ++ cs, fs, rs⟩ := by
  induction cs generalizing f with
  | nil => simp
  | cons c cs ih =>
    obtain ⟨hc, hcs⟩ := List.forall_mem_cons.1 h
    simpa [step, push, needsQuotes_eq_false_iff.1 hc] using ih (f ++ [c]) hcs

/-- A field is read up to a place outside quotes, and nothing of it is at its start unless it is
empty. -/
theorem exists_feed_fieldChars (fs : List String) (rs : List (List String)) (cs : List Char) :
    ∃ place, place ≠ .quoted ∧
    (place = .start → cs = []) ∧
    feed ⟨.start, [], fs, rs⟩ (fieldChars cs) = some ⟨place, cs, fs, rs⟩ := by
  by_cases hquotes : cs.any needsQuotes
  · refine ⟨.closed, by decide, fun h ↦ absurd h (by decide), ?_⟩
    have hopen : (⟨.start, [], fs, rs⟩ : Reader).step '"' = some ⟨.quoted, [], fs, rs⟩ := rfl
    have hclose : (⟨.quoted, cs, fs, rs⟩ : Reader).step '"' = some ⟨.closed, cs, fs, rs⟩ := rfl
    simp [fieldChars, hquotes, feed_append, feed_doubled, hopen, hclose]
  · have hplain : ∀ c ∈ cs, needsQuotes c = false := by simpa using hquotes
    rw [fieldChars_eq_self hplain]
    cases cs with
    | nil => exact ⟨.start, by decide, fun _ ↦ rfl, rfl⟩
    | cons c cs =>
      refine ⟨.bare, by decide, fun h ↦ absurd h (by decide), ?_⟩
      -- the first character leaves the start of the field, and the others follow outside quotes
      have hc := needsQuotes_eq_false_iff.1 (hplain c List.mem_cons_self)
      have hfirst : (⟨.start, [], fs, rs⟩ : Reader).feed (c :: cs) =
          (⟨.bare, [], fs, rs⟩ : Reader).feed (c :: cs) := by
        simp [step, push, hc]
      rw [hfirst, feed_bare [] hplain, List.nil_append]

/-! ### Records -/

theorem step_comma {place : Place} (h : place ≠ .quoted) (f : List Char) :
    step ⟨place, f, fs, rs⟩ ',' = some ⟨.start, [], fs ++ [String.ofList f], rs⟩ := by
  simp [step, endField, h]

theorem step_newline {place : Place} (h : place ≠ .quoted) (f : List Char)
    (hsome : place = .start → fs ≠ []) :
    step ⟨place, f, fs, rs⟩ '\n' = some ⟨.start, [], [], rs ++ [fs ++ [String.ofList f]]⟩ := by
  have hnonempty : ¬ (place = .start ∧ fs = []) := fun h ↦ hsome h.1 h.2
  simp [step, endRecord, h, hnonempty]

/-- Fields with commas between and a line break behind are read as a record, unless they are a
single empty one. -/
theorem feed_fields (x : String) (xs : List String) (h : fs = [] → xs = [] → x ≠ "") :
    feed ⟨.start, [], fs, rs⟩ ((Text.join "," ((x :: xs).map Csv.field)).toList ++ ['\n']) =
      some ⟨.start, [], [], rs ++ [fs ++ x :: xs]⟩ := by
  induction xs generalizing x fs with
  | nil =>
    obtain ⟨place, hplace, hstart, hfield⟩ := exists_feed_fieldChars fs rs x.toList
    have hsome : place = .start → fs ≠ [] := fun hp hfs ↦
      h hfs rfl (String.toList_eq_nil_iff.1 (hstart hp))
    simp [Text.join, Csv.field, feed_append, hfield, step_newline hplace _ hsome]
  | cons y ys ih =>
    obtain ⟨place, hplace, -, hfield⟩ := exists_feed_fieldChars fs rs x.toList
    have htext : (Text.join "," ((x :: y :: ys).map Csv.field)).toList =
        fieldChars x.toList ++ ',' :: (Text.join "," ((y :: ys).map Csv.field)).toList := by
      simp [Text.join, Csv.field, String.intercalate_cons_cons]
    have hrest := @ih (fs ++ [x]) y fun hfs ↦ by simp at hfs
    rw [htext, List.append_assoc, feed_append, hfield, Option.bind_some, List.cons_append,
      feed_cons, step_comma hplace, Option.bind_some, String.ofList_toList, hrest,
      List.append_assoc]
    rfl

/-- The fields that a record is read as; one without fields is read as a single empty field. -/
def readAs : List String → List String
  | [] => [""]
  | fields => fields

/-- A record is read between two records. -/
theorem feed_record (fields : List String) :
    feed ⟨.start, [], [], rs⟩ (record fields).toList =
      some ⟨.start, [], [], rs ++ [readAs fields]⟩ := by
  have hempty : feed ⟨.start, [], [], rs⟩ "\"\"\n".toList = some ⟨.start, [], [], rs ++ [[""]]⟩ :=
    rfl
  rw [record.eq_def]
  split
  · exact hempty
  · exact hempty
  · rename_i fields hnil hone
    obtain ⟨x, xs, rfl⟩ := List.exists_cons_of_ne_nil hnil
    rw [String.toList_append]
    exact feed_fields x xs fun _ hxs hx ↦ hone (by rw [hxs, hx])

/-- The records of a table are read one after the other. -/
theorem feed_table (records : List (List String)) :
    feed ⟨.start, [], [], rs⟩ (table records).toList =
      some ⟨.start, [], [], rs ++ records.map readAs⟩ := by
  induction records generalizing rs with
  | nil => simp [table, Text.join]
  | cons fields rest ih =>
    have htext : (table (fields :: rest)).toList =
        (record fields).toList ++ (table rest).toList := by
      cases rest <;> simp [table, Text.join, List.intercalate]
    rw [htext, feed_append, feed_record, Option.bind_some, ih, List.append_assoc]
    rfl

end Reader

/-- **A table reads back as its records.** -/
theorem read?_table (records : List (List String)) :
    read? (table records) = some (records.map Reader.readAs) := by
  rw [read?, Reader.feed_table, List.nil_append]
  rfl

example : read? "a,\"b, \"\"c\"\"\"\r\n\n\"\"\n" = some [["a", "b, \"c\""], [""]] := by decide

end SurveyExport.Csv
