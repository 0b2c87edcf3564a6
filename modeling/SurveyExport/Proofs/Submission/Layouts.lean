import SurveyExport.Proofs.Json.Writing
import SurveyExport.Proofs.Submission.Lines

/-!
# The two layouts of a data file

A data file holds its submissions as the items of one JSON array, written in any way, or as compact
objects on lines of their own, with blank lines anywhere (`DataFile.HoldsOnLines`). Both layouts
give the same results for the same objects, numbered from one on. And in the second layout, whatever
stands on the lines, each line that is not blank gives one result, which no other line has a part
in. Both are said in `DataFile.layouts_agree_and_lines_stand_alone`.
-/

namespace SurveyExport.DataFile

/-! ### Objects on lines -/

/-- The end of a line: a line feed, which a carriage return may precede. -/
inductive IsLineEnd : List Char → Prop
  | feed : IsLineEnd ['\n']
  | returnFeed : IsLineEnd ['\r', '\n']

/-- A line of blank characters only. -/
def IsBlankLine (line : List Char) : Prop := ∀ c ∈ line, Text.isBlank c = true ∧ c ≠ '\n'

/-- A text holds objects in order, each in compact form on a line of its own. Any of its lines may
be blank, and the last one may lack its end. -/
inductive HoldsOnLines : List Json → List Char → Prop
  | last {line : List Char} (hline : IsBlankLine line) : HoldsOnLines [] line
  | lastObject {v : Json} {line : List Char} (hline : Json.Spells Json.IsEmpty v.tokens line) :
    HoldsOnLines [v] line
  | blank {vs : List Json} {line e rest : List Char} (hline : IsBlankLine line) (he : IsLineEnd e)
    (hrest : HoldsOnLines vs rest) : HoldsOnLines vs (line ++ (e ++ rest))
  | object {v : Json} {vs : List Json} {line e rest : List Char}
    (hline : Json.Spells Json.IsEmpty v.tokens line) (he : IsLineEnd e)
    (hrest : HoldsOnLines vs rest) : HoldsOnLines (v :: vs) (line ++ (e ++ rest))

theorem IsBlankLine.trim_isEmpty {line : List Char} (h : IsBlankLine line) :
    (Text.trim (String.ofList line)).isEmpty = true :=
  trim_ofList_isEmpty_iff.2 fun c hc ↦ (h c hc).1

theorem IsBlankLine.newline_not_mem {line : List Char} (h : IsBlankLine line) : '\n' ∉ line :=
  fun hmem ↦ (h '\n' hmem).2 rfl

theorem beq_newline_of_not_mem {line : List Char} (h : '\n' ∉ line) :
    ∀ c ∈ line, (c == '\n') = false := by
  intro c hc
  rw [beq_eq_false_iff_ne]
  rintro rfl
  exact h hc

/-- A line with its end in front of other lines. -/
theorem IsLineEnd.results_eq {e : List Char} (he : IsLineEnd e) {line : List Char}
    (hline : '\n' ∉ line) (n : Nat) (rest : List Char) :
    results n (Text.pieces (· == '\n') (line ++ (e ++ rest))) =
      if (Text.trim (String.ofList line)).isEmpty then results n (Text.pieces (· == '\n') rest)
      else resultOf n (String.ofList line) ::
        results (n + 1) (Text.pieces (· == '\n') rest) := by
  have hfeed (line : List Char) (hline : '\n' ∉ line) :
      Text.pieces (· == '\n') (line ++ '\n' :: rest) = line :: Text.pieces (· == '\n') rest :=
    Text.pieces_append_cons (beq_newline_of_not_mem hline) (beq_self_eq_true '\n') rest
  cases he with
  | feed => rw [List.singleton_append, hfeed line hline, results_cons]
  | returnFeed =>
    have hline' : '\n' ∉ line ++ ['\r'] := by simp [hline]
    have hend : line ++ (['\r', '\n'] ++ rest) = (line ++ ['\r']) ++ '\n' :: rest := by simp
    rw [hend, hfeed _ hline', results_cons, trim_append_return_isEmpty, resultOf_append_return]

/-- A line that spells an object gives its record. -/
theorem resultOf_of_spells {v : Json} {line : List Char}
    (h : Json.Spells Json.IsSpace v.tokens line) (hdepth : v.depth ≤ Json.maxDepth) (n : Nat) :
    resultOf n (String.ofList line) = Record.ofJson n v := by
  have hread : Json.read? (String.ofList line) = some v :=
    Json.read?_of_spells (by rwa [String.toList_ofList]) hdepth
  rw [resultOf, hread]

theorem trim_isEmpty_of_object {v : Json} (hv : v.isObject = true) {line : List Char}
    (h : Json.Spells Json.IsEmpty v.tokens line) :
    (Text.trim (String.ofList line)).isEmpty = false := by
  obtain ⟨rest, rfl⟩ := h.exists_eq_brace_cons hv
  rw [← Bool.not_eq_true, trim_ofList_isEmpty_iff]
  intro hblank
  exact absurd (hblank '{' List.mem_cons_self) (by decide)

/-- **Objects on lines are read in order**, and blank lines do not count. -/
theorem HoldsOnLines.results_eq {vs : List Json} {cs : List Char} (h : HoldsOnLines vs cs)
    (hvs : ∀ v ∈ vs, v.isObject = true ∧ v.depth ≤ Json.maxDepth) (n : Nat) :
    results n (Text.pieces (· == '\n') cs) =
      (vs.zipIdx n).map fun e ↦ Record.ofJson e.2 e.1 := by
  have hsingle (line : List Char) (hline : '\n' ∉ line) :
      Text.pieces (· == '\n') line = [line] :=
    Text.pieces_eq_singleton (beq_newline_of_not_mem hline)
  induction h generalizing n with
  | last hline =>
    rw [hsingle _ hline.newline_not_mem, results_cons, if_pos hline.trim_isEmpty]
    rfl
  | lastObject hline =>
    obtain ⟨hv, hdepth⟩ := hvs _ List.mem_cons_self
    rw [hsingle _ hline.newline_not_mem, results_cons, trim_isEmpty_of_object hv hline,
      resultOf_of_spells hline.isSpace hdepth]
    rfl
  | blank hline he _ ih =>
    rw [he.results_eq hline.newline_not_mem, if_pos hline.trim_isEmpty, ih hvs]
  | object hline he _ ih =>
    obtain ⟨⟨hv, hdepth⟩, hrest⟩ := List.forall_mem_cons.1 hvs
    rw [he.results_eq hline.newline_not_mem, trim_isEmpty_of_object hv hline,
      if_neg Bool.false_ne_true, resultOf_of_spells hline.isSpace hdepth, ih hrest]
    rfl

/-- What is left of objects on lines without white space in front are the same objects on lines. -/
theorem HoldsOnLines.dropWhile {vs : List Json} {cs : List Char} (h : HoldsOnLines vs cs)
    (hvs : ∀ v ∈ vs, v.isObject = true) :
    HoldsOnLines vs (cs.dropWhile isSpaceInFront) := by
  have hblank {line : List Char} (hline : IsBlankLine line) :
      IsBlankLine (line.dropWhile isSpaceInFront) := fun c hc ↦
    hline c ((List.dropWhile_suffix _).subset hc)
  induction h with
  | last hline => exact .last (hblank hline)
  | lastObject hline =>
    obtain ⟨rest, rfl⟩ := hline.exists_eq_brace_cons (hvs _ List.mem_cons_self)
    exact .lastObject hline
  | @blank vs line e rest hline he _ ih =>
    rw [List.dropWhile_append]
    split
    · -- the whole line is dropped, and so is its end
      cases he <;> exact ih hvs
    · exact .blank (hblank hline) he ‹_›
  | object hline he hrest _ =>
    obtain ⟨rest, rfl⟩ := hline.exists_eq_brace_cons (hvs _ List.mem_cons_self)
    exact .object hline he hrest

/-- Objects on lines do not begin as an array does. -/
theorem HoldsOnLines.head?_ne {vs : List Json} {cs : List Char} (h : HoldsOnLines vs cs)
    (hvs : ∀ v ∈ vs, v.isObject = true) : cs.head? ≠ some '[' := by
  have hblank {line : List Char} (hline : IsBlankLine line) : line.head? ≠ some '[' := fun heq ↦
    absurd (hline '[' (List.mem_of_head? heq)).1 (by decide)
  cases h with
  | last hline => exact hblank hline
  | lastObject hline =>
    obtain ⟨rest, rfl⟩ := hline.exists_eq_brace_cons (hvs _ List.mem_cons_self)
    simp
  | @blank vs line e rest hline he _ =>
    cases line with
    | nil => cases he <;> simp
    | cons c line => simpa using hblank hline
  | object hline he _ =>
    obtain ⟨rest, rfl⟩ := hline.exists_eq_brace_cons (hvs _ List.mem_cons_self)
    simp

/-! ### Both layouts -/

theorem readFrom_eq (n : Nat) (vs : List Json) :
    readFrom n vs = (vs.zipIdx n).map fun e ↦ Record.ofJson e.2 e.1 := by
  induction vs generalizing n with
  | nil => rfl
  | cons v rest ih => rw [readFrom, ih, List.zipIdx_cons, List.map_cons]

/-- The text of an array is opened as its items. -/
theorem ofBytes_of_spells_array {vs : List Json} {cs : List Char}
    (h : Json.Spells Json.IsSpace (Json.array vs).tokens cs)
    (hdepth : (Json.array vs).depth ≤ Json.maxDepth) :
    ofBytes (Text.encode cs) = .ok (ofValues vs) := by
  obtain ⟨g, rest, hgap, rfl, hrest⟩ := h.exists_eq_bracket_cons
  have hspace : ∀ c ∈ g, isSpaceInFront c = true := by
    intro c hc
    rcases hgap c hc with rfl | rfl | rfl | rfl <;> rfl
  have hdrop : (g ++ '[' :: rest).dropWhile isSpaceInFront = '[' :: rest := by
    rw [List.dropWhile_append_of_pos hspace]
    rfl
  have hread : Json.read? (String.ofList ('[' :: rest)) = some (.array vs) :=
    Json.read?_of_spells (by rwa [String.toList_ofList]) hdepth
  exact ofBytes_of_array hdrop hread

/-- Objects on lines are opened in order. -/
theorem ofBytes_of_holdsOnLines {vs : List Json} {cs : List Char} (h : HoldsOnLines vs cs)
    (hvs : ∀ v ∈ vs, v.isObject = true ∧ v.depth ≤ Json.maxDepth) :
    ofBytes (Text.encode cs) = .ok ⟨none, readFrom 1 vs⟩ := by
  have hdrop := h.dropWhile fun v hv ↦ (hvs v hv).1
  rw [ofBytes_of_lines (hdrop.head?_ne fun v hv ↦ (hvs v hv).1), hdrop.results_eq hvs,
    readFrom_eq]

/-- **The layout of a data file makes no difference, and its lines stand alone.** The same objects,
as the items of one array or compact on lines of their own, are read as the same results, numbered
from one on. And a text that is not one array gives one result for each line that is not blank, in
order; it is determined by the line and its number alone. -/
theorem layouts_agree_and_lines_stand_alone :
    (∀ (vs : List Json) (array lines : String),
      (∀ v ∈ vs, v.isObject = true ∧ v.depth < Json.maxDepth) →
      Json.Spells Json.IsSpace (Json.array vs).tokens array.toList →
      HoldsOnLines vs lines.toList →
      ∃ results, results = ((vs.zipIdx 1).map fun e ↦ Record.ofJson e.2 e.1) ∧
        ofBytes (Text.bytes array) = .ok ⟨some vs.length, results⟩ ∧
        ofBytes (Text.bytes lines) = .ok ⟨none, results⟩) ∧
    ∀ text : String, '\x0c' ∉ text.toList →
      (text.toList.dropWhile isSpaceInFront).head? ≠ some '[' →
      ofBytes (Text.bytes text) =
        .ok ⟨none, ((nonBlankLines text).zipIdx 1).map fun e ↦ resultOf e.2 e.1⟩ := by
  refine ⟨fun vs array lines hvs harray hlines ↦ ?_, fun text ↦ ofBytes_eq_map_resultOf⟩
  have hdepth : (Json.array vs).depth ≤ Json.maxDepth :=
    Json.depthOfItems_lt (by decide) fun v hv ↦ (hvs v hv).2
  have hobjects : ∀ v ∈ vs, v.isObject = true ∧ v.depth ≤ Json.maxDepth := fun v hv ↦
    ⟨(hvs v hv).1, Nat.le_of_lt (hvs v hv).2⟩
  refine ⟨_, rfl, ?_, ?_⟩
  · rw [Text.bytes_eq_encode, ofBytes_of_spells_array harray hdepth, ofValues, readFrom_eq]
  · rw [Text.bytes_eq_encode, ofBytes_of_holdsOnLines hlines hobjects, readFrom_eq]

/-- Two households, one of which has a member. -/
def households : List Json := [
  .object [("id", .int 1), ("members", .array [.object [("name", .text "A\u00efda\n")]])],
  .object [("id", .int 2)]]

/-- The households in one array. -/
def householdArray : String :=
  "[\x7b\"id\":1,\"members\":[\x7b\"name\":\"A\u00efda\\n\"\x7d]\x7d,\x7b\"id\":2\x7d]"

/-- The households on lines, between blank lines. -/
def householdLines : String :=
  "\n\x7b\"id\":1,\"members\":[\x7b\"name\":\"A\u00efda\\n\"\x7d]\x7d\r\n \x0c\n\x7b\"id\":2\x7d"

theorem layouts_agree_and_lines_stand_alone_households :
    (∃ results, results = [Record.ofJson 1 households[0], Record.ofJson 2 households[1]] ∧
      ofBytes (Text.bytes householdArray) = .ok ⟨some 2, results⟩ ∧
      ofBytes (Text.bytes householdLines) = .ok ⟨none, results⟩) ∧
    ofBytes (Text.bytes " \n\x7b\"id\":1\x7d\r\nno json\n\n\x7b\"id\":2\x7d") =
      .ok ⟨none, [resultOf 1 "\x7b\"id\":1\x7d\r", .error ⟨2, .notJson⟩,
        resultOf 3 "\x7b\"id\":2\x7d"]⟩ := by
  have hint (n : Int) (h : n = 1 ∨ n = 2) : Json.Rewritable (.int n) := by
    rcases h with rfl | rfl <;> exact .int (by rfl)
  have hrewritable : ∀ v ∈ households, Json.Rewritable v := by
    simp [households, Json.rewritable_object_iff, Json.rewritable_array_iff, hint,
      Json.Rewritable.text]
  have hobjects : ∀ v ∈ households, v.isObject = true ∧ v.depth < Json.maxDepth := by decide
  have harray : Json.Spells Json.IsSpace (Json.array households).tokens householdArray.toList := by
    have hwrite : householdArray = (Json.array households).write := by decide +kernel
    rw [hwrite]
    exact (Json.spells_write (.array hrewritable)).isSpace
  have hlines : HoldsOnLines households householdLines.toList := by
    have hcut : householdLines.toList = [] ++ (['\n'] ++ (households[0].write.toList ++
        (['\r', '\n'] ++ ([' ', '\x0c'] ++ (['\n'] ++ households[1].write.toList))))) := by
      decide +kernel
    have hempty : IsBlankLine [] := List.forall_mem_nil _
    have hblank : IsBlankLine [' ', '\x0c'] :=
      List.forall_mem_cons.2 ⟨by decide, List.forall_mem_singleton.2 (by decide)⟩
    have hfirst := Json.spells_write (hrewritable households[0] (by simp))
    have hsecond := Json.spells_write (hrewritable households[1] (by simp))
    rw [hcut]
    exact .blank hempty .feed
      (.object hfirst .returnFeed (.blank hblank .feed (.lastObject hsecond)))
  obtain ⟨hlayouts, halone⟩ := layouts_agree_and_lines_stand_alone
  refine ⟨hlayouts households householdArray householdLines hobjects harray hlines, ?_⟩
  have hlines : nonBlankLines " \n\x7b\"id\":1\x7d\r\nno json\n\n\x7b\"id\":2\x7d" =
      ["\x7b\"id\":1\x7d\r", "no json", "\x7b\"id\":2\x7d"] := by decide +kernel
  rw [halone _ (by decide +kernel) (by decide +kernel), hlines]
  have hbad : resultOf 2 "no json" = .error ⟨2, .notJson⟩ := by rfl
  rw [← hbad]
  rfl

end SurveyExport.DataFile
