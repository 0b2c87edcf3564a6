import SurveyExport.Proofs.Json.Spelling
import SurveyExport.Proofs.Text.Blank
import SurveyExport.Proofs.Text.Bytes
import SurveyExport.Submission.DataFile

/-!
# One submission on each line

The layout of one JSON value on each line is read from bytes with an accumulator. Here its lines are
those of the text, cut at line feeds, and what is read is said line by line: each line that is not
blank gives one result, which the line and its number alone determine (`DataFile.resultOf`).

A carriage return in front of a line feed is white space of JSON, so it makes no difference whether
it counts as part of the line (`DataFile.readLine?_endLine`).
-/

namespace SurveyExport.DataFile

open Text (encode)

/-- The lines of a text that are not blank, in order. -/
def nonBlankLines (text : String) : List String :=
  (Text.splitAt '\n' text).filter fun line ↦ !(Text.trim line).isEmpty

/-- What the submission with a number is, if it stands on a line. -/
def resultOf (ordinal : Nat) (line : String) : Except SubmissionError Record :=
  match Json.read? line with
  | none => .error ⟨ordinal, .notJson⟩
  | some v => Record.ofJson ordinal v

/-! ### A line -/

theorem textOf?_encode (cs : List Char) : textOf? (encode cs) = some (String.ofList cs) :=
  Text.fromUTF8?_encode cs

/-- A line is read as its characters. -/
theorem readLine?_encode (n : Nat) (cs : List Char) :
    readLine? n (encode cs) =
      if (Text.trim (String.ofList cs)).isEmpty then none
      else some (resultOf n (String.ofList cs)) := by
  simp only [readLine?, textOf?_encode, resultOf]
  split
  · rfl
  · cases Json.read? (String.ofList cs) <;> rfl

/-- A carriage return at the end of a line changes nothing of what is read. -/
theorem resultOf_append_return (n : Nat) (cs : List Char) :
    resultOf n (String.ofList (cs ++ ['\r'])) = resultOf n (String.ofList cs) := by
  simp only [resultOf, Json.read?, Json.readParts?, String.toList_ofList,
    Json.tokens?_append_space (c := '\r') (.inr (.inr (.inr rfl)))]

/-- White space of JSON at the front of a line changes nothing of what is read. -/
theorem resultOf_space_cons (n : Nat) {c : Char} (hc : Json.IsSpaceChar c) (cs : List Char) :
    resultOf n (String.ofList (c :: cs)) = resultOf n (String.ofList cs) := by
  have hgap : Json.IsSpace [c] := List.forall_mem_singleton.2 hc
  have htokens := Json.tokens?_space_append hgap cs
  rw [List.singleton_append] at htokens
  simp only [resultOf, Json.read?, Json.readParts?, String.toList_ofList, htokens]

theorem trim_ofList_isEmpty_iff {cs : List Char} :
    (Text.trim (String.ofList cs)).isEmpty = true ↔ ∀ c ∈ cs, Text.isBlank c = true := by
  rw [Text.trim_isEmpty_iff, String.toList_ofList]

/-- A carriage return at the end of a line does not change whether it is blank. -/
theorem trim_append_return_isEmpty (cs : List Char) :
    (Text.trim (String.ofList (cs ++ ['\r']))).isEmpty =
      (Text.trim (String.ofList cs)).isEmpty := by
  have hreturn : ∀ c ∈ ['\r'], Text.isBlank c = true := List.forall_mem_singleton.2 rfl
  rw [Bool.eq_iff_iff, trim_ofList_isEmpty_iff, trim_ofList_isEmpty_iff, List.forall_mem_append,
    and_iff_left hreturn]

/-- A line loses the carriage return at its end, if it has one. -/
theorem endLine_encode (cs : List Char) :
    endLine (encode cs).reverse = encode cs ∨
      ∃ ds, cs = ds ++ ['\r'] ∧ endLine (encode cs).reverse = encode ds := by
  cases hbytes : (encode cs).reverse with
  | nil =>
    rw [List.reverse_eq_nil_iff.1 hbytes]
    exact .inl rfl
  | cons b bs =>
    rw [endLine.eq_def]
    split
    · rename_i line heq
      obtain ⟨rfl, rfl⟩ := List.cons.inj heq
      rcases List.eq_nil_or_concat cs with rfl | ⟨ds, d, rfl⟩
      · cases hbytes
      · rw [List.concat_eq_append] at hbytes ⊢
        -- the byte is all of the last character
        obtain rfl : d = '\r' := Text.eq_of_reverse_encode_eq_cons hbytes (by decide)
        have hreturn : (encode (ds ++ ['\r'])).reverse = 13 :: (encode ds).reverse := by
          rw [Text.encode_append, List.reverse_append]
          rfl
        obtain rfl := (List.cons.inj (hbytes.symm.trans hreturn)).2
        exact .inr ⟨ds, rfl, List.reverse_reverse _⟩
    · exact .inl (by rw [← hbytes, List.reverse_reverse])

/-- The carriage return at the end of a line makes no difference. -/
theorem readLine?_endLine (n : Nat) (cs : List Char) :
    readLine? n (endLine (encode cs).reverse) = readLine? n (encode cs) := by
  rcases endLine_encode cs with hline | ⟨ds, rfl, hline⟩
  · rw [hline]
  · rw [hline, readLine?_encode, readLine?_encode, trim_append_return_isEmpty,
      resultOf_append_return]

/-! ### The lines of a text -/

/-- The lines read before stand in front. -/
theorem linesFrom_eq_append (line : List UInt8) (done : List (List UInt8)) (bs : List UInt8) :
    linesFrom line done bs = done.reverse ++ linesFrom line [] bs := by
  induction bs generalizing line done with
  | nil =>
    rw [linesFrom, linesFrom]
    split <;> simp
  | cons b rest ih =>
    rw [linesFrom, linesFrom]
    split
    · rw [ih, ih _ [endLine line]]
      simp
    · exact ih _ _

/-- Bytes without a line feed are added to the line. -/
theorem linesFrom_append {bs : List UInt8} (h : 10 ∉ bs) (line : List UInt8)
    (done : List (List UInt8)) (rest : List UInt8) :
    linesFrom line done (bs ++ rest) = linesFrom (bs.reverse ++ line) done rest := by
  induction bs generalizing line with
  | nil => rfl
  | cons b bs ih =>
    obtain ⟨hb, hbs⟩ := not_or.1 (mt List.mem_cons.2 h)
    rw [List.cons_append, linesFrom, if_neg (Ne.symm hb), ih hbs, List.reverse_cons,
      List.append_assoc, List.singleton_append]

/-- The results of lines, numbered from `n` on; blank lines have none. -/
def results (n : Nat) (lines : List (List Char)) : List (Except SubmissionError Record) :=
  (((lines.map String.ofList).filter fun line ↦ !(Text.trim line).isEmpty).zipIdx n).map fun e ↦
    resultOf e.2 e.1

theorem results_cons (n : Nat) (line : List Char) (rest : List (List Char)) :
    results n (line :: rest) =
      if (Text.trim (String.ofList line)).isEmpty then results n rest
      else resultOf n (String.ofList line) :: results (n + 1) rest := by
  rw [results, List.map_cons, List.filter_cons]
  split <;> simp_all [results]

theorem readLines_cons {n : Nat} {bs : List UInt8} {cs : List Char}
    (h : readLine? n bs = readLine? n (encode cs)) (rest : List (List UInt8)) :
    readLines n (bs :: rest) =
      if (Text.trim (String.ofList cs)).isEmpty then readLines n rest
      else resultOf n (String.ofList cs) :: readLines (n + 1) rest := by
  rw [readLines, h, readLine?_encode]
  by_cases hblank : (Text.trim (String.ofList cs)).isEmpty = true
  · rw [if_pos hblank, if_pos hblank]
  · rw [if_neg hblank, if_neg hblank]

/-- The lines of the bytes of a text, of which the first line has been begun. -/
theorem readLines_linesFrom {begun : List Char} (hbegun : ∀ c ∈ begun, (c == '\n') = false)
    (cs : List Char) (n : Nat) :
    readLines n (linesFrom (encode begun).reverse [] (encode cs)) =
      results n (Text.pieces (· == '\n') (begun ++ cs)) := by
  induction cs generalizing begun n with
  | nil =>
    rw [List.append_nil, Text.pieces_eq_singleton hbegun, results_cons, Text.encode_nil, linesFrom]
    cases begun with
    | nil => rfl
    | cons c begun =>
      have hline : (encode (c :: begun)).reverse.isEmpty = false := by
        rw [← Bool.not_eq_true, List.isEmpty_iff, List.reverse_eq_nil_iff, Text.encode_eq_nil_iff]
        exact List.cons_ne_nil c begun
      rw [hline, if_neg Bool.false_ne_true, List.reverse_reverse, List.reverse_singleton,
        readLines_cons rfl]
      rfl
  | cons c cs ih =>
    by_cases hc : c = '\n'
    · subst hc
      have hline : linesFrom (encode begun).reverse [] (encode ('\n' :: cs)) =
          endLine (encode begun).reverse :: linesFrom [] [] (encode cs) := by
        have hbytes : encode ('\n' :: cs) = 10 :: encode cs := rfl
        rw [hbytes, linesFrom, if_pos rfl, linesFrom_eq_append]
        rfl
      have hnil : ∀ c ∈ ([] : List Char), (c == '\n') = false := List.forall_mem_nil _
      have hrest (n : Nat) : readLines n (linesFrom [] [] (encode cs)) =
        results n (Text.pieces (· == '\n') cs) := ih hnil n
      rw [hline, Text.pieces_append_cons hbegun (by rfl), results_cons,
        readLines_cons (readLine?_endLine n begun), hrest, hrest]
    · have hbytes : 10 ∉ String.utf8EncodeChar c := fun h ↦
        hc (Text.eq_of_mem_utf8EncodeChar h (by decide)).1
      have hbegun' : ∀ d ∈ begun ++ [c], (d == '\n') = false := by
        rw [List.forall_mem_append, List.forall_mem_singleton]
        exact ⟨hbegun, beq_eq_false_iff_ne.2 hc⟩
      have hline : (String.utf8EncodeChar c).reverse ++ (encode begun).reverse =
          (encode (begun ++ [c])).reverse := by simp
      rw [Text.encode_cons, linesFrom_append hbytes, hline, ih hbegun' n, List.append_assoc,
        List.singleton_append]

/-- The lines of the bytes of a text are the lines of the text, and each gives its result. -/
theorem readLines_encode (cs : List Char) :
    readLines 1 (linesFrom [] [] (encode cs)) = results 1 (Text.pieces (· == '\n') cs) :=
  readLines_linesFrom (List.forall_mem_nil _) cs 1

/-! ### The front of a file -/

/-- White space before the first value of a file, as characters. -/
def isSpaceInFront (c : Char) : Bool :=
  c == ' ' || c == '\t' || c == '\n' || c == '\x0c' || c == '\r'

theorem isSpaceInFront_iff {c : Char} : isSpaceInFront c = true ↔
    c = ' ' ∨ c = '\t' ∨ c = '\n' ∨ c = '\x0c' ∨ c = '\r' := by
  simp [isSpaceInFront, or_assoc]

/-- White space in front is dropped from the bytes as from the characters. -/
theorem dropWhile_isFileSpace_encode (cs : List Char) :
    (encode cs).dropWhile isFileSpace = encode (cs.dropWhile isSpaceInFront) := by
  induction cs with
  | nil => rfl
  | cons c cs ih =>
    cases hc : isSpaceInFront c with
    | true =>
      rw [List.dropWhile_cons_of_pos hc, ← ih]
      rcases isSpaceInFront_iff.1 hc with rfl | rfl | rfl | rfl | rfl <;> rfl
    | false =>
      obtain ⟨b, bs, hbs⟩ := List.exists_cons_of_ne_nil
        (mt Text.encode_eq_nil_iff.1 (List.cons_ne_nil c cs))
      have hb : isFileSpace b = false := by
        by_contra hb
        rw [Bool.not_eq_false] at hb
        simp only [isFileSpace, Bool.or_eq_true, beq_iff_eq] at hb
        rcases hb with (((rfl | rfl) | rfl) | rfl) | rfl <;>
          exact absurd (Text.eq_of_encode_eq_cons hbs (by decide) ▸ hc) (by decide)
      rw [List.dropWhile_cons_of_neg (by rw [hc]; exact Bool.false_ne_true), hbs,
        List.dropWhile_cons_of_neg (by rw [hb]; exact Bool.false_ne_true)]

/-- A file whose first value is an array is one array. -/
theorem ofBytes_of_array {cs rest : List Char}
    (h : cs.dropWhile isSpaceInFront = '[' :: rest) {values : List Json}
    (hread : Json.read? (String.ofList ('[' :: rest)) = some (.array values)) :
    ofBytes (encode cs) = .ok (ofValues values) := by
  have hbytes : encode ('[' :: rest) = 91 :: encode rest := rfl
  have htext : textOf? (91 :: encode rest) = some (String.ofList ('[' :: rest)) :=
    textOf?_encode ('[' :: rest)
  rw [ofBytes, dropWhile_isFileSpace_encode, h, hbytes]
  simp only [htext, hread]
  rfl

/-- Any other file has one value on each line. -/
theorem ofBytes_of_lines {cs : List Char}
    (h : (cs.dropWhile isSpaceInFront).head? ≠ some '[') :
    ofBytes (encode cs) =
      .ok ⟨none, results 1 (Text.pieces (· == '\n') (cs.dropWhile isSpaceInFront))⟩ := by
  rw [← readLines_encode, ofBytes, dropWhile_isFileSpace_encode]
  split
  · rename_i bs hbs
    refine absurd ?_ h
    cases hcs : cs.dropWhile isSpaceInFront with
    | nil =>
      rw [hcs] at hbs
      cases hbs
    | cons c rest =>
      rw [hcs] at hbs
      rw [Text.eq_of_encode_eq_cons hbs (by decide)]
      rfl
  · rfl

/-- White space of JSON in front of a text belongs to no result. -/
theorem results_pieces_cons (n : Nat) {c : Char} (hc : Json.IsSpaceChar c) (cs : List Char) :
    results n (Text.pieces (· == '\n') (c :: cs)) =
      results n (Text.pieces (· == '\n') cs) := by
  by_cases hend : c = '\n'
  · subst hend
    rw [Text.pieces, if_pos (beq_self_eq_true '\n'), results_cons]
    rfl
  · have hblank : Text.isBlank c = true := by rcases hc with rfl | rfl | rfl | rfl <;> rfl
    obtain ⟨first, rest, hpieces⟩ := List.exists_cons_of_ne_nil (Text.pieces_ne_nil (· == '\n') cs)
    have hcons : Text.pieces (· == '\n') (c :: cs) = (c :: first) :: rest := by
      rw [Text.pieces, if_neg (by simpa using hend), hpieces]
    have htrim : (Text.trim (String.ofList (c :: first))).isEmpty =
        (Text.trim (String.ofList first)).isEmpty := by
      rw [Bool.eq_iff_iff, trim_ofList_isEmpty_iff, trim_ofList_isEmpty_iff,
        List.forall_mem_cons, and_iff_right hblank]
    rw [hcons, hpieces, results_cons, results_cons, htrim, resultOf_space_cons n hc]

/-- White space that is dropped in front of a text belongs to no result, if it has no form feed. -/
theorem results_pieces_dropWhile (n : Nat) {cs : List Char} (h : '\x0c' ∉ cs) :
    results n (Text.pieces (· == '\n') (cs.dropWhile isSpaceInFront)) =
      results n (Text.pieces (· == '\n') cs) := by
  induction cs with
  | nil => rfl
  | cons c cs ih =>
    obtain ⟨hc, hcs⟩ := not_or.1 (mt List.mem_cons.2 h)
    cases hspace : isSpaceInFront c with
    | true =>
      have hjson : Json.IsSpaceChar c := by
        rcases isSpaceInFront_iff.1 hspace with h | h | h | h | h
        · exact .inl h
        · exact .inr (.inl h)
        · exact .inr (.inr (.inl h))
        · exact absurd h.symm hc
        · exact .inr (.inr (.inr h))
      rw [List.dropWhile_cons_of_pos hspace, ih hcs, results_pieces_cons n hjson]
    | false =>
      rw [List.dropWhile_cons_of_neg (by rw [hspace]; exact Bool.false_ne_true)]

/-- **Each line stands alone.** A text that is not one array gives one result for each line that is
not blank, in order, and the line and its number alone determine the result. -/
theorem ofBytes_eq_map_resultOf {text : String} (hfeed : '\x0c' ∉ text.toList)
    (hfirst : (text.toList.dropWhile isSpaceInFront).head? ≠ some '[') :
    ofBytes (Text.bytes text) =
      .ok ⟨none, ((nonBlankLines text).zipIdx 1).map fun e ↦ resultOf e.2 e.1⟩ := by
  rw [Text.bytes_eq_encode, ofBytes_of_lines hfirst, results_pieces_dropWhile 1 hfeed]
  rfl

end SurveyExport.DataFile
