import SurveyExport.Json.Writer
import SurveyExport.Proofs.Json.Spelling

/-!
# Reading what spells a value

The two layers of JSON text together: a text that spells the tokens of a value is read as that value
(`Json.read?_of_spells`), whatever white space stands between its tokens and however its texts are
escaped, if the value is not nested deeper than the reader allows.

The written form of a value spells it without any white space (`Json.spells_write`), so it is read
back (`Json.read?_write`). This needs that its numbers are read back from their numerals; it is not
so of every number that is not whole, because reading one rounds twice.
-/

namespace SurveyExport.Json

/-! ### Reading -/

/-- What is spelled is no number beyond the range. -/
theorem Spells.ne_hugeNumber {gap : List Char → Prop} {ts : List Token} {cs : List Char}
    (h : Spells gap ts cs) : Token.hugeNumber ∉ ts := by
  induction h with
  | nil => exact List.not_mem_nil
  | cons _ ht _ _ ih =>
    rw [List.mem_cons, not_or]
    refine ⟨?_, ih⟩
    rintro rfl
    cases ht

theorem areSound_iff {items : List Json} :
    areSound items = true ↔ ∀ v ∈ items, v.isSound = true := by
  induction items with
  | nil => simp [areSound]
  | cons v rest ih => simp [areSound, ih]

theorem fieldsAreSound_iff {fields : List (String × Json)} :
    fieldsAreSound fields = true ↔ ∀ k v, (k, v) ∈ fields → v.isSound = true := by
  induction fields with
  | nil => simp [fieldsAreSound]
  | cons e rest ih =>
    obtain ⟨k, v⟩ := e
    rw [fieldsAreSound, Bool.and_eq_true, ih]
    constructor
    · rintro ⟨hv, hrest⟩ k' v' hmem
      rcases List.mem_cons.1 hmem with heq | hmem
      · rwa [(Prod.mk.inj heq).2]
      · exact hrest k' v' hmem
    · exact fun h ↦ ⟨h k v List.mem_cons_self, fun k' v' hmem ↦
        h k' v' (List.mem_cons_of_mem _ hmem)⟩

/-- The tokens of an item are among those of the items. -/
theorem tokens_subset_itemTokens {v : Json} {items : List Json} (h : v ∈ items) :
    v.tokens ⊆ (itemTokens items).tail := by
  induction items with
  | nil => cases h
  | cons w rest ih =>
    rw [itemTokens, List.tail_cons]
    rcases List.mem_cons.1 h with rfl | h
    · exact List.subset_append_left _ _
    · exact fun t ht ↦ List.mem_append_right _ (List.mem_of_mem_tail (ih h ht))

/-- The tokens of a field's value are among those of the fields. -/
theorem tokens_subset_fieldTokens {k : String} {v : Json} {fields : List (String × Json)}
    (h : (k, v) ∈ fields) : v.tokens ⊆ (fieldTokens fields).tail := by
  induction fields with
  | nil => cases h
  | cons e rest ih =>
    obtain ⟨k', w⟩ := e
    rw [fieldTokens, List.tail_cons]
    rcases List.mem_cons.1 h with heq | h
    · rw [(Prod.mk.inj heq).2]
      intro t ht
      simp [ht]
    · intro t ht
      have := List.mem_of_mem_tail (ih h ht)
      simp [this]

/-- A value without the token of a number beyond the range is sound. -/
theorem isSound_of_tokens {v : Json} (h : Token.hugeNumber ∉ v.tokens) : v.isSound = true := by
  induction v using Json.induction with
  | null | bool | int | float | text => rfl
  | array items ih =>
    refine areSound_iff.2 fun v hv ↦ ih v hv fun hmem ↦ h ?_
    rw [tokens]
    simp [tokens_subset_itemTokens hv hmem]
  | object fields ih =>
    refine fieldsAreSound_iff.2 fun k v hv ↦ ih k v hv fun hmem ↦ h ?_
    rw [tokens]
    simp [tokens_subset_fieldTokens hv hmem]
  | flawed => exact absurd List.mem_cons_self h

theorem readParts?_of_spells {v : Json} {s : String} (h : Spells IsSpace v.tokens s.toList)
    (hdepth : v.depth ≤ maxDepth) : readParts? s = some v := by
  rw [readParts?, tokens?_of_spells h]
  exact ofTokens?_tokens hdepth

/-- **A text that spells a value is read as the value**, if it is not nested too deep. -/
theorem read?_of_spells {v : Json} {s : String} (h : Spells IsSpace v.tokens s.toList)
    (hdepth : v.depth ≤ maxDepth) : read? s = some v := by
  rw [read?, readParts?_of_spells h hdepth, Option.bind_some, sound?,
    if_pos (isSound_of_tokens h.ne_hugeNumber)]

/-! ### Writing -/

/-- No white space. -/
def IsEmpty (g : List Char) : Prop := g = []

/-- A text without white space is one with some. -/
theorem Spells.isSpace {ts : List Token} {cs : List Char} (h : Spells IsEmpty ts cs) :
    Spells IsSpace ts cs := by
  induction h with
  | nil hgap => exact .nil (hgap ▸ fun _ hc ↦ absurd hc List.not_mem_nil)
  | cons hgap ht hend _ ih =>
    exact .cons (hgap ▸ fun _ hc ↦ absurd hc List.not_mem_nil) ht hend ih

/-- A compact text has no line feed. -/
theorem Spells.newline_not_mem {ts : List Token} {cs : List Char} (h : Spells IsEmpty ts cs) :
    '\n' ∉ cs := by
  induction h with
  | nil hgap => exact hgap ▸ List.not_mem_nil
  | cons hgap ht _ _ ih =>
    rw [hgap, List.nil_append, List.mem_append, not_or]
    exact ⟨ht.newline_not_mem, ih⟩

/-- A compact text of an object begins with its brace. -/
theorem Spells.exists_eq_brace_cons {v : Json} (hv : v.isObject = true) {cs : List Char}
    (h : Spells IsEmpty v.tokens cs) : ∃ rest, cs = '{' :: rest := by
  cases v with
  | object fields =>
    rw [tokens] at h
    cases h with
    | cons hgap ht _ _ =>
      cases ht
      rw [hgap]
      exact ⟨_, rfl⟩
  | _ => cases hv

/-- The text of an array begins with its bracket, behind white space. -/
theorem Spells.exists_eq_bracket_cons {items : List Json} {cs : List Char}
    (h : Spells IsSpace (Json.array items).tokens cs) :
    ∃ g rest, IsSpace g ∧ cs = g ++ '[' :: rest ∧
      Spells IsSpace (Json.array items).tokens ('[' :: rest) := by
  rw [tokens] at h ⊢
  cases h with
  | cons hgap ht hend hts =>
    have hnil : IsSpace [] := List.forall_mem_nil _
    cases ht
    exact ⟨_, _, hgap, by rw [List.append_assoc]; rfl, .cons hnil .openArray hend hts⟩

/-- The numbers in a value are read back from their written forms, and nothing in it is flawed. -/
inductive Rewritable : Json → Prop
  | null : Rewritable .null
  | bool (b : Bool) : Rewritable (.bool b)
  | text (s : String) : Rewritable (.text s)
  | int {n : Int} (h : Number.token? (toString n).toList = some (.int n)) : Rewritable (.int n)
  | float {x : Float} (h : Number.token? (floatText x).toList = some (.float x)) :
    Rewritable (.float x)
  | array {items : List Json} (h : ∀ v ∈ items, Rewritable v) : Rewritable (.array items)
  | object {fields : List (String × Json)} (h : ∀ k v, (k, v) ∈ fields → Rewritable v) :
    Rewritable (.object fields)

theorem rewritable_array_iff {items : List Json} :
    Rewritable (.array items) ↔ ∀ v ∈ items, Rewritable v :=
  ⟨fun | .array h => h, .array⟩

theorem rewritable_object_iff {fields : List (String × Json)} :
    Rewritable (.object fields) ↔ ∀ e ∈ fields, Rewritable e.2 :=
  ⟨fun | .object h => fun e he ↦ h e.1 e.2 he, fun h ↦ .object fun k v hkv ↦ h (k, v) hkv⟩

theorem hexValue?_hexDigit {n : Nat} (h : n < 16) : Numeral.hexValue? (hexDigit n) = some n := by
  revert n
  decide

/-- A character is written by one of its spellings. -/
theorem spelledChar_escapedChar (c : Char) : SpelledChar c (escapedChar c) := by
  rw [escapedChar]
  split_ifs with hquote hback hn hr ht hb hf hcontrol
  · exact .short (by rw [eq_of_beq hquote]; rfl)
  · exact .short (by rw [eq_of_beq hback]; rfl)
  · exact .short (by rw [eq_of_beq hn]; rfl)
  · exact .short (by rw [eq_of_beq hr]; rfl)
  · exact .short (by rw [eq_of_beq ht]; rfl)
  · exact .short (by rw [eq_of_beq hb]; rfl)
  · exact .short (by rw [eq_of_beq hf]; rfl)
  · -- two digits are enough for a control character
    refine .code ?_
    have hzero : Numeral.hexValue? '0' = some 0 := by decide
    have hhigh : c.toNat / 16 < 16 := by omega
    have hlow : c.toNat % 16 < 16 := by omega
    simp only [codeOf?, hzero, hexValue?_hexDigit hhigh, hexValue?_hexDigit hlow,
      Option.bind_eq_bind, Option.bind_some, Option.some.injEq]
    omega
  · exact .plain (by simpa using hquote) (by simpa using hback) (Nat.not_lt.1 hcontrol)

theorem spelledText_escapedChar (s : List Char) : SpelledText s (s.flatMap escapedChar) := by
  induction s with
  | nil => exact .nil
  | cons c rest ih =>
    rw [List.flatMap_cons]
    exact .cons (spelledChar_escapedChar c) ih

theorem toList_textText (s : String) :
    (textText s).toList = '"' :: (s.toList.flatMap escapedChar ++ ['"']) := by
  simp [textText]

/-- A text is written by one of its spellings. -/
theorem spelled_textText (s : String) : (Token.text s).Spelled (textText s).toList := by
  rw [toList_textText]
  exact .text (spelledText_escapedChar s.toList)

/-- No character that could be part of a number or a word stands in front. -/
def Stops (cs : List Char) : Prop := ∀ c ∈ cs.head?, isNumberChar c = false ∧ c.isAlpha = false

theorem Stops.not_continuedBy {cs : List Char} (h : Stops cs) (t : Token) :
    ∀ c ∈ cs.head?, t.continuedBy c = false := by
  intro c hc
  cases t <;> simp [Token.continuedBy, (h c hc).1, (h c hc).2]

/-- A token is put in front of others. -/
theorem Spells.cons_token {t : Token} {ds cs : List Char} {ts : List Token} (ht : t.Spelled ds)
    (hstops : Stops cs) (hts : Spells IsEmpty ts cs) : Spells IsEmpty (t :: ts) (ds ++ cs) :=
  have hgap : IsEmpty [] := rfl
  .cons hgap ht (hstops.not_continuedBy t) hts

/-- A mark may stand in front of anything. -/
theorem Spells.cons_mark {t : Token} {c : Char} {cs : List Char} {ts : List Token}
    (ht : t.Spelled [c]) (hmark : ∀ d, t.continuedBy d = false) (hts : Spells IsEmpty ts cs) :
    Spells IsEmpty (t :: ts) (c :: cs) :=
  have hgap : IsEmpty [] := rfl
  .cons hgap ht (fun d _ ↦ hmark d) hts

/-- A mark stops a number and a word. -/
theorem stops_cons {c : Char} (h : isNumberChar c = false ∧ c.isAlpha = false) (cs : List Char) :
    Stops (c :: cs) := by
  rintro d ⟨⟩
  exact h

/-- The written form of a value spells it in front of what stops a number. -/
def WrittenBefore (v : Json) : Prop :=
  ∀ {ts : List Token} {cs : List Char}, Stops cs → Spells IsEmpty ts cs →
    Spells IsEmpty (v.tokens ++ ts) (v.write.toList ++ cs)

/-- The written forms of items, each behind a comma. -/
theorem spells_writeItems {items : List Json} (hin : ∀ v ∈ items, WrittenBefore v)
    {ts : List Token} {cs : List Char} (hstops : Stops cs) (hts : Spells IsEmpty ts cs) :
    Stops ((writeItems items).flatMap (',' :: ·.toList) ++ cs) ∧
      Spells IsEmpty (itemTokens items ++ ts)
        ((writeItems items).flatMap (',' :: ·.toList) ++ cs) := by
  induction items with
  | nil => exact ⟨hstops, hts⟩
  | cons v rest ih =>
    obtain ⟨hrest, hspells⟩ := ih fun u hu ↦ hin u (List.mem_cons_of_mem _ hu)
    have hv := hin v List.mem_cons_self hrest hspells
    simp only [writeItems, itemTokens, List.flatMap_cons, List.cons_append, List.append_assoc]
    exact ⟨stops_cons (by decide) _, .cons_mark .comma (fun _ ↦ rfl) hv⟩

/-- The written form of a field. -/
theorem spells_writeField {v : Json} (hv : WrittenBefore v) (k : String) {ts : List Token}
    {cs : List Char} (hstops : Stops cs) (hts : Spells IsEmpty ts cs) :
    Spells IsEmpty (.text k :: .colon :: (v.tokens ++ ts))
      ((textText k).toList ++ ':' :: (v.write.toList ++ cs)) :=
  .cons_token (spelled_textText k) (stops_cons (by decide) _)
    (.cons_mark .colon (fun _ ↦ rfl) (hv hstops hts))

/-- The written forms of fields, each behind a comma. -/
theorem spells_writeFields {fields : List (String × Json)}
    (hin : ∀ k v, (k, v) ∈ fields → WrittenBefore v) {ts : List Token} {cs : List Char}
    (hstops : Stops cs) (hts : Spells IsEmpty ts cs) :
    Stops ((writeFields fields).flatMap (',' :: ·.toList) ++ cs) ∧
      Spells IsEmpty (fieldTokens fields ++ ts)
        ((writeFields fields).flatMap (',' :: ·.toList) ++ cs) := by
  induction fields with
  | nil => exact ⟨hstops, hts⟩
  | cons e rest ih =>
    obtain ⟨k, v⟩ := e
    obtain ⟨hrest, hspells⟩ := ih fun k u hu ↦ hin k u (List.mem_cons_of_mem _ hu)
    have hv := spells_writeField (hin k v List.mem_cons_self) k hrest hspells
    have hcolon : ":".toList = [':'] := rfl
    simp only [writeFields, fieldTokens, List.flatMap_cons, List.cons_append, List.append_assoc,
      String.toList_append, hcolon, List.nil_append]
    exact ⟨stops_cons (by decide) _, .cons_mark .comma (fun _ ↦ rfl) hv⟩

theorem toList_intercalate_cons (s : String) (rest : List String) :
    (",".intercalate (s :: rest)).toList = s.toList ++ rest.flatMap (',' :: ·.toList) := by
  have hcomma : ",".toList = [','] := rfl
  induction rest generalizing s with
  | nil => simp
  | cons t rest ih => simp [ih, hcomma]

/-- **The written form of a value spells it.** -/
theorem writtenBefore {v : Json} (h : Rewritable v) : WrittenBefore v := by
  induction h with
  | null => exact fun hstops hts ↦ .cons_token .null hstops hts
  | bool b => cases b <;> exact fun hstops hts ↦ .cons_token (.bool _) hstops hts
  | text s => exact fun hstops hts ↦ .cons_token (spelled_textText s) hstops hts
  | int h => exact fun hstops hts ↦ .cons_token (.int h) hstops hts
  | float h => exact fun hstops hts ↦ .cons_token (.float h) hstops hts
  | @array items _ ih =>
    intro ts cs hstops hts
    have hend : Spells IsEmpty (.closeArray :: ts) (']' :: cs) :=
      .cons_mark .closeArray (fun _ ↦ rfl) hts
    have hopen : "[".toList = ['['] := rfl
    have hclose : "]".toList = [']'] := rfl
    rw [tokens, write, List.cons_append, List.append_assoc]
    simp only [String.toList_append, hopen, hclose, List.append_assoc, List.singleton_append]
    refine .cons_mark .openArray (fun _ ↦ rfl) ?_
    cases items with
    | nil => simpa [itemTokens, writeItems] using hend
    | cons w rest =>
      obtain ⟨hrest, hspells⟩ := spells_writeItems
        (fun u hu ↦ ih u (List.mem_cons_of_mem _ hu)) (stops_cons (by decide) cs) hend
      have hw := ih w List.mem_cons_self hrest hspells
      rw [writeItems, toList_intercalate_cons, itemTokens, List.tail_cons]
      simpa using hw
  | @object fields _ ih =>
    intro ts cs hstops hts
    have hend : Spells IsEmpty (.closeObject :: ts) ('}' :: cs) :=
      .cons_mark .closeObject (fun _ ↦ rfl) hts
    have hopen : "\x7b".toList = ['{'] := rfl
    have hclose : "\x7d".toList = ['}'] := rfl
    rw [tokens, write, List.cons_append, List.append_assoc]
    simp only [String.toList_append, hopen, hclose, List.append_assoc, List.singleton_append]
    refine .cons_mark .openObject (fun _ ↦ rfl) ?_
    cases fields with
    | nil => simpa [fieldTokens, writeFields] using hend
    | cons e rest =>
      obtain ⟨k, w⟩ := e
      obtain ⟨hrest, hspells⟩ := spells_writeFields
        (fun k u hu ↦ ih k u (List.mem_cons_of_mem _ hu)) (stops_cons (by decide) cs) hend
      have hw := spells_writeField (ih k w List.mem_cons_self) k hrest hspells
      have hcolon : ":".toList = [':'] := rfl
      rw [writeFields, toList_intercalate_cons, fieldTokens, List.tail_cons]
      simpa [hcolon] using hw

/-- **The written form of a value spells it, without white space.** -/
theorem spells_write {v : Json} (h : Rewritable v) : Spells IsEmpty v.tokens v.write.toList := by
  have hgap : IsEmpty [] := rfl
  have hend : Stops [] := by simp [Stops]
  simpa using writtenBefore h hend (.nil hgap)

/-- **The written form of a value is read back**, if it is not nested too deep. -/
theorem read?_write {v : Json} (h : Rewritable v) (hdepth : v.depth ≤ maxDepth) :
    read? v.write = some v :=
  read?_of_spells (spells_write h).isSpace hdepth

end SurveyExport.Json
