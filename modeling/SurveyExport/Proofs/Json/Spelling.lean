import Mathlib.Data.List.Basic
import SurveyExport.Proofs.Decimal.Numerals
import SurveyExport.Proofs.Json.Tokens

/-!
# How tokens are spelled

The first layer of JSON text: characters make tokens. `Token.Spelled` says which characters spell a
token, and `Spells` which text spells a sequence of tokens: their spellings one after the other with
gaps before, between and behind. What may be a gap is a parameter: any white space of JSON
(`IsSpace`), or nothing at all in a compact text.

A text and its escapes are spelled by rules of their own (`SpelledChar`); a number is spelled by the
numerals that stand for it. What has no value has no spelling: a number beyond the range, and a code
that is half of a pair.

`tokens?_of_spells` says that the scanner finds the tokens that a text spells.
-/

namespace SurveyExport.Json

/-! ### Spellings -/

/-- The number that four hexadecimal digits stand for. -/
def codeOf? : List Char → Option Nat
  | [a, b, c, d] => do
    let a ← Numeral.hexValue? a
    let b ← Numeral.hexValue? b
    let c ← Numeral.hexValue? c
    let d ← Numeral.hexValue? d
    some (16 * (16 * (16 * a + b) + c) + d)
  | _ => none

/-- How a character of a text is written between the quotes. -/
inductive SpelledChar : Char → List Char → Prop
  /-- As it is, if it is no quote, no backslash and no control character. -/
  | plain {c : Char} (hquote : c ≠ '"') (hescape : c ≠ '\\') (hcontrol : 0x20 ≤ c.toNat) :
    SpelledChar c [c]
  /-- By a short escape. -/
  | short {c e : Char} (h : shortEscape? e = some c) : SpelledChar c ['\\', e]
  /-- By its code. -/
  | code {c : Char} {ds : List Char} (h : codeOf? ds = some c.toNat) :
    SpelledChar c ('\\' :: 'u' :: ds)
  /-- By a pair of codes, if its own has more than four digits. -/
  | pair {high low : Nat} {ds es : List Char} (hds : codeOf? ds = some high)
    (hes : codeOf? es = some low) (hhigh : 0xD800 ≤ high ∧ high ≤ 0xDBFF)
    (hlow : 0xDC00 ≤ low ∧ low ≤ 0xDFFF) :
    SpelledChar (Char.ofNat (0x10000 + (high - 0xD800) * 0x400 + (low - 0xDC00)))
      ('\\' :: 'u' :: (ds ++ '\\' :: 'u' :: es))

/-- How the characters of a text are written between the quotes. -/
inductive SpelledText : List Char → List Char → Prop
  | nil : SpelledText [] []
  | cons {c : Char} {s ds cs : List Char} (hc : SpelledChar c ds) (hs : SpelledText s cs) :
    SpelledText (c :: s) (ds ++ cs)

/-- How a token is written. -/
inductive Token.Spelled : Token → List Char → Prop
  | openArray : Spelled .openArray ['[']
  | closeArray : Spelled .closeArray [']']
  | openObject : Spelled .openObject ['{']
  | closeObject : Spelled .closeObject ['}']
  | comma : Spelled .comma [',']
  | colon : Spelled .colon [':']
  | text {s : String} {cs : List Char} (h : SpelledText s.toList cs) :
    Spelled (.text s) ('"' :: (cs ++ ['"']))
  | int {n : Int} {cs : List Char} (h : Number.token? cs = some (.int n)) : Spelled (.int n) cs
  | float {x : Float} {cs : List Char} (h : Number.token? cs = some (.float x)) :
    Spelled (.float x) cs
  | bool (b : Bool) : Spelled (.bool b) (if b then "true" else "false").toList
  | null : Spelled .null "null".toList

/-- Whether a character would be read as part of a token that it stands behind. -/
def Token.continuedBy : Token → Char → Bool
  | .int _, c | .float _, c => isNumberChar c
  | .bool _, c | .null, c => c.isAlpha
  | _, _ => false

/-- A character of white space. -/
def IsSpaceChar (c : Char) : Prop := c = ' ' ∨ c = '\t' ∨ c = '\n' ∨ c = '\r'

/-- White space between tokens. -/
def IsSpace (g : List Char) : Prop := ∀ c ∈ g, IsSpaceChar c

/-- The characters spell the tokens, with a gap before each of them and at the end. A token ends
where a character cannot be part of it. -/
inductive Spells (gap : List Char → Prop) : List Token → List Char → Prop
  | nil {g : List Char} (hgap : gap g) : Spells gap [] g
  | cons {g ds cs : List Char} {t : Token} {ts : List Token} (hgap : gap g) (ht : t.Spelled ds)
    (hend : ∀ c ∈ cs.head?, t.continuedBy c = false) (hts : Spells gap ts cs) :
    Spells gap (t :: ts) (g ++ ds ++ cs)

/-! ### Numerals -/

namespace Number

theorem isNumberChar_of_isDigit {c : Char} (h : c.isDigit = true) :
    isNumberChar c = true := by
  simp [isNumberChar, h]

theorem isNumberChar_of_readExponent? {cs : List Char} {e : Int}
    (h : Numeral.readExponent? cs = some e) : ∀ c ∈ cs, isNumberChar c = true := by
  intro c hc
  rcases Numeral.mem_readExponent? h hc with hdigit | rfl | rfl | rfl | rfl
  · exact isNumberChar_of_isDigit hdigit
  all_goals rfl

/-- What is read as digits and as something behind them has only characters of numbers. -/
theorem isNumberChar_of_dropWhile {cs : List Char}
    (h : ∀ c ∈ cs.dropWhile Char.isDigit, isNumberChar c = true) :
    ∀ c ∈ cs, isNumberChar c = true := by
  rw [← List.takeWhile_append_dropWhile (p := Char.isDigit) (l := cs)]
  refine List.forall_mem_append.2 ⟨fun c hc ↦ isNumberChar_of_isDigit ?_, h⟩
  exact List.all_eq_true.1 List.all_takeWhile c hc

/-- A number without its sign begins with a digit and has only characters of numbers. -/
theorem of_ofMagnitude? {negative : Bool} {cs : List Char} {t : Token}
    (h : ofMagnitude? negative cs = some t) :
    (∃ c rest, cs = c :: rest ∧ c.isDigit = true) ∧ ∀ c ∈ cs, isNumberChar c = true := by
  simp only [ofMagnitude?] at h
  split at h
  · cases h
  · rename_i hwhole
    simp only [Bool.or_eq_true, not_or, List.isEmpty_iff] at hwhole
    constructor
    · cases cs with
      | nil => exact absurd rfl hwhole.1
      | cons c rest =>
        refine ⟨c, rest, rfl, ?_⟩
        by_contra hc
        exact hwhole.1 (List.takeWhile_cons_of_neg hc)
    · -- behind the digits nothing follows, or a fraction, or an exponent
      refine isNumberChar_of_dropWhile ?_
      rw [Option.bind_eq_bind] at h
      split at h
      · rename_i hrest
        simp [hrest]
      · rename_i rest hrest
        rw [hrest]
        split at h
        · cases h
        · obtain ⟨e, he, -⟩ := Option.bind_eq_some_iff.1 h
          exact List.forall_mem_cons.2 ⟨by decide,
            isNumberChar_of_dropWhile (isNumberChar_of_readExponent? he)⟩
      · obtain ⟨e, he, -⟩ := Option.bind_eq_some_iff.1 h
        exact isNumberChar_of_readExponent? he

/-- A numeral begins with a digit or a minus and has only characters of numbers. -/
theorem of_token? {cs : List Char} {t : Token} (h : token? cs = some t) :
    (∃ c rest, cs = c :: rest ∧ (c = '-' ∨ c.isDigit = true)) ∧
      ∀ c ∈ cs, isNumberChar c = true := by
  rw [token?.eq_def] at h
  split at h
  · exact ⟨⟨_, _, rfl, .inl rfl⟩, List.forall_mem_cons.2 ⟨by decide, (of_ofMagnitude? h).2⟩⟩
  · obtain ⟨⟨c, rest, hcs, hc⟩, hall⟩ := of_ofMagnitude? h
    exact ⟨⟨c, rest, hcs, .inr hc⟩, hall⟩

end Number

/-! ### The scanner inside a text -/

/-- A code has four hexadecimal digits. -/
theorem exists_of_codeOf? {ds : List Char} {n : Nat} (h : codeOf? ds = some n) :
    ∃ a b c d a' b' c' d', ds = [a, b, c, d] ∧
      Numeral.hexValue? a = some a' ∧ Numeral.hexValue? b = some b' ∧
      Numeral.hexValue? c = some c' ∧ Numeral.hexValue? d = some d' ∧
        n = 16 * (16 * (16 * a' + b') + c') + d' := by
  rw [codeOf?.eq_def] at h
  split at h
  · obtain ⟨a', ha, h⟩ := Option.bind_eq_some_iff.1 h
    obtain ⟨b', hb, h⟩ := Option.bind_eq_some_iff.1 h
    obtain ⟨c', hc, h⟩ := Option.bind_eq_some_iff.1 h
    obtain ⟨d', hd, h⟩ := Option.bind_eq_some_iff.1 h
    exact ⟨_, _, _, _, a', b', c', d', rfl, ha, hb, hc, hd, (Option.some.inj h).symm⟩
  · cases h

/-- Four hexadecimal digits complete a code. -/
theorem foldlM_code {ds : List Char} {n : Nat} (h : codeOf? ds = some n) (t : TextSoFar)
    (high : Option Nat) (tokens : List Token) :
    ds.foldlM scanChar? (.code t high 0 0, tokens) = some (endCode t high n, tokens) := by
  obtain ⟨a, b, c, d, a', b', c', d', rfl, ha, hb, hc, hd, rfl⟩ := exists_of_codeOf? h
  simp [scanChar?, ha, hb, hc, hd]

/-- The code of a character is that of no half of a pair. -/
theorem endCode_toNat (t : TextSoFar) (c : Char) :
    endCode t none c.toNat = .text (t.add c) := by
  have hvalid : c.toNat < 0xD800 ∨ 0xDFFF < c.toNat ∧ c.toNat < 0x110000 := c.valid
  have hhigh : ¬ (0xD800 ≤ c.toNat ∧ c.toNat ≤ 0xDBFF) := by omega
  have hlow : ¬ (0xDC00 ≤ c.toNat ∧ c.toNat ≤ 0xDFFF) := by omega
  simp [endCode, hhigh, hlow, Char.ofNat_toNat]

/-- A character is added to the text, whichever way it is written. -/
theorem foldlM_spelledChar {c : Char} {ds : List Char} (h : SpelledChar c ds) (t : TextSoFar)
    (tokens : List Token) :
    ds.foldlM scanChar? (.text t, tokens) = some (.text (t.add c), tokens) := by
  have hescape : scanChar? (.text t, tokens) '\\' = some (.escape t none, tokens) := rfl
  have hcode : scanChar? (.escape t none, tokens) 'u' = some (.code t none 0 0, tokens) := rfl
  cases h with
  | plain hquote hback hcontrol =>
    simp [scanChar?, textChar?, hquote, hback, Nat.not_lt.2 hcontrol]
  | short h =>
    rename_i e
    have hu : e ≠ 'u' := by
      rintro rfl
      cases h
    simp [scanChar?, textChar?, hu, h]
  | code h =>
    rw [foldlM_cons_of_eq_some hescape, foldlM_cons_of_eq_some hcode, foldlM_code h,
      endCode_toNat]
  | pair hds hes hhigh hlow =>
    rename_i high low ds es
    have hsecond : endCode t none high = .second t high := by simp [endCode, hhigh]
    have hescape' : scanChar? (.second t high, tokens) '\\' =
        some (.escape t (some high), tokens) := rfl
    have hcode' : scanChar? (.escape t (some high), tokens) 'u' =
        some (.code t (some high) 0 0, tokens) := rfl
    have hend := foldlM_code hds t none tokens
    rw [hsecond] at hend
    rw [foldlM_cons_of_eq_some hescape, foldlM_cons_of_eq_some hcode,
      foldlM_append_of_eq_some hend, foldlM_cons_of_eq_some hescape',
      foldlM_cons_of_eq_some hcode', foldlM_code hes]
    simp [endCode, hlow]

/-- The characters of a text are added one after the other. -/
theorem foldlM_spelledText {s cs : List Char} (h : SpelledText s cs) (t : TextSoFar)
    (tokens : List Token) : cs.foldlM scanChar? (.text t, tokens) =
      some (.text { t with read := s.reverse ++ t.read }, tokens) := by
  induction h generalizing t with
  | nil => rfl
  | cons hc _ ih =>
    rw [foldlM_append_of_eq_some (foldlM_spelledChar hc t tokens), ih]
    simp [TextSoFar.add]

/-! ### The scanner between tokens -/

/-- What has been scanned are the tokens, in reverse; the last may not be ended yet. -/
inductive Scanned : Scan × List Token → List Token → Prop
  | between (tokens : List Token) : Scanned (.between, tokens) tokens
  | number {read : List Char} {t : Token} {tokens : List Token}
    (h : Number.token? read.reverse = some t) : Scanned (.number read, tokens) (t :: tokens)
  | word {read : List Char} {t : Token} {tokens : List Token}
    (h : word? read.reverse = some t) : Scanned (.word read, tokens) (t :: tokens)

/-- Whether the scanner takes a character for a part of the last token. -/
def Scan.continuedBy : Scan → Char → Bool
  | .number _, c => isNumberChar c
  | .word _, c => c.isAlpha
  | _, _ => false

variable {state : Scan × List Token} {tokens : List Token}

/-- A character that is no part of the last token begins another. -/
theorem Scanned.scanChar?_eq (h : Scanned state tokens) {c : Char}
    (hc : state.1.continuedBy c = false) : scanChar? state c = startToken? tokens c := by
  cases h with
  | between => rfl
  | number h =>
    have hc : isNumberChar c = false := hc
    simp [scanChar?, hc, h]
  | word h =>
    have hc : c.isAlpha = false := hc
    simp [scanChar?, hc, h]

/-- At the end the last token is complete. -/
theorem Scanned.endScan?_eq (h : Scanned state tokens) :
    endScan? state = some tokens.reverse := by
  cases h with
  | between => rfl
  | number h => simp [endScan?, h]
  | word h => simp [endScan?, h]

/-- Nothing is begun by white space. -/
theorem startToken?_of_space {c : Char} (h : IsSpaceChar c) :
    startToken? tokens c = some (.between, tokens) := by
  rcases h with rfl | rfl | rfl | rfl <;> rfl

/-- A number is begun by a digit or a minus. -/
theorem startToken?_of_number {c : Char} (h : c = '-' ∨ c.isDigit = true) :
    startToken? tokens c = some (.number [c], tokens) := by
  rcases h with rfl | h
  · rfl
  · rw [startToken?.eq_def]
    split <;> simp_all

/-- The characters of a number are collected. -/
theorem foldlM_number {cs : List Char} (h : ∀ c ∈ cs, isNumberChar c = true) (read : List Char) :
    cs.foldlM scanChar? (.number read, tokens) = some (.number (cs.reverse ++ read), tokens) := by
  induction cs generalizing read with
  | nil => rfl
  | cons c rest ih =>
    have hstep : scanChar? (.number read, tokens) c = some (.number (c :: read), tokens) := by
      simp [scanChar?, h c List.mem_cons_self]
    rw [foldlM_cons_of_eq_some hstep, ih fun d hd ↦ h d (List.mem_cons_of_mem _ hd),
      List.reverse_cons, List.append_assoc, List.singleton_append]

/-- A numeral is read as one number. -/
theorem foldlM_numeral {cs : List Char} {t : Token} (h : Number.token? cs = some t) :
    cs.foldlM scanChar? (.between, tokens) = some (.number cs.reverse, tokens) := by
  obtain ⟨⟨c, rest, rfl, hc⟩, hall⟩ := Number.of_token? h
  have hstart : scanChar? (.between, tokens) c = some (.number [c], tokens) :=
    startToken?_of_number hc
  rw [foldlM_cons_of_eq_some hstart, foldlM_number fun d hd ↦ hall d (List.mem_cons_of_mem _ hd),
    List.reverse_cons]

/-- **The spelling of a token is scanned as that token.** -/
theorem Token.Spelled.exists_scanned {t : Token} {ds : List Char} (h : t.Spelled ds)
    (tokens : List Token) : ∃ state, ds.foldlM scanChar? (.between, tokens) = some state ∧
      Scanned state (t :: tokens) ∧ state.1.continuedBy = t.continuedBy := by
  cases h with
  | openArray | closeArray | openObject | closeObject | comma | colon =>
    exact ⟨_, rfl, .between _, rfl⟩
  | text h =>
    rename_i s cs
    have hquote : scanChar? (.between, tokens) '"' = some (.text {}, tokens) := rfl
    refine ⟨(.between, .text s :: tokens), ?_, .between _, rfl⟩
    rw [foldlM_cons_of_eq_some hquote, foldlM_append_of_eq_some (foldlM_spelledText h _ _)]
    simp [scanChar?, textChar?, TextSoFar.token]
  | int h =>
    exact ⟨_, foldlM_numeral h, .number (by rwa [List.reverse_reverse]), rfl⟩
  | float h =>
    exact ⟨_, foldlM_numeral h, .number (by rwa [List.reverse_reverse]), rfl⟩
  | bool b => cases b <;> exact ⟨_, rfl, .word rfl, rfl⟩
  | null => exact ⟨_, rfl, .word rfl, rfl⟩

/-- Between tokens white space is passed over. -/
theorem foldlM_space {g : List Char} (hg : IsSpace g) :
    g.foldlM scanChar? (.between, tokens) = some (.between, tokens) := by
  induction g with
  | nil => rfl
  | cons c rest ih =>
    obtain ⟨hc, hrest⟩ := List.forall_mem_cons.1 hg
    have hstep : scanChar? (.between, tokens) c = some (.between, tokens) :=
      startToken?_of_space hc
    rw [foldlM_cons_of_eq_some hstep, ih hrest]

/-- A gap ends the last token. -/
theorem Scanned.exists_foldlM_space (h : Scanned state tokens) {g : List Char} (hg : IsSpace g) :
    ∃ state', g.foldlM scanChar? state = some state' ∧ Scanned state' tokens ∧
      (g ≠ [] → state' = (.between, tokens)) := by
  cases g with
  | nil => exact ⟨state, rfl, h, fun hne ↦ absurd rfl hne⟩
  | cons c rest =>
    obtain ⟨hc, hrest⟩ := List.forall_mem_cons.1 hg
    have hcontinued : state.1.continuedBy c = false := by
      cases h <;> rcases hc with rfl | rfl | rfl | rfl <;> rfl
    have hstep : scanChar? state c = some (.between, tokens) := by
      rw [h.scanChar?_eq hcontinued, startToken?_of_space hc]
    exact ⟨_, (foldlM_cons_of_eq_some hstep rest).trans (foldlM_space hrest), .between _,
      fun _ ↦ rfl⟩

/-- The spelling of a token begins with a character. -/
theorem Token.Spelled.ne_nil {t : Token} {ds : List Char} (h : t.Spelled ds) : ds ≠ [] := by
  cases h with
  | int h | float h =>
    obtain ⟨⟨c, rest, rfl, -⟩, -⟩ := Number.of_token? h
    exact List.cons_ne_nil _ _
  | bool b => cases b <;> decide
  | null => decide
  | _ => exact List.cons_ne_nil _ _

/-- The tokens that a text spells are added to those scanned before. -/
theorem foldlM_of_spells {ts : List Token} {cs : List Char} (h : Spells IsSpace ts cs)
    (hstate : Scanned state tokens) (hend : ∀ c ∈ cs.head?, state.1.continuedBy c = false) :
    (cs.foldlM scanChar? state).bind endScan? = some (tokens.reverse ++ ts) := by
  induction h generalizing state tokens with
  | nil hg =>
    obtain ⟨state', hfold, hstate', -⟩ := hstate.exists_foldlM_space hg
    rw [hfold, Option.bind_some, hstate'.endScan?_eq, List.append_nil]
  | @cons g ds cs t ts hg ht hnext _ ih =>
    obtain ⟨d, ds', rfl⟩ := List.exists_cons_of_ne_nil ht.ne_nil
    obtain ⟨state', hfold, hstate', hspace⟩ := hstate.exists_foldlM_space hg
    -- behind a gap, or else by assumption, the token does not continue the last one
    have hd : state'.1.continuedBy d = false := by
      by_cases hgap : g = []
      · subst hgap
        obtain rfl := Option.some.inj hfold
        exact hend d rfl
      · rw [hspace hgap]
        rfl
    obtain ⟨state'', hscan, hstate'', hcontinued⟩ := ht.exists_scanned tokens
    have hsame : (d :: ds').foldlM scanChar? state' =
        (d :: ds').foldlM scanChar? (.between, tokens) := by
      rw [List.foldlM_cons, List.foldlM_cons, hstate'.scanChar?_eq hd]
      rfl
    rw [List.append_assoc, foldlM_append_of_eq_some hfold,
      foldlM_append_of_eq_some (hsame.trans hscan), ih hstate'' fun c hc ↦ ?_,
      List.reverse_cons, List.append_assoc, List.singleton_append]
    rw [hcontinued]
    exact hnext c hc

/-- **The scanner finds the tokens that a text spells.** -/
theorem tokens?_of_spells {ts : List Token} {cs : List Char} (h : Spells IsSpace ts cs) :
    tokens? cs = some ts :=
  foldlM_of_spells h (.between []) fun _ _ ↦ rfl

/-! ### Spellings without line feeds -/

theorem newline_not_mem_of_codeOf? {ds : List Char} {n : Nat} (h : codeOf? ds = some n) :
    '\n' ∉ ds := by
  have hnone : Numeral.hexValue? '\n' = none := by decide
  obtain ⟨a, b, c, d, a', b', c', d', rfl, ha, hb, hc, hd, -⟩ := exists_of_codeOf? h
  simp only [List.mem_cons, List.not_mem_nil, or_false]
  rintro (rfl | rfl | rfl | rfl) <;> simp_all

theorem SpelledChar.newline_not_mem {c : Char} {ds : List Char} (h : SpelledChar c ds) :
    '\n' ∉ ds := by
  cases h with
  | plain _ _ hcontrol =>
    rintro hmem
    rw [← List.mem_singleton.1 hmem] at hcontrol
    exact absurd hcontrol (by decide)
  | short h =>
    rintro hmem
    simp only [List.mem_cons, List.not_mem_nil, or_false] at hmem
    rcases hmem with hmem | rfl
    · cases hmem
    · cases h
  | code h =>
    have hds := newline_not_mem_of_codeOf? h
    simp [hds]
  | pair hds hes _ _ =>
    have hds := newline_not_mem_of_codeOf? hds
    have hes := newline_not_mem_of_codeOf? hes
    simp [hds, hes]

theorem SpelledText.newline_not_mem {s cs : List Char} (h : SpelledText s cs) : '\n' ∉ cs := by
  induction h with
  | nil => exact List.not_mem_nil
  | cons hc _ ih =>
    rw [List.mem_append, not_or]
    exact ⟨hc.newline_not_mem, ih⟩

theorem Token.Spelled.newline_not_mem {t : Token} {cs : List Char} (h : t.Spelled cs) :
    '\n' ∉ cs := by
  cases h with
  | text h => simp [h.newline_not_mem]
  | int h | float h => exact fun hmem ↦ absurd ((Number.of_token? h).2 _ hmem) (by decide)
  | bool b => cases b <;> decide
  | _ => decide

/-! ### White space around tokens -/

/-- White space in front changes no token. -/
theorem tokens?_space_append {g : List Char} (hg : IsSpace g) (cs : List Char) :
    tokens? (g ++ cs) = tokens? cs := by
  rw [tokens?, tokens?, foldlM_append_of_eq_some (foldlM_space hg)]

/-- A character of white space at the end changes nothing. -/
theorem endScan?_of_space {c : Char} (hc : IsSpaceChar c)
    (state : Scan × List Token) : (scanChar? state c).bind endScan? = endScan? state := by
  have hnumber : isNumberChar c = false := by rcases hc with rfl | rfl | rfl | rfl <;> rfl
  have hword : c.isAlpha = false := by rcases hc with rfl | rfl | rfl | rfl <;> rfl
  -- inside a text white space is a part of it or an error, and the text is not closed
  have htext (t : TextSoFar) (tokens : List Token) :
      (textChar? t tokens c).bind endScan? = none := by
    rcases hc with rfl | rfl | rfl | rfl <;> rfl
  obtain ⟨scan, tokens⟩ := state
  cases scan with
  | between =>
    rw [scanChar?, startToken?_of_space hc]
    rfl
  | number read =>
    rw [scanChar?, hnumber]
    cases h : Number.token? read.reverse <;> simp [endScan?, h, startToken?_of_space hc]
  | word read =>
    rw [scanChar?, hword]
    cases h : word? read.reverse <;> simp [endScan?, h, startToken?_of_space hc]
  | text t => exact htext t tokens
  | escape t high => rcases hc with rfl | rfl | rfl | rfl <;> rfl
  | code t high digits value => rcases hc with rfl | rfl | rfl | rfl <;> rfl
  | second t high => rcases hc with rfl | rfl | rfl | rfl <;> rfl

/-- A character of white space behind changes no token. -/
theorem tokens?_append_space {c : Char} (hc : IsSpaceChar c) (cs : List Char) :
    tokens? (cs ++ [c]) = tokens? cs := by
  rw [tokens?, tokens?, List.foldlM_append]
  cases h : cs.foldlM scanChar? (.between, []) with
  | none => rfl
  | some state =>
    have hspace := endScan?_of_space hc state
    simpa using hspace

end SurveyExport.Json
