import SurveyExport.Proofs.Calendar.Reading
import SurveyExport.Row.Coercion

/-!
# Cells survive being written and read again

A whole number or a date that was read from a text is written in a form that reads as the same
value, whatever the text looked like: blanks, signs and zeros in front are gone. A text that does
not read as the type of its column stays what it is, again and again. Of a time of submission the
first 19 bytes count; a stamp of a date-time takes just as many, so that what follows it does not
matter.

* `Cell.coerce_text_display`: the cell of a column of whole numbers or dates;
* `Cell.readSubmissionTime?_stampText_append`: the time of submission;
* `Cell.survives_reimport`: both.
-/

namespace SurveyExport.Cell

/-- A date that was read is read again from its own text. -/
theorem readDate?_toText {s : String} {d : Date} (h : readDate? s = some d) :
    readDate? d.toText = some d := by
  obtain ⟨-, hyear⟩ := Option.filter_eq_some_iff.1 h
  have hrange : 1900 ≤ d.year ∧ d.year ≤ 9999 := by simpa using hyear
  rw [readDate?, Calendar.readDate?_toText (by omega)]
  exact Option.filter_eq_some_iff.2 ⟨rfl, hyear⟩

/-- What reads as a whole number or a date reads as the same from its display. -/
theorem ofText?_display {type : BindType} (htype : type = .int ∨ type = .date) {s : String}
    {c : Cell} (h : ofText? type s = some c) : ofText? type c.display = some c := by
  rcases htype with rfl | rfl
  · simp only [ofText?, Option.map_eq_some_iff] at h ⊢
    obtain ⟨n, hn, rfl⟩ := h
    exact ⟨n, Numeral.readInt?_trim_toString (Numeral.fits_of_readInt? hn), rfl⟩
  · simp only [ofText?, Option.map_eq_some_iff] at h ⊢
    obtain ⟨d, hd, rfl⟩ := h
    exact ⟨d, readDate?_toText hd, rfl⟩

/-- **A coerced cell is coerced to itself from its display.** -/
theorem coerce_text_display {type : BindType} (htype : type = .int ∨ type = .date) (s : String) :
    coerce type (.text (coerce type (.text s)).display) = coerce type (.text s) := by
  have hconverted : type.isConverted = true := by
    rcases htype with rfl | rfl <;> rfl
  have hcoerce (s : String) : coerce type (.text s) = (ofText? type s).getD (.text s) := by
    simp only [coerce, hconverted, if_true]
  cases hread : ofText? type s with
  | none =>
    have hself : coerce type (.text s) = .text s := by rw [hcoerce, hread, Option.getD_none]
    rw [hself, display, hself]
  | some c =>
    have hcell : coerce type (.text s) = c := by rw [hcoerce, hread, Option.getD_some]
    rw [hcell, hcoerce, ofText?_display htype hread, Option.getD_some]

/-- **A stamp is read whatever follows it.** -/
theorem readSubmissionTime?_stampText_append {t : DateTime}
    (hyear : 0 ≤ t.date.year ∧ t.date.year ≤ 9999) (hnano : t.nano = 0 ∨ t.nano = 1000000000)
    (suffix : String) : readSubmissionTime? (t.stampText ++ suffix) = some t := by
  have hbytes := Calendar.byteLength_stampText hyear
  have hfirst : firstBytes 19 (t.stampText ++ suffix) = t.stampText := by
    simp only [firstBytes, String.toList_append, Text.fitting_append hbytes, hbytes, if_true,
      String.ofList_toList]
  rw [readSubmissionTime?, hfirst]
  exact Calendar.readDateTime?_stampText hyear hnano

/-- **Coerced values survive being written and read again.** A whole number or a date, or a text
that reads as neither, is the same cell again from its display. A date-time without a fraction,
which may be a leap second, is read from its stamp and any text after it. -/
theorem survives_reimport :
    (∀ type : BindType, type = .int ∨ type = .date → ∀ s : String,
      coerce type (.text (coerce type (.text s)).display) = coerce type (.text s)) ∧
    ∀ t : DateTime, 0 ≤ t.date.year ∧ t.date.year ≤ 9999 →
      t.nano = 0 ∨ t.nano = 1000000000 → ∀ suffix : String,
        readSubmissionTime? (t.stampText ++ suffix) = some t :=
  ⟨fun _ htype s ↦ coerce_text_display htype s,
    fun _ hyear hnano suffix ↦ readSubmissionTime?_stampText_append hyear hnano suffix⟩

/-- The leap second at the end of 2016. -/
def leapSecond : DateTime :=
  { date := { year := 2016, month := 12, day := 31, exists_day := by decide }
    hour := 23, minute := 59, second := 59, nano := 1000000000, exists_time := by decide }

/-- A number with a sign and zeros, a date with short numbers, and a leap second before a character
that does not fit the first 19 bytes. -/
theorem survives_reimport_leapSecond :
    (coerce .int (.text " +007") = .int 7 ∧
      coerce .int (.text (coerce .int (.text " +007")).display) = .int 7) ∧
    (readDate? "2012-6-3" ≠ none ∧
      coerce .date (.text (coerce .date (.text "2012-6-3")).display) =
        coerce .date (.text "2012-6-3")) ∧
    (0 ≤ leapSecond.date.year ∧ leapSecond.date.year ≤ 9999) ∧
    (leapSecond.nano = 0 ∨ leapSecond.nano = 1000000000) ∧
    leapSecond.stampText = "2016-12-31T23:59:60" ∧
    readSubmissionTime? (leapSecond.stampText ++ "€") = some leapSecond := by
  have hseven : coerce .int (.text " +007") = .int 7 := by rfl
  have hyear : 0 ≤ leapSecond.date.year ∧ leapSecond.date.year ≤ 9999 := by decide
  have hnano : leapSecond.nano = 0 ∨ leapSecond.nano = 1000000000 := by decide
  refine ⟨⟨hseven, ?_⟩, ⟨by decide +kernel, survives_reimport.1 .date (.inr rfl) "2012-6-3"⟩, hyear,
    hnano, by decide +kernel, survives_reimport.2 leapSecond hyear hnano "€"⟩
  exact (survives_reimport.1 .int (.inl rfl) " +007").trans hseven

end SurveyExport.Cell
