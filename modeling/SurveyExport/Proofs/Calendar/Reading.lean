import Mathlib.Algebra.Group.Nat.Defs
import SurveyExport.Calendar.Reading
import SurveyExport.Proofs.Decimal.Numerals
import SurveyExport.Proofs.Text.Cut

/-!
# Written dates and times are read back

A pattern reads leniently, and what is written is one of the spellings that it accepts: numbers have
all their digits, and no blank stands in front of one. `Reads items text f` says that a part of a
pattern takes exactly this text off the front, whatever follows, and enters what it read as `f`
does. Such parts are put together by appending (`Reads.append`).

* `Calendar.readDate?_toText`: a date of a year from 0 to 9999 is read back;
* `Calendar.readDateTime?_stampText`: so is such a date-time without a fraction, which may be a leap
  second.
-/

namespace SurveyExport

/-- The date, the letter `T` and the time of day, as submissions are stamped. -/
def DateTime.stampText (t : DateTime) : String := s!"{t.date.toText}T{t.clockText}"

namespace Calendar

/-! ### Digits -/

theorem toList_padded (width n : ℕ) :
    (Date.padded width n).toList =
      List.replicate (width - (Nat.toDigits 10 n).length) '0' ++ Nat.toDigits 10 n := by
  rw [Date.padded, String.toList_ofList]

/-- A number that is not too large is written with just the digits asked for. -/
theorem length_padded {width n : ℕ} (hwidth : 0 < width) (hn : n < 10 ^ width) :
    (Date.padded width n).toList.length = width := by
  have hle := (Nat.length_toDigits_le_iff (by decide) hwidth).2 hn
  rw [toList_padded, List.length_append, List.length_replicate]
  omega

theorem isDigit_of_mem_padded {width n : ℕ} {c : Char} (h : c ∈ (Date.padded width n).toList) :
    c.isDigit = true := by
  rw [toList_padded, List.mem_append] at h
  rcases h with h | h
  · rw [List.eq_of_mem_replicate h]
    rfl
  · exact Numeral.isDigit_of_mem_toDigits h

/-- A digit stands in front. -/
theorem exists_padded_eq_cons {width n : ℕ} (hwidth : 0 < width) (hn : n < 10 ^ width) :
    ∃ c cs, (Date.padded width n).toList = c :: cs ∧ c.isDigit = true := by
  cases hchars : (Date.padded width n).toList with
  | nil =>
    have hlength := length_padded hwidth hn
    rw [hchars, List.length_nil] at hlength
    omega
  | cons c cs => exact ⟨c, cs, rfl, isDigit_of_mem_padded (hchars ▸ List.mem_cons_self)⟩

/-- A number written with all its digits is read back, whatever follows. -/
theorem readDigits?_padded {width n : ℕ} (hwidth : 0 < width) (hn : n < 10 ^ width)
    (rest : List Char) :
    readDigits? width ((Date.padded width n).toList ++ rest) = some (n, rest) := by
  have htake : ((Date.padded width n).toList ++ rest).take width = (Date.padded width n).toList :=
    List.take_left' (length_padded hwidth hn)
  have hdigits : (Date.padded width n).toList.takeWhile Char.isDigit =
      (Date.padded width n).toList :=
    List.takeWhile_eq_self_iff.2 fun c hc ↦ isDigit_of_mem_padded hc
  have hne : (Date.padded width n).toList.isEmpty = false := by
    obtain ⟨c, cs, hchars, -⟩ := exists_padded_eq_cons hwidth hn
    rw [hchars]
    rfl
  rw [readDigits?, htake, hdigits, hne, if_neg (by simp), List.drop_left, toList_padded,
    Numeral.ofDigits_replicate_append]

/-- No blank stands before the digits. -/
theorem dropBlanks_padded {width n : ℕ} (hwidth : 0 < width) (hn : n < 10 ^ width)
    (rest : List Char) :
    Text.dropBlanks ((Date.padded width n).toList ++ rest) =
      (Date.padded width n).toList ++ rest := by
  obtain ⟨c, cs, hchars, hc⟩ := exists_padded_eq_cons hwidth hn
  have hblank : Text.isBlank c = false := Numeral.IsChar.not_isBlank (.inl hc)
  rw [hchars, List.cons_append, Text.dropBlanks, List.dropWhile_cons, hblank, if_neg (by simp)]

theorem readNumber?_padded {width n : ℕ} (hwidth : 0 < width) (hn : n < 10 ^ width)
    (rest : List Char) :
    readNumber? width ((Date.padded width n).toList ++ rest) = some (n, rest) := by
  rw [readNumber?, dropBlanks_padded hwidth hn, readDigits?_padded hwidth hn]

/-- A year from 0 to 9999 is written with four digits. -/
theorem yearText_eq_padded {year : Int} (h : 0 ≤ year ∧ year ≤ 9999) :
    Date.yearText year = Date.padded 4 year.toNat := by
  rw [Date.yearText, if_pos (by simpa using h)]

/-- A year of four digits is read back. -/
theorem readYear?_yearText {year : Int} (h : 0 ≤ year ∧ year ≤ 9999) (rest : List Char) :
    readYear? ((Date.yearText year).toList ++ rest) = some (year, rest) := by
  have hn : year.toNat < 10 ^ 4 := by omega
  obtain ⟨c, cs, hchars, hc⟩ := exists_padded_eq_cons (by decide) hn
  rw [readYear?, yearText_eq_padded h, dropBlanks_padded (by decide) hn]
  -- a digit is no sign, so the year is read as one of at most four digits
  split
  · rename_i hsign
    rw [hchars, List.cons_append, List.cons.injEq] at hsign
    exact absurd hc (by rw [hsign.1]; decide)
  · rename_i hsign
    rw [hchars, List.cons_append, List.cons.injEq] at hsign
    exact absurd hc (by rw [hsign.1]; decide)
  · rw [readDigits?_padded (by decide) hn, Option.map_some, Int.toNat_of_nonneg h.1]

/-! ### Parts of a pattern -/

/-- The items of a pattern take just these characters off the front, whatever follows, and enter
into the parts what they have read. -/
def Reads (items : List Item) (text : List Char) (enter : Parts → Parts) : Prop :=
  ∀ more p rest, readItems? (items ++ more) p (text ++ rest) = readItems? more (enter p) rest

variable {items items' : List Item} {text text' : List Char} {enter enter' : Parts → Parts}

/-- What is read one after the other may be appended. -/
theorem Reads.append (h : Reads items text enter) (h' : Reads items' text' enter') :
    Reads (items ++ items') (text ++ text') (enter' ∘ enter) := fun more p rest ↦ by
  rw [List.append_assoc, List.append_assoc, h, h', Function.comp_apply]

/-- Items that read all of a text read the parts. -/
theorem Reads.readItems? (h : Reads items text enter) (p : Parts) :
    readItems? items p text = some (enter p) := by
  have hall := h [] p []
  rw [List.append_nil, List.append_nil] at hall
  rw [hall]
  rfl

theorem reads_of_readItem? {item : Item}
    (h : ∀ p rest, readItem? p (text ++ rest) item = some (enter p, rest)) :
    Reads [item] text enter := fun more p rest ↦ by
  rw [List.singleton_append, Calendar.readItems?, h]
  rfl

theorem reads_literal (c : Char) : Reads [.literal c] [c] id :=
  reads_of_readItem? fun p rest ↦ by simp [readItem?]

/-! ### The texts of dates and times -/

/-- A date is written as three numbers with hyphens between. -/
theorem toList_toText (d : Date) :
    d.toText.toList = (Date.yearText d.year).toList ++ ['-'] ++ (Date.padded 2 d.month).toList ++
      ['-'] ++ (Date.padded 2 d.day).toList := by
  simp only [Date.toText, String.toList_append, List.append_assoc]
  rfl

/-- A time of day is written as three numbers with colons between. -/
theorem toList_clockText (t : DateTime) :
    t.clockText.toList = (Date.padded 2 t.hour).toList ++ [':'] ++
      (Date.padded 2 t.minute).toList ++ [':'] ++ (Date.padded 2 t.shownSecond).toList := by
  simp only [DateTime.clockText, String.toList_append, List.append_assoc]
  rfl

/-- A stamp is a date and a time of day with the letter `T` between. -/
theorem toList_stampText (t : DateTime) :
    t.stampText.toList = t.date.toText.toList ++ ['T'] ++ t.clockText.toList := by
  simp only [DateTime.stampText, String.toList_append]
  rfl

/-- Months and days have two digits. -/
theorem month_lt_and_day_lt (d : Date) : d.month < 10 ^ 2 ∧ d.day < 10 ^ 2 := by
  obtain ⟨-, hmonth, -, hday⟩ := d.exists_day
  simp only [daysInMonth] at hday
  split_ifs at hday <;> omega

/-- The numbers of a time of day have two digits. -/
theorem clock_lt (t : DateTime) :
    t.hour < 10 ^ 2 ∧ t.minute < 10 ^ 2 ∧ t.shownSecond < 10 ^ 2 := by
  obtain ⟨⟨hhour, hminute, hsecond⟩, -⟩ := t.exists_time
  rw [DateTime.shownSecond]
  split <;> omega

/-- **The text of a date is read as its parts.** -/
theorem reads_datePattern {d : Date} (h : 0 ≤ d.year ∧ d.year ≤ 9999) :
    Reads datePattern d.toText.toList fun p ↦
      { p with year := d.year, month := d.month, day := d.day } := by
  obtain ⟨hm, hd⟩ := month_lt_and_day_lt d
  have hyear : Reads [.year] (Date.yearText d.year).toList fun p ↦ { p with year := d.year } :=
    reads_of_readItem? fun p rest ↦ by rw [readItem?, readYear?_yearText h]; rfl
  have hmonth : Reads [.month] (Date.padded 2 d.month).toList fun p ↦ { p with month := d.month } :=
    reads_of_readItem? fun p rest ↦ by rw [readItem?, readNumber?_padded (by decide) hm]; rfl
  have hday : Reads [.day] (Date.padded 2 d.day).toList fun p ↦ { p with day := d.day } :=
    reads_of_readItem? fun p rest ↦ by rw [readItem?, readNumber?_padded (by decide) hd]; rfl
  rw [toList_toText]
  exact (((hyear.append (reads_literal '-')).append hmonth).append (reads_literal '-')).append hday

/-- **The text of a time of day is read as its parts**; a leap second is read as second 60. -/
theorem reads_clockPattern (t : DateTime) :
    Reads clockPattern t.clockText.toList fun p ↦
      { p with hour := t.hour, minute := t.minute, second := t.shownSecond } := by
  obtain ⟨hh, hm, hs⟩ := clock_lt t
  have hhour : Reads [.hour] (Date.padded 2 t.hour).toList fun p ↦ { p with hour := t.hour } :=
    reads_of_readItem? fun p rest ↦ by rw [readItem?, readNumber?_padded (by decide) hh]; rfl
  have hminute : Reads [.minute] (Date.padded 2 t.minute).toList fun p ↦
      { p with minute := t.minute } :=
    reads_of_readItem? fun p rest ↦ by rw [readItem?, readNumber?_padded (by decide) hm]; rfl
  have hsecond : Reads [.second] (Date.padded 2 t.shownSecond).toList fun p ↦
      { p with second := t.shownSecond } :=
    reads_of_readItem? fun p rest ↦ by rw [readItem?, readNumber?_padded (by decide) hs]; rfl
  rw [toList_clockText]
  exact (((hhour.append (reads_literal ':')).append hminute).append (reads_literal ':')).append
    hsecond

/-! ### Dates and date-times -/

/-- **A written date is read back.** -/
theorem readDate?_toText {d : Date} (h : 0 ≤ d.year ∧ d.year ≤ 9999) :
    readDate? d.toText = some d := by
  rw [readDate?, (reads_datePattern h).readItems?]
  exact d.ofParts?_self

/-- The parts of a date-time without a fraction make it up, also if it is a leap second. -/
theorem dateTime?_eq_some {t : DateTime} (hnano : t.nano = 0 ∨ t.nano = 1000000000) :
    Parts.dateTime? ⟨t.date.year, t.date.month, t.date.day, t.hour, t.minute, t.shownSecond, 0⟩ =
      some t := by
  have hdate : Parts.date? ⟨t.date.year, t.date.month, t.date.day, t.hour, t.minute,
      t.shownSecond, 0⟩ = some t.date := t.date.ofParts?_self
  have hself := t.ofParts?_self
  obtain ⟨⟨-, -, hsecond⟩, -, hleap⟩ := t.exists_time
  rw [Parts.dateTime?, hdate, Option.bind_eq_bind, Option.bind_some]
  rcases hnano with hnano | hnano
  · have hshown : t.shownSecond = t.second := if_neg (by omega)
    rw [hnano] at hself
    rw [if_neg (by simp only [hshown]; omega)]
    simpa only [hshown] using hself
  · have hshown : t.shownSecond = 60 := by
      rw [DateTime.shownSecond, if_pos (by omega), hleap (by omega)]
    rw [hnano, hleap (by omega)] at hself
    rw [if_pos hshown]
    exact hself

/-- **A stamped date-time without a fraction is read back**, and leap seconds are, too. -/
theorem readDateTime?_stampText {t : DateTime} (h : 0 ≤ t.date.year ∧ t.date.year ≤ 9999)
    (hnano : t.nano = 0 ∨ t.nano = 1000000000) :
    readDateTime? [.literal 'T'] [] t.stampText = some t := by
  have hall := ((reads_datePattern h).append (reads_literal 'T')).append (reads_clockPattern t)
  rw [readDateTime?, List.append_nil, toList_stampText, hall.readItems?]
  exact dateTime?_eq_some hnano

/-- A stamp of a year from 0 to 9999 takes 19 bytes. -/
theorem byteLength_stampText {t : DateTime} (h : 0 ≤ t.date.year ∧ t.date.year ≤ 9999) :
    Text.byteLength t.stampText.toList = 19 := by
  have hpadded {width n : ℕ} (hwidth : 0 < width) (hn : n < 10 ^ width) :
      Text.byteLength (Date.padded width n).toList = width := by
    rw [Text.byteLength_eq_length, length_padded hwidth hn]
    intro c hc
    have hbound := Numeral.toNat_of_isDigit (isDigit_of_mem_padded hc)
    rw [Char.utf8Size_eq_one_iff, UInt32.le_iff_toNat_le]
    change c.toNat ≤ 127
    omega
  obtain ⟨hmonth, hday⟩ := month_lt_and_day_lt t.date
  obtain ⟨hhour, hminute, hsecond⟩ := clock_lt t
  have hyear : t.date.year.toNat < 10 ^ 4 := by omega
  rw [toList_stampText, toList_toText, toList_clockText, yearText_eq_padded h]
  simp only [Text.byteLength_append, hpadded (by decide) hyear, hpadded (by decide) hmonth,
    hpadded (by decide) hday, hpadded (by decide) hhour, hpadded (by decide) hminute,
    hpadded (by decide) hsecond]
  rfl

end Calendar

end SurveyExport
