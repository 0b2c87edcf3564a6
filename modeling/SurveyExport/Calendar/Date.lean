/-!
# Dates and times of day

Dates of the proleptic Gregorian calendar and date-times without a time zone. A time of day may be
a leap second: it is second 59 with a billion nanoseconds or more.

* `Date.ofParts?` and `DateTime.ofParts?` accept exactly the dates and times that exist;
* `Date.dayNumber` counts days, so that differences of dates are differences of numbers.
-/

namespace SurveyExport

/-- Whether a year has a 29th of February. -/
def isLeapYear (year : Int) : Bool := year % 4 == 0 && (year % 100 != 0 || year % 400 == 0)

/-- The number of days of a month. -/
def daysInMonth (year : Int) (month : Nat) : Nat :=
  if month = 2 then if isLeapYear year then 29 else 28
  else if month = 4 || month = 6 || month = 9 || month = 11 then 30
  else 31

/-- A date of the proleptic Gregorian calendar, with year 0 before year 1. -/
structure Date where
  year : Int
  month : Nat
  day : Nat
  /-- The day exists, in a year the calendar covers. -/
  exists_day : (-262143 ≤ year ∧ year ≤ 262142) ∧ (1 ≤ month ∧ month ≤ 12) ∧
    1 ≤ day ∧ day ≤ daysInMonth year month
deriving DecidableEq, Repr

/-- A date and a time of day. -/
structure DateTime where
  date : Date
  hour : Nat
  minute : Nat
  second : Nat
  /-- Nanoseconds; a billion or more in a leap second. -/
  nano : Nat
  /-- The time of day exists. -/
  exists_time : (hour < 24 ∧ minute < 60 ∧ second < 60) ∧ nano < 2000000000 ∧
    (1000000000 ≤ nano → second = 59)
deriving DecidableEq, Repr

namespace Date

/-- The date with these parts, if it exists. -/
def ofParts? (year : Int) (month day : Nat) : Option Date :=
  if h : (-262143 ≤ year ∧ year ≤ 262142) ∧ (1 ≤ month ∧ month ≤ 12) ∧
      1 ≤ day ∧ day ≤ daysInMonth year month then
    some ⟨year, month, day, h⟩
  else none

/-- The days of a year before a month. -/
def daysBeforeMonth (year : Int) (month : Nat) : Nat :=
  (List.range (month - 1)).foldr (fun i days ↦ daysInMonth year (i + 1) + days) 0

/-- The number of a date, counted from 0001-01-01 as day 1. -/
def dayNumber (d : Date) : Int :=
  let y := d.year - 1
  365 * y + y / 4 - y / 100 + y / 400 + daysBeforeMonth d.year d.month + d.day

/-- A number with at least `width` digits. -/
def padded (width n : Nat) : String :=
  let ds := Nat.toDigits 10 n
  String.ofList (List.replicate (width - ds.length) '0' ++ ds)

/-- The year with four digits; one outside 0 to 9999 has a sign. -/
def yearText (year : Int) : String :=
  if 0 ≤ year && year ≤ 9999 then padded 4 year.toNat
  else (if year < 0 then "-" else "+") ++ padded 4 year.natAbs

/-- The date as year, month and day with hyphens between. -/
def toText (d : Date) : String := s!"{yearText d.year}-{padded 2 d.month}-{padded 2 d.day}"

/-- A date is found from its own parts. -/
@[simp] theorem ofParts?_self (d : Date) : ofParts? d.year d.month d.day = some d :=
  dif_pos d.exists_day

end Date

namespace DateTime

/-- The date-time with these parts, if it exists. -/
def ofParts? (date : Date) (hour minute second nano : Nat) : Option DateTime :=
  if h : (hour < 24 ∧ minute < 60 ∧ second < 60) ∧ nano < 2000000000 ∧
      (1000000000 ≤ nano → second = 59) then
    some ⟨date, hour, minute, second, nano, h⟩
  else none

/-- Midnight at the beginning of a date. -/
def midnight (date : Date) : DateTime := ⟨date, 0, 0, 0, 0, by decide⟩

/-- The nanoseconds since midnight; a leap second counts. -/
def nanosOfDay (t : DateTime) : Nat :=
  (t.hour * 3600 + t.minute * 60 + t.second) * 1000000000 + t.nano

/-- The nanoseconds since the beginning of day 0. -/
def nanos (t : DateTime) : Int := t.date.dayNumber * 86400000000000 + t.nanosOfDay

/-- The whole second shown for the time: a leap second is second 60. -/
def shownSecond (t : DateTime) : Nat := if 1000000000 ≤ t.nano then t.second + 1 else t.second

/-- The time of day as hours, minutes and seconds with colons between. -/
def clockText (t : DateTime) : String :=
  s!"{Date.padded 2 t.hour}:{Date.padded 2 t.minute}:{Date.padded 2 t.shownSecond}"

/-- The date, a space and the time of day. -/
def toText (t : DateTime) : String := s!"{t.date.toText} {t.clockText}"

/-- A date-time is found from its own parts. -/
@[simp] theorem ofParts?_self (t : DateTime) :
    ofParts? t.date t.hour t.minute t.second t.nano = some t :=
  dif_pos t.exists_time

end DateTime

end SurveyExport
