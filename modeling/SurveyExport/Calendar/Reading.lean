import SurveyExport.Calendar.Date
import SurveyExport.Decimal.Numeral
import SurveyExport.Text.Blank

/-!
# Reading dates and times

Answers spell dates and times in two ways.

* A *pattern* is lenient: each number may follow blanks and may have fewer digits than usual; a
  year may have a sign, and then any number of digits; second 60 is a leap second.
* An *offset time stamp* is strict: two digits for each field but four for the year, an optional
  fraction, and then `Z` or an offset from universal time, which is dropped.
-/

namespace SurveyExport.Calendar

/-- A part of a pattern. -/
inductive Item where
  | year
  | month
  | day
  | hour
  | minute
  | second
  /-- Nothing, or a point and digits that count nanoseconds. -/
  | fraction
  /-- One fixed character. -/
  | literal (c : Char)
  /-- Any number of blanks. -/
  | blanks

/-- The numbers read so far; what is missing counts as the default. -/
structure Parts where
  year : Int := 0
  month : Nat := 0
  day : Nat := 0
  hour : Nat := 0
  minute : Nat := 0
  second : Nat := 0
  nano : Nat := 0

/-- The date of the parts, if it exists. -/
def Parts.date? (p : Parts) : Option Date := Date.ofParts? p.year p.month p.day

/-- The date-time of the parts, if it exists; second 60 is the leap second after second 59. -/
def Parts.dateTime? (p : Parts) : Option DateTime := do
  let date ← p.date?
  if p.second = 60 then DateTime.ofParts? date p.hour p.minute 59 (1000000000 + p.nano)
  else DateTime.ofParts? date p.hour p.minute p.second p.nano

/-- The longest run of at most `width` digits at the front, which must not be empty. -/
def readDigits? (width : Nat) (cs : List Char) : Option (Nat × List Char) :=
  let ds := (cs.take width).takeWhile Char.isDigit
  if ds.isEmpty then none else some (Numeral.ofDigits ds, cs.drop ds.length)

/-- A number of at most `width` digits after any blanks. -/
def readNumber? (width : Nat) (cs : List Char) : Option (Nat × List Char) :=
  readDigits? width (Text.dropBlanks cs)

/-- A year after any blanks: at most four digits, or a sign and any number of digits. -/
def readYear? (cs : List Char) : Option (Int × List Char) :=
  match Text.dropBlanks cs with
  | '-' :: rest => (readDigits? rest.length rest).map fun r ↦ (-(r.1 : Int), r.2)
  | '+' :: rest => (readDigits? rest.length rest).map fun r ↦ ((r.1 : Int), r.2)
  | rest => (readDigits? 4 rest).map fun r ↦ ((r.1 : Int), r.2)

/-- Digits after a point as nanoseconds: the first nine count. -/
def readNanos? (cs : List Char) : Option (Nat × List Char) :=
  let ds := cs.takeWhile Char.isDigit
  if ds.isEmpty then none
  else
    let kept := ds.take 9
    some (Numeral.ofDigits kept * Nat.pow 10 (9 - kept.length), cs.dropWhile Char.isDigit)

/-- Nothing, or a point and digits. -/
def readFraction? : List Char → Option (Nat × List Char)
  | '.' :: cs => readNanos? cs
  | cs => some (0, cs)

/-- Reads one part of a pattern. -/
def readItem? (p : Parts) (cs : List Char) : Item → Option (Parts × List Char)
  | .year => (readYear? cs).map fun r ↦ ({ p with year := r.1 }, r.2)
  | .month => (readNumber? 2 cs).map fun r ↦ ({ p with month := r.1 }, r.2)
  | .day => (readNumber? 2 cs).map fun r ↦ ({ p with day := r.1 }, r.2)
  | .hour => (readNumber? 2 cs).map fun r ↦ ({ p with hour := r.1 }, r.2)
  | .minute => (readNumber? 2 cs).map fun r ↦ ({ p with minute := r.1 }, r.2)
  | .second => (readNumber? 2 cs).map fun r ↦ ({ p with second := r.1 }, r.2)
  | .fraction => (readFraction? cs).map fun r ↦ ({ p with nano := r.1 }, r.2)
  | .literal c =>
    match cs with
    | d :: rest => if d = c then some (p, rest) else none
    | [] => none
  | .blanks => some (p, Text.dropBlanks cs)

/-- Reads the parts of a pattern one after the other; nothing may be left. -/
def readItems? : List Item → Parts → List Char → Option Parts
  | [], p, cs => if cs.isEmpty then some p else none
  | item :: items, p, cs => do
    let (p, cs) ← readItem? p cs item
    readItems? items p cs

/-- Year, month and day with hyphens between. -/
def datePattern : List Item := [.year, .literal '-', .month, .literal '-', .day]

/-- Hours, minutes and seconds with colons between. -/
def clockPattern : List Item := [.hour, .literal ':', .minute, .literal ':', .second]

/-- Reads a date. -/
def readDate? (s : String) : Option Date := do
  (← readItems? datePattern {} s.toList).date?

/-- Reads a date-time with the given parts between date and time and after the time. -/
def readDateTime? (between after : List Item) (s : String) : Option DateTime := do
  (← readItems? (datePattern ++ between ++ clockPattern ++ after) {} s.toList).dateTime?

/-- Exactly `width` digits at the front. -/
def readFixed? (width : Nat) (cs : List Char) : Option (Nat × List Char) :=
  let ds := cs.take width
  if ds.length = width && ds.all Char.isDigit then some (Numeral.ofDigits ds, cs.drop width)
  else none

/-- One fixed character at the front. -/
def expect? (accepted : List Char) : List Char → Option (List Char)
  | c :: cs => if accepted.contains c then some cs else none
  | [] => none

/-- An offset from universal time: `Z`, or a sign, hours below 24, a colon and minutes. -/
def readOffset? (cs : List Char) : Option (List Char) :=
  match cs with
  | 'Z' :: rest => some rest
  | 'z' :: rest => some rest
  | _ => do
    let rest ← expect? ['+', '-', '−'] cs
    let (hours, rest) ← readFixed? 2 rest
    let rest ← expect? [':'] rest
    let (minutes, rest) ← readFixed? 2 rest
    if hours < 24 && minutes < 60 then some rest else none

/-- Reads an offset time stamp: the local time, with the offset dropped. -/
def readOffsetStamp? (s : String) : Option DateTime := do
  let (year, cs) ← readFixed? 4 s.toList
  let cs ← expect? ['-'] cs
  let (month, cs) ← readFixed? 2 cs
  let cs ← expect? ['-'] cs
  let (day, cs) ← readFixed? 2 cs
  let cs ← expect? ['T', 't', ' '] cs
  let (hour, cs) ← readFixed? 2 cs
  let cs ← expect? [':'] cs
  let (minute, cs) ← readFixed? 2 cs
  let cs ← expect? [':'] cs
  let (second, cs) ← readFixed? 2 cs
  let (nano, cs) ← readFraction? cs
  let cs ← readOffset? cs
  if cs.isEmpty then
    Parts.dateTime? ⟨year, month, day, hour, minute, second, nano⟩
  else none

/-- Reads a date, or a date-time with `T` or a blank between its halves, at midnight if no time
is given. -/
def readTimestamp? (s : String) : Option DateTime :=
  let s := Text.trim s
  readOffsetStamp? s <|> readDateTime? [.literal 'T'] [.fraction] s <|>
    readDateTime? [.blanks] [.fraction] s <|> (readDate? s).map DateTime.midnight

end SurveyExport.Calendar
