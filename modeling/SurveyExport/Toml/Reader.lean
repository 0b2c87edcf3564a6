import SurveyExport.Calendar.Reading
import SurveyExport.Toml.Value

/-!
# Reading TOML

The reader follows version 1.1 of the language: tables in braces may run over several lines, a time
of day may leave out its seconds, and texts know the escapes `\e` and `\x`.

It goes through the text from left to right. Each step takes characters off the front of what is
left; repetition is bounded by the number of characters of the document, and brackets may be nested
to a fixed depth.
-/

namespace SurveyExport.Toml

/-- A step of reading: it takes characters off the front, or fails. -/
abbrev Reading := StateT (List Char) Option

namespace Reading

/-- Takes the longest run of characters of a class. -/
def takeAll (p : Char → Bool) : Reading (List Char) := fun cs ↦
  some (cs.takeWhile p, cs.dropWhile p)

/-- Takes one character. -/
def char : Reading Char
  | c :: cs => some (c, cs)
  | [] => none

/-- Looks at the characters that are left. -/
def peek : Reading (List Char) := get

/-- Takes a fixed text. -/
def expect (s : String) : Reading Unit := fun cs ↦
  if s.toList.isPrefixOf cs then some ((), cs.drop s.length) else none

/-- Takes a fixed text if it comes next, and tells whether it did. -/
def accept (s : String) : Reading Bool := fun cs ↦
  if s.toList.isPrefixOf cs then some (true, cs.drop s.length) else some (false, cs)

/-- Passes over spaces and tabs. -/
def spaces : Reading Unit := do
  let _ ← takeAll fun c ↦ c == ' ' || c == '\t'

/-- The characters that may stand for themselves in comments and texts of one line. -/
def isPlain (c : Char) : Bool := c == '\t' || (0x20 ≤ c.toNat && c.toNat != 0x7f)

/-- Passes over a comment, if there is one. -/
def comment : Reading Unit := do
  if ← accept "#" then
    let _ ← takeAll isPlain

/-- Takes the end of a line, or finds the end of the document. -/
def lineEnd : Reading Unit := do
  if (← peek).isEmpty then return
  if ← accept "\n" then return
  expect "\r\n"

/-- Passes over blanks, comments and ends of lines. -/
def blankLines : Nat → Reading Unit
  | 0 => failure
  | fuel + 1 => do
    spaces
    comment
    match ← peek with
    | '\n' :: _ | '\r' :: _ => do
      lineEnd
      blankLines fuel
    | _ => pure ()

/-! ### Texts -/

/-- The character with a code of a fixed number of hexadecimal digits. -/
def code : Nat → Nat → Reading Char
  | 0, value =>
    if value < 0xD800 || (0xDFFF < value && value < 0x110000) then pure (Char.ofNat value)
    else failure
  | digits + 1, value => do
    match Numeral.hexValue? (← char) with
    | some d => code digits (16 * value + d)
    | none => failure

/-- The character that an escape stands for, after its backslash. -/
def escape : Reading Char := do
  match ← char with
  | 'b' => pure '\x08'
  | 't' => pure '\t'
  | 'n' => pure '\n'
  | 'e' => pure '\x1b'
  | 'f' => pure '\x0c'
  | 'r' => pure '\r'
  | '"' => pure '"'
  | '\\' => pure '\\'
  | 'x' => code 2 0
  | 'u' => code 4 0
  | 'U' => code 8 0
  | _ => failure

/-- The rest of a text of one line after its opening quote. -/
def lineText (quote : Char) (escapes : Bool) : Nat → List Char → Reading String
  | 0, _ => failure
  | fuel + 1, read => do
    let c ← char
    if c == quote then pure (String.ofList read.reverse)
    else if escapes && c == '\\' then do
      let d ← escape
      lineText quote escapes fuel (d :: read)
    else if isPlain c then lineText quote escapes fuel (c :: read)
    else failure

/-- Passes over blanks and ends of lines, where no comment may stand. -/
def blankEnds : Nat → Reading Unit
  | 0 => failure
  | fuel + 1 => do
    spaces
    if (← accept "\n") || (← accept "\r\n") then blankEnds fuel

/-- The rest of a text of several lines after its opening quotes. -/
def blockText (quote : Char) (escapes : Bool) : Nat → List Char → Reading String
  | 0, _ => failure
  | fuel + 1, read => do
    let c ← char
    if c == quote then
      -- up to two quotes may stand before the three that close the text
      let more ← takeAll (· == quote)
      let n := more.length + 1
      if n < 3 then blockText quote escapes fuel (List.replicate n quote ++ read)
      else if n ≤ 5 then pure (String.ofList (List.replicate (n - 3) quote ++ read).reverse)
      else failure
    else if escapes && c == '\\' then do
      let after ← peek
      match after.dropWhile (fun d ↦ d == ' ' || d == '\t') with
      | '\n' :: _ | '\r' :: '\n' :: _ => do
        blankEnds fuel
        blockText quote escapes fuel read
      | _ => do
        let d ← escape
        blockText quote escapes fuel (d :: read)
    else if c == '\n' then blockText quote escapes fuel ('\n' :: read)
    else if c == '\r' then do
      expect "\n"
      blockText quote escapes fuel ('\n' :: read)
    else if isPlain c then blockText quote escapes fuel (c :: read)
    else failure

/-- A text in quotes; three quotes open a text of several lines if those are allowed. -/
def quotedText (fuel : Nat) (blocks : Bool) : Reading String := do
  let quote ← char
  let escapes := quote == '"'
  let three := String.ofList [quote, quote]
  if blocks && three.toList.isPrefixOf (← peek) then do
    expect three
    let _ ← accept "\n" <||> accept "\r\n"
    blockText quote escapes fuel []
  else lineText quote escapes fuel []

/-! ### Keys -/

/-- The characters of keys without quotes. -/
def isBare (c : Char) : Bool := c.isAlphanum || c == '_' || c == '-'

/-- One part of a key. -/
def keyPart (fuel : Nat) : Reading String := do
  match ← peek with
  | '"' :: _ | '\'' :: _ => quotedText fuel false
  | _ => do
    let cs ← takeAll isBare
    if cs.isEmpty then failure else pure (String.ofList cs)

/-- The parts of a key, with points between them, and the blanks after it; there may be `n`. -/
def keyParts (fuel : Nat) : (n : Nat) → Reading (List String)
  | 0 => failure
  | n + 1 => do
    let part ← keyPart fuel
    spaces
    if ← accept "." then do
      spaces
      let rest ← keyParts fuel n
      pure (part :: rest)
    else pure [part]

/-- The number of parts that a key may have. -/
def maxKeyParts : Nat := 80

/-- A key and the blanks after it. -/
def key (fuel : Nat) : Reading (List String) := keyParts fuel maxKeyParts

/-! ### Numbers and times -/

/-- Digits of a class with single underscores between them; gives the digits. -/
def digitsWith? (p : Char → Bool) (cs : List Char) : Option (List Char) :=
  let groups := Text.pieces (· == '_') cs
  if groups.all fun g ↦ !g.isEmpty && g.all p then some groups.flatten else none

/-- The value of digits in a base. -/
def inBase (base : Nat) (cs : List Char) : Nat :=
  cs.foldl (fun n c ↦ base * n + (Numeral.hexValue? c).getD 0) 0

/-- The least whole number that is read, the one of 128 bits with sign. -/
def leastInt : Int := -170141183460469231731687303715884105728

/-- The greatest whole number that is read, the one of 128 bits without sign. -/
def greatestInt : Int := 340282366920938463463374607431768211455

/-- A whole number; it must fit 128 bits. -/
def int? (cs : List Char) : Option Int := do
  let n : Int ←
    match cs with
    | '0' :: 'x' :: ds => (digitsWith? Numeral.isHexDigit ds).map (inBase 16 ·)
    | '0' :: 'o' :: ds => (digitsWith? (fun c ↦ '0' ≤ c && c ≤ '7') ds).map (inBase 8 ·)
    | '0' :: 'b' :: ds => (digitsWith? (fun c ↦ c == '0' || c == '1') ds).map (inBase 2 ·)
    | _ => do
      let (negative, ds) := Numeral.readSign cs
      let ds ← digitsWith? Char.isDigit ds
      if 1 < ds.length && ds.head? == some '0' then none
      let n : Int := Numeral.ofDigits ds
      some (if negative then -n else n)
  if leastInt ≤ n && n ≤ greatestInt then some n else none

/-- A number with a fraction or an exponent, or one of the special numbers; only the word for it is
read as an infinity. -/
def float? (cs : List Char) : Option Float := do
  let (_, magnitude) := Numeral.readSign cs
  if magnitude == ['i', 'n', 'f'] || magnitude == ['n', 'a', 'n'] then
    Numeral.readFloat? (String.ofList cs)
  else
    let whole := magnitude.takeWhile fun c ↦ c.isDigit || c == '_'
    let rest := magnitude.dropWhile fun c ↦ c.isDigit || c == '_'
    let wholeDigits ← digitsWith? Char.isDigit whole
    if 1 < wholeDigits.length && wholeDigits.head? == some '0' then none
    let rest ←
      match rest with
      | '.' :: rest => do
        let fraction := rest.takeWhile fun c ↦ c.isDigit || c == '_'
        let _ ← digitsWith? Char.isDigit fraction
        some (rest.dropWhile fun c ↦ c.isDigit || c == '_')
      | rest => some rest
    match rest with
    | [] => some ()
    | c :: power =>
      if c == 'e' || c == 'E' then do
        let _ ← digitsWith? Char.isDigit (Numeral.readSign power).2
        some ()
      else none
    let x ← Numeral.readFloat? (String.ofList (cs.filter (· != '_')))
    if (Binary64.ofFloat x).isFinite then some x else none

/-- Passes over the seconds of a time of day and their fraction, if there are any. -/
def passSeconds? : List Char → Option (List Char)
  | ':' :: cs => do
    let (second, cs) ← Calendar.readFixed? 2 cs
    if 60 < second then none
    let (_, cs) ← Calendar.readFraction? cs
    some cs
  | cs => some cs

/-- Whether characters spell a time of day; an offset may follow if `offset` says so. -/
def isClock (offset : Bool) (cs : List Char) : Bool :=
  let read : Option Unit := do
    let (hour, cs) ← Calendar.readFixed? 2 cs
    let cs ← Calendar.expect? [':'] cs
    let (minute, cs) ← Calendar.readFixed? 2 cs
    let cs ← passSeconds? cs
    if 23 < hour || 59 < minute then none
    if cs.isEmpty then some ()
    else if offset && cs.head? != some '−' then
      (Calendar.readOffset? cs).bind fun rest ↦ if rest.isEmpty then some () else none
    else none
  read.isSome

/-- Whether characters spell a date. -/
def isDate (cs : List Char) : Bool :=
  let read : Option Unit := do
    let (year, cs) ← Calendar.readFixed? 4 cs
    let cs ← Calendar.expect? ['-'] cs
    let (month, cs) ← Calendar.readFixed? 2 cs
    let cs ← Calendar.expect? ['-'] cs
    let (day, cs) ← Calendar.readFixed? 2 cs
    let _ ← Date.ofParts? year month day
    if cs.isEmpty then some () else none
  read.isSome

/-- Whether characters spell a date, a time of day, or a date and a time of day. -/
def isTime (cs : List Char) : Bool :=
  isDate cs || isClock false cs ||
    (isDate (cs.take 10) && ['T', 't', ' '].contains ((cs.drop 10).headD 'x') &&
      isClock true (cs.drop 11))

/-- The characters that numbers, times and words consist of. -/
def isScalarChar (c : Char) : Bool := c.isAlphanum || "+-_.:".toList.contains c

/-- A number, a time or a truth value. -/
def scalar : Reading Value := do
  let cs ← takeAll isScalarChar
  -- a blank may stand between a date and a time of day
  let cs ←
    match ← peek with
    | ' ' :: c :: _ =>
      if isDate cs && c.isDigit then do
        let _ ← char
        let clock ← takeAll isScalarChar
        pure (cs ++ ' ' :: clock)
      else pure cs
    | _ => pure cs
  match String.ofList cs with
  | "true" => pure (.bool true)
  | "false" => pure (.bool false)
  | written =>
    match int? cs, float? cs with
    | some n, _ => pure (.int n)
    | none, some x => pure (.float x)
    | none, none => if isTime cs then pure (.time written) else failure

/-! ### Values -/

/-- How deep arrays and tables in braces may be nested. -/
def maxDepth : Nat := 80

mutual

/-- A value; `depth` more brackets may be opened. -/
def value : Nat → Nat → Reading Value
  | 0, _ => failure
  | fuel + 1, depth => do
    match ← peek, depth with
    | '"' :: _, _ | '\'' :: _, _ => do pure (.text (← quotedText fuel true))
    | '[' :: _, depth + 1 => do
      let _ ← char
      pure (.array (← items fuel depth))
    | '{' :: _, depth + 1 => do
      let _ ← char
      pure (.table .inline (← inlineEntries fuel depth []))
    | '[' :: _, 0 | '{' :: _, 0 => failure
    | _, _ => scalar

/-- The items of an array up to its end; a comma may follow the last one. -/
def items : Nat → Nat → Reading (List Value)
  | 0, _ => failure
  | fuel + 1, depth => do
    blankLines fuel
    if ← accept "]" then pure []
    else do
      let v ← value fuel depth
      blankLines fuel
      if ← accept "," then do pure (v :: (← items fuel depth))
      else do
        expect "]"
        pure [v]

/-- The entries of a table in braces up to its end; a comma may follow the last one. -/
def inlineEntries : Nat → Nat → Body → Reading Body
  | 0, _, _ => failure
  | fuel + 1, depth, entries => do
    blankLines fuel
    if ← accept "\x7d" then pure entries
    else do
      let path ← key fuel
      blankLines fuel
      expect "="
      blankLines fuel
      let v ← value fuel depth
      match putKey? v true path entries with
      | none => failure
      | some entries => do
        blankLines fuel
        if ← accept "," then inlineEntries fuel depth entries
        else do
          expect "\x7d"
          pure entries

end

/-! ### Documents -/

/-- What a line says. -/
inductive Line where
  | entry (path : List String) (v : Value)
  | header (path : List String)
  | appended (path : List String)

/-- The content of a line and its end. -/
def line (fuel : Nat) : Reading Line := do
  let content ←
    if ← accept "[[" then do
      spaces
      let path ← key fuel
      expect "]]"
      pure (Line.appended path)
    else if ← accept "[" then do
      spaces
      let path ← key fuel
      expect "]"
      pure (Line.header path)
    else do
      let path ← key fuel
      expect "="
      spaces
      let v ← value fuel maxDepth
      pure (Line.entry path v)
  spaces
  comment
  lineEnd
  pure content

/-- The rest of a document below the header with the given path. -/
def document (size : Nat) : Nat → List String → Body → Reading Body
  | 0, _, _ => failure
  | fuel + 1, current, entries => do
    blankLines size
    if (← peek).isEmpty then pure entries
    else do
      match ← line size with
      | .entry path v =>
        match updateAt? (putKey? v true path) current entries with
        | some entries => document size fuel current entries
        | none => failure
      | .header path =>
        match define? path entries with
        | some entries => document size fuel path entries
        | none => failure
      | .appended path =>
        match append? path entries with
        | some entries => document size fuel path entries
        | none => failure

end Reading

/-- Reads a document; its top table becomes a JSON object. -/
def read? (s : String) : Option Json := do
  -- a byte order mark at the front does not count
  let cs := s.toList
  let cs := if cs.head? == some '\uFEFF' then cs.tail else cs
  let size := cs.length + 2
  let (entries, rest) ← (Reading.document size size [] []).run cs
  if rest.isEmpty then some (.object (entriesToJson entries)) else none

end SurveyExport.Toml
