import SurveyExport.Decimal.Numeral

/-!
# The tokens of JSON text

A JSON text is a sequence of tokens: marks, texts, numbers and the three words. The scanner reads
one character at a time and remembers what it is inside of, so it is a fold over the characters.

A number without fraction and exponent is whole if it fits 64 bits with or without sign; `-0` is
not. Any other number is read in one step: the leading digits that fit 64 bits give the
significand, and one multiplication or division by a power of ten scales it. A number beyond the
range is a token without a value, and so is a text in which a code is half of a pair.
-/

namespace SurveyExport.Json

/-- A token of JSON text. -/
inductive Token where
  | openArray
  | closeArray
  | openObject
  | closeObject
  | comma
  | colon
  | text (s : String)
  /-- A text in which a code is half of a pair. -/
  | brokenText
  | int (n : Int)
  | float (x : Float)
  /-- A number beyond the range. -/
  | hugeNumber
  | bool (b : Bool)
  | null

namespace Number

/-- The power of ten with the given exponent. -/
def tenTo (n : Nat) : Float := Float.ofScientific 1 false n

/--
The significand scaled by `10 ^ exponent`. An exponent beyond the largest power of ten is taken
in steps; only a step toward zero is possible then.
-/
def scale? (x : Float) (exponent : Int) : Option Float :=
  if exponent.natAbs ≤ 308 then
    if 0 ≤ exponent then
      let y := x * tenTo exponent.natAbs
      if y == 1 / 0 then none else some y
    else some (x / tenTo exponent.natAbs)
  else if x == 0 then some x
  else if 0 ≤ exponent then none
  else scale? (x / tenTo 308) (exponent + 308)
termination_by exponent.natAbs
decreasing_by omega

/-- Takes digits into a significand as long as it fits 64 bits; gives what is left over. -/
def takeDigits : Nat → List Char → Nat × List Char
  | n, [] => (n, [])
  | n, c :: cs =>
    let n' := 10 * n + (c.toNat - 48)
    if n' ≤ Numeral.maxWord then takeDigits n' cs else (n, c :: cs)

/-- The magnitude of a number that is not whole, if it is within the range. -/
def magnitude? (whole fraction : List Char) (exponent : Int) : Option Float :=
  let (n, dropped) := takeDigits 0 whole
  -- once a digit of the whole part does not fit, digits behind the point are tried anew
  let (n, unused) := takeDigits n fraction
  let scale : Int := dropped.length - (fraction.length - unused.length : Nat)
  if 2147483647 < exponent then if n = 0 then some 0 else none
  else if exponent < -2147483647 then some 0
  else scale? (Float.ofNat n) (scale + exponent)

/-- The token of a number that is not whole. -/
def floatToken (negative : Bool) (whole fraction : List Char) (exponent : Int) : Token :=
  match magnitude? whole fraction exponent with
  | some x => .float (if negative then -x else x)
  | none => .hugeNumber

/-- The token of a number with the given sign; `none` if it is malformed. -/
def ofMagnitude? (negative : Bool) (cs : List Char) : Option Token := do
  let whole := cs.takeWhile Char.isDigit
  let rest := cs.dropWhile Char.isDigit
  if whole.isEmpty || (1 < whole.length && whole.head? == some '0') then none
  let n := Numeral.ofDigits whole
  match rest with
  | [] =>
    if negative then
      if n ≠ 0 && Numeral.minInt ≤ -n then some (.int (-n)) else some (floatToken true whole [] 0)
    else if n ≤ Numeral.maxWord then some (.int n)
    else some (floatToken false whole [] 0)
  | '.' :: rest =>
    let fraction := rest.takeWhile Char.isDigit
    if fraction.isEmpty then none
    let exponent ← Numeral.readExponent? (rest.dropWhile Char.isDigit)
    some (floatToken negative whole fraction exponent)
  | rest => some (floatToken negative whole [] (← Numeral.readExponent? rest))

/-- The token of a number, if the characters spell one. -/
def token? : List Char → Option Token
  | '-' :: cs => ofMagnitude? true cs
  | cs => ofMagnitude? false cs

end Number

/-- The token of a word, if there is one. -/
def word? (cs : List Char) : Option Token :=
  match String.ofList cs with
  | "true" => some (.bool true)
  | "false" => some (.bool false)
  | "null" => some .null
  | _ => none

/-- The part of a text that has been read. -/
structure TextSoFar where
  /-- The characters in reverse. -/
  read : List Char := []
  /-- Whether every code is a character or half of a pair that is complete. -/
  sound : Bool := true

namespace TextSoFar

/-- The text with one more character. -/
def add (t : TextSoFar) (c : Char) : TextSoFar := { t with read := c :: t.read }

/-- The text with half of a pair. -/
def broken (t : TextSoFar) : TextSoFar := { t with sound := false }

/-- The token of the text. -/
def token (t : TextSoFar) : Token :=
  if t.sound then .text (String.ofList t.read.reverse) else .brokenText

end TextSoFar

/-- What the scanner is inside of; characters of numbers and words are kept in reverse. -/
inductive Scan where
  | between
  | number (read : List Char)
  | word (read : List Char)
  | text (t : TextSoFar)
  /-- After a backslash; `high` is the first half of a pair that stands before it. -/
  | escape (t : TextSoFar) (high : Option Nat)
  /-- Inside a code of four hexadecimal digits. -/
  | code (t : TextSoFar) (high : Option Nat) (digits value : Nat)
  /-- After the first half of a pair. -/
  | second (t : TextSoFar) (high : Nat)

/-- The character that a short escape stands for. -/
def shortEscape? (c : Char) : Option Char :=
  match c with
  | '"' => some '"'
  | '\\' => some '\\'
  | '/' => some '/'
  | 'b' => some '\x08'
  | 'f' => some '\x0c'
  | 'n' => some '\n'
  | 'r' => some '\r'
  | 't' => some '\t'
  | _ => none

/-- What follows a complete code: a character is added, or the second half of a pair is due. -/
def endCode (t : TextSoFar) (high : Option Nat) (value : Nat) : Scan :=
  match high with
  | some h =>
    if 0xDC00 ≤ value && value ≤ 0xDFFF then
      .text (t.add (Char.ofNat (0x10000 + (h - 0xD800) * 0x400 + (value - 0xDC00))))
    else .text t.broken
  | none =>
    if 0xD800 ≤ value && value ≤ 0xDBFF then .second t value
    else if 0xDC00 ≤ value && value ≤ 0xDFFF then .text t.broken
    else .text (t.add (Char.ofNat value))

/-- The characters that a number may consist of. -/
def isNumberChar (c : Char) : Bool :=
  c.isDigit || c == '-' || c == '+' || c == '.' || c == 'e' || c == 'E'

/-- Reads a character between tokens. -/
def startToken? (tokens : List Token) (c : Char) : Option (Scan × List Token) :=
  match c with
  | ' ' | '\t' | '\n' | '\r' => some (.between, tokens)
  | '[' => some (.between, .openArray :: tokens)
  | ']' => some (.between, .closeArray :: tokens)
  | '{' => some (.between, .openObject :: tokens)
  | '}' => some (.between, .closeObject :: tokens)
  | ',' => some (.between, .comma :: tokens)
  | ':' => some (.between, .colon :: tokens)
  | '"' => some (.text {}, tokens)
  | c =>
    if c == '-' || c.isDigit then some (.number [c], tokens)
    else if c.isAlpha then some (.word [c], tokens)
    else none

/-- Reads a character of a text outside escapes. -/
def textChar? (t : TextSoFar) (tokens : List Token) (c : Char) : Option (Scan × List Token) :=
  if c == '"' then some (.between, t.token :: tokens)
  else if c == '\\' then some (.escape t none, tokens)
  else if c.toNat < 0x20 then none
  else some (.text (t.add c), tokens)

/-- Reads one character; tokens are collected in reverse. -/
def scanChar? : Scan × List Token → Char → Option (Scan × List Token)
  | (.between, tokens), c => startToken? tokens c
  | (.number read, tokens), c =>
    if isNumberChar c then some (.number (c :: read), tokens)
    else do startToken? ((← Number.token? read.reverse) :: tokens) c
  | (.word read, tokens), c =>
    if c.isAlpha then some (.word (c :: read), tokens)
    else do startToken? ((← word? read.reverse) :: tokens) c
  | (.text t, tokens), c => textChar? t tokens c
  | (.escape t high, tokens), c =>
    if c == 'u' then some (.code t high 0 0, tokens)
    else
      let t := if high.isSome then t.broken else t
      (shortEscape? c).map fun d ↦ (.text (t.add d), tokens)
  | (.code t high digits value, tokens), c => do
    let value := 16 * value + (← Numeral.hexValue? c)
    if digits = 3 then some (endCode t high value, tokens)
    else some (.code t high (digits + 1) value, tokens)
  | (.second t high, tokens), c =>
    if c == '\\' then some (.escape t (some high), tokens) else textChar? t.broken tokens c

/-- Ends the scan: a number or word at the end is complete, a text is not. -/
def endScan? : Scan × List Token → Option (List Token)
  | (.between, tokens) => some tokens.reverse
  | (.number read, tokens) => do some ((← Number.token? read.reverse) :: tokens).reverse
  | (.word read, tokens) => do some ((← word? read.reverse) :: tokens).reverse
  | _ => none

/-- The tokens of a text, if it is made of tokens. -/
def tokens? (cs : List Char) : Option (List Token) := do
  endScan? (← cs.foldlM scanChar? (.between, []))

end SurveyExport.Json
