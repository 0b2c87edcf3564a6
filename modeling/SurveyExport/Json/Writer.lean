import SurveyExport.Decimal.Numeral
import SurveyExport.Json.Value

/-!
# Writing JSON

The written form is compact: no blanks between tokens, fields in their order, only the escapes
that are needed. A number that is not whole has the shortest digits, always with a point or an
exponent: the exponent is used from `1e+16` up and below `1e-5`.
-/

namespace SurveyExport.Json

/-- The written form of a binary64 number. -/
def floatText (x : Float) : String :=
  match Binary64.ofFloat x with
  | .nan | .infinite _ => "null"
  | .finite negative m e =>
    let magnitude :=
      if m = 0 then "0.0"
      else
        let d := Decimal.shortest .toEven m e
        if d.power < -5 || 16 ≤ d.power then d.scientific
        else if 0 ≤ d.exponent then d.positional ++ ".0"
        else d.positional
    if negative then "-" ++ magnitude else magnitude

/-- A hexadecimal digit. -/
def hexDigit (n : Nat) : Char := if n < 10 then Char.ofNat (48 + n) else Char.ofNat (87 + n)

/-- A character inside a written text. -/
def escapedChar (c : Char) : List Char :=
  if c == '"' then ['\\', '"']
  else if c == '\\' then ['\\', '\\']
  else if c == '\n' then ['\\', 'n']
  else if c == '\r' then ['\\', 'r']
  else if c == '\t' then ['\\', 't']
  else if c == '\x08' then ['\\', 'b']
  else if c == '\x0c' then ['\\', 'f']
  else if c.toNat < 0x20 then
    ['\\', 'u', '0', '0', hexDigit (c.toNat / 16), hexDigit (c.toNat % 16)]
  else [c]

/-- A text between quotes. -/
def textText (s : String) : String :=
  "\"" ++ String.ofList (s.toList.flatMap escapedChar) ++ "\""

mutual

/-- The written form of a value. -/
def write : Json → String
  | .null | .flawed => "null"
  | .bool b => if b then "true" else "false"
  | .int n => toString n
  | .float x => floatText x
  | .text s => textText s
  | .array items => "[" ++ ",".intercalate (writeItems items) ++ "]"
  | .object fields => "\x7b" ++ ",".intercalate (writeFields fields) ++ "\x7d"

/-- The written forms of values. -/
def writeItems : List Json → List String
  | [] => []
  | v :: rest => write v :: writeItems rest

/-- The written forms of fields. -/
def writeFields : List (String × Json) → List String
  | [] => []
  | (k, v) :: rest => (textText k ++ ":" ++ write v) :: writeFields rest

end

end SurveyExport.Json
