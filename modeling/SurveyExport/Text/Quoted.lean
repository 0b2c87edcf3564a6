import SurveyExport.Text.ClusterTable
import SurveyExport.Text.PrintTable
import SurveyExport.Text.Word

/-!
# Quoted text

Messages show a name between double quotes. Inside, a backslash or quote is marked by a
backslash, the common controls have short names, and a character that would not show, or that
would melt into the one before it, is given by its code.
-/

namespace SurveyExport.Text

/-- The hexadecimal digits of a number, lower case. -/
def hexDigits (n : Nat) : String := String.ofList (Nat.toDigits 16 n)

/-- Whether a character would melt into the one before it; a halfwidth sound mark would not. -/
def melts (n : Nat) : Bool := inRanges extendingRanges n && !(0xFF9E ≤ n && n ≤ 0xFF9F)

/-- A character as it stands between quotes. -/
def quotedChar (c : Char) : String :=
  if c == '\x00' then "\\0"
  else if c == '\t' then "\\t"
  else if c == '\r' then "\\r"
  else if c == '\n' then "\\n"
  else if c == '"' then "\\\""
  else if c == '\\' then "\\\\"
  else
    let n := c.toNat
    if melts n || inRanges invisibleRanges n then
      "\\u\x7b" ++ hexDigits n ++ "\x7d"
    else String.singleton c

/-- A text between double quotes. -/
def quoted (s : String) : String := "\"" ++ String.join (s.toList.map quotedChar) ++ "\""

end SurveyExport.Text
