import SurveyExport.Decimal.Numeral
import SurveyExport.SystemFile.Basic
import SurveyExport.Text.Fresh
import SurveyExport.Text.Lowercase
import SurveyExport.Text.Search
import SurveyExport.Text.Utf8

/-!
# Names of variables

A variable is named by the title of its column, up to 64 bytes of it, with the characters replaced
that a name may not hold. A name that begins with an underscore gets an `@` before it. A name that
differs from an earlier one in case at most gets an `@` and four hexadecimal digits at its end. The
digits are drawn from a stream that the caller provides, until the name is new.

Beside its name every variable has a short name of at most eight characters.
-/

namespace SurveyExport.SystemFile

/-- The characters of a title as characters of a name. -/
def nameChars (title : String) : List Char :=
  (title.toList.filter fun c ↦ c != '{' && c != '}').map fun c ↦
    if c = '/' then '.' else if c = '-' ∨ c = ':' then '_' else c

/-- The name of a title, without regard to other names. -/
def baseName (title : String) : String :=
  match nameChars title with
  | '_' :: cs => String.ofList ('@' :: Text.fitting (maxNameLength - 1) ('_' :: cs))
  | cs => String.ofList (Text.fitting maxNameLength cs)

/-- The number of bytes of the suffix of a name that would clash. -/
def suffixLength : Nat := 5

/-- A name with a suffix; its end makes room. -/
def withSuffix (name digits : String) : String :=
  Text.cutBytes (maxNameLength - suffixLength) name ++ "@" ++ digits

/-- The names given so far, and how many suffixes have been drawn. -/
structure NamePool where
  names : List String := []
  drawn : Nat := 0
deriving DecidableEq, Repr

namespace NamePool

/-- Whether a name differs from one of those given in case at most. -/
def clashes (pool : NamePool) (name : String) : Bool :=
  pool.names.any fun other ↦ Text.lowercase other == Text.lowercase name

/-- The pool after giving a name. -/
def add (pool : NamePool) (name : String) (drawn : Nat) : NamePool := ⟨pool.names ++ [name], drawn⟩

/-- Draws suffixes for a name until it is new; gives up after so many. -/
def drawName? (draw : Nat → String) (pool : NamePool) (name : String) :
    (limit drawn : Nat) → Option (String × NamePool)
  | 0, _ => none
  | limit + 1, drawn =>
    let candidate := withSuffix name (draw drawn)
    if pool.clashes candidate then drawName? draw pool name limit (drawn + 1)
    else some (candidate, pool.add candidate (drawn + 1))

/-- The name of a title; none if all suffixes drawn within the limit clash. -/
def assign? (draw : Nat → String) (limit : Nat) (pool : NamePool) (title : String) :
    Option (String × NamePool) :=
  let name := baseName title
  if pool.clashes name then drawName? draw pool name limit pool.drawn
  else some (name, pool.add name pool.drawn)

/-- The names of titles, one after the other. -/
def assignAll? (draw : Nat → String) (limit : Nat) : NamePool → List String → Option (List String)
  | _, [] => some []
  | pool, title :: rest => do
    let (name, pool) ← pool.assign? draw limit title
    some (name :: (← assignAll? draw limit pool rest))

end NamePool

/-- The four hexadecimal digits after the last `@` of a name, if it ends so. -/
def clashSuffix? (name : String) : Option String :=
  ((Text.splitLast? '@' name).map (·.2)).filter fun digits ↦
    digits.toList.length == suffixLength - 1 && digits.toList.all Numeral.isHexDigit

/-- A number below 65536 as four hexadecimal digits. -/
def fourDigits (n : Nat) : String :=
  let ds := Nat.toDigits 16 (n % 65536)
  String.ofList (List.replicate (4 - ds.length) '0' ++ ds)

/-- A stream of suffixes in which every one comes up: they are counted up from a first one. -/
def countedSuffixes (first : Nat) (i : Nat) : String := fourDigits (first + i)

/-- The number of different suffixes. -/
def suffixCount : Nat := 65536

/-! ### Short names -/

/-- The greatest number of characters in a short name. -/
def maxShortName : Nat := 8

/-- Whether a short name may hold a character. -/
def isShortChar (c : Char) : Bool := c.isAlphanum || ['_', '@', '#', '$', '.'].contains c

/-- Whether a short name may begin with a character. -/
def isShortStart (c : Char) : Bool := c.isAlpha || c == '@'

/-- The short name of a name, without regard to other names. -/
def shortBase (name : String) : List Char :=
  let cs := ((name.toList.filter isShortChar).map Char.toUpper).take maxShortName
  match cs with
  | c :: _ => if isShortStart c then cs else ('V' :: cs).take maxShortName
  | [] => ['V']

/-- The variants of a short name. -/
def shortVariant (base : List Char) (i : Nat) : String := Text.numbered maxShortName base i

/--
The short name of a name, given those before it. Variants whose numbers have equally many digits
differ, and some number of digits below the bound has more of them than there are names.
-/
def shortName (taken : List String) (name : String) : String :=
  Text.firstFree taken.contains (shortVariant (shortBase name)) (100 * (taken.length + 1)) 0

/-- The short names of names. -/
def shortNames (names : List String) : List String := Text.giveEach shortName [] names

/-- Every name has a short name. -/
@[simp] theorem length_shortNames (names : List String) :
    (shortNames names).length = names.length :=
  Text.length_giveEach _ _ _

end SurveyExport.SystemFile
