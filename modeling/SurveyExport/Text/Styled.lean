import SurveyExport.Text.Width

/-!
# Texts with control codes

A text for a terminal may hold control codes: sequences of characters that nothing is drawn for,
such as those that change the colour of what follows, until one puts everything back. A code takes
no columns, and a text is never cut within one. Where a text is cut in two, the codes in force are
put back at the end of the first part and begin the second.

* `toChars_ofChars`: a text is its characters and codes, one after the other;
* `shown_cutAt`: the two parts of a text show what the text shows.
-/

namespace SurveyExport.Text

/-! ### Control codes -/

/-- How far a control code is read. -/
inductive CodeState
  | introduced
  /-- A set of characters is to be named. -/
  | charset
  /-- Parameters are to come. -/
  | opened
  /-- A parameter with so many digits. -/
  | digits (count : Nat)
  /-- A parameter is closed, and another may come. -/
  | separated
  | ended
deriving DecidableEq, Repr

namespace CodeState

/-- Whether a control code may end here. -/
def mayEnd : CodeState → Bool
  | .digits _ | .ended => true
  | _ => false

/-- The greatest number of digits in a row. -/
def maxDigits : Nat := 5

/-- Whether a character opens the parameters of a code. -/
def isOpening (c : Char) : Bool :=
  c == '(' || c == ')' || c == '[' || c == '#' || c == '?' || c == ';'

/-- Whether a character is the last one of a code. -/
def isLast (c : Char) : Bool :=
  ('A' ≤ c && c ≤ 'P') || c == 'R' || c == 'Z' || c == 'c' || ('f' ≤ c && c ≤ 'n') ||
    c == 'q' || c == 'r' || c == 'y' || c == '=' || c == '<' || c == '>'

/-- How far a code is read after one more character, if that belongs to it. -/
def next? (s : CodeState) (c : Char) : Option CodeState :=
  match s with
  | .introduced =>
    if c == '(' || c == ')' then some .charset
    else if isOpening c then some .opened
    else if c.isDigit then some (.digits 1)
    else if isLast c then some .ended
    else none
  | .charset =>
    if isOpening c then some .opened
    else if '0' ≤ c && c ≤ '2' then some .ended
    else if c.isDigit then some (.digits 1)
    else if isLast c then some .ended
    else none
  | .opened =>
    if isOpening c then some .opened
    else if c.isDigit then some (.digits 1)
    else if isLast c then some .ended
    else none
  | .digits count =>
    if count = maxDigits then none
    else if c == ';' then some .separated
    else if c.isDigit then some (.digits (count + 1))
    else if isLast c then some .ended
    else none
  | .separated =>
    if c == ';' then some .separated
    else if c.isDigit then some (.digits 1)
    else if isLast c then some .ended
    else none
  | .ended => none

/-- The number of characters in the longest end of a code that is read so far. -/
def longest? (s : CodeState) : List Char → Option Nat
  | [] => none
  | c :: cs =>
    match s.next? c with
    | none => none
    | some t =>
      match t.longest? cs with
      | some n => some (n + 1)
      | none => if t.mayEnd then some 1 else none

end CodeState

/-- Whether a character introduces a control code. -/
def introducesCode (c : Char) : Bool := c == '\x1b' || c == '\u009b'

/-- A control code, with the character that introduces it. -/
abbrev ControlCode := List Char

/-- The code that puts everything back. -/
def resetCode : ControlCode := ['\x1b', '[', '0', 'm']

/-- The codes in force after others; a reset ends those before it. -/
def codesInForce (before codes : List ControlCode) : List ControlCode :=
  codes.foldl (fun held code ↦ if code = resetCode then [] else held ++ [code]) before

/-! ### Texts -/

/-- A character that is shown, with the control codes right before it. -/
structure Glyph where
  codes : List ControlCode
  char : Char
deriving DecidableEq, Repr

/-- A text with control codes. -/
structure Styled where
  glyphs : List Glyph
  /-- The codes after the last character that is shown. -/
  rest : List ControlCode
deriving DecidableEq, Repr

namespace Styled

/-- The text without characters or codes. -/
def empty : Styled := ⟨[], []⟩

/-- Whether a text has neither characters nor codes. -/
def isEmpty (s : Styled) : Bool := s.glyphs.isEmpty && s.rest.isEmpty

/-- Takes characters apart, after some codes. -/
def ofCharsAfter (codes : List ControlCode) : List Char → Styled
  | [] => ⟨[], codes⟩
  | c :: cs =>
    match if introducesCode c then CodeState.introduced.longest? cs else none with
    | some n => ofCharsAfter (codes ++ [c :: cs.take n]) (cs.drop n)
    | none =>
      let s := ofCharsAfter [] cs
      ⟨⟨codes, c⟩ :: s.glyphs, s.rest⟩
termination_by cs => cs.length
decreasing_by
  · simp only [List.length_drop, List.length_cons]
    omega
  · simp

/-- The text with the given characters. -/
def ofChars (cs : List Char) : Styled := ofCharsAfter [] cs

/-- The characters of glyphs with their codes. -/
def glyphChars (glyphs : List Glyph) : List Char :=
  glyphs.flatMap fun g ↦ g.codes.flatten ++ [g.char]

/-- The characters of a text, those of its codes included. -/
def toChars (s : Styled) : List Char := glyphChars s.glyphs ++ s.rest.flatten

/-- A text as a string, with its codes. -/
def written (s : Styled) : String := String.ofList s.toChars

/-- The characters that are shown. -/
def shown (s : Styled) : List Char := s.glyphs.map (·.char)

/-- The number of columns that a text takes. -/
def width (s : Styled) : Nat := Text.width s.shown

/-- The codes of a text. -/
def codes (s : Styled) : List ControlCode := s.glyphs.flatMap (·.codes) ++ s.rest

/-- A text with codes before it. -/
def after (held : List ControlCode) (s : Styled) : Styled :=
  match s.glyphs with
  | [] => ⟨[], held ++ s.rest⟩
  | g :: gs => ⟨⟨held ++ g.codes, g.char⟩ :: gs, s.rest⟩

/-- A text that ends with everything put back, if it is not. -/
def settled (held : List ControlCode) (s : Styled) : Styled :=
  if held.isEmpty then s else ⟨s.glyphs, s.rest ++ [resetCode]⟩

/-- Texts that stood in a row, each with the codes in force where it begins. -/
def carriedOver (held : List ControlCode) : List Styled → List Styled
  | [] => []
  | s :: others =>
    let now := codesInForce held s.codes
    settled now (after held s) :: carriedOver now others

/-- A text cut at every occurrence of a character; codes stay where they are. -/
def pieces (separator : Char) (rest : List ControlCode) : List Glyph → List Styled
  | [] => [⟨[], rest⟩]
  | g :: gs =>
    if g.char = separator then ⟨[], g.codes⟩ :: pieces separator rest gs
    else
      match pieces separator rest gs with
      | [] => []
      | first :: others => ⟨g :: first.glyphs, first.rest⟩ :: others

/-- A text cut at every occurrence of a character, with the codes in force in each piece. -/
def splitAt (separator : Char) (s : Styled) : List Styled :=
  carriedOver [] (pieces separator s.rest s.glyphs)

/-- Two texts with a character between them. -/
def join (between : Char) (s t : Styled) : Styled :=
  ⟨s.glyphs ++ ⟨s.rest, between⟩ :: t.glyphs, t.rest⟩

/-! ### Cutting -/

/-- The characters of glyphs, apart wherever there are codes between them. -/
def runs : List Glyph → List (List Char)
  | [] => []
  | [g] => [[g.char]]
  | g :: h :: gs =>
    match runs (h :: gs) with
    | [] => [[g.char]]
    | first :: others =>
      if h.codes.isEmpty then (g.char :: first) :: others else [g.char] :: first :: others

/-- The number of characters at the front of runs that fit into so many columns. -/
def fittingIn (room : Nat) : List (List Char) → Nat
  | [] => 0
  | run :: others =>
    if Text.width run ≤ room then run.length + fittingIn (room - Text.width run) others
    else fittingCount room run

/-- The number of characters at the front of a text that fit into so many columns. -/
def fitting (room : Nat) (s : Styled) : Nat := fittingIn room (runs s.glyphs)

/-- A text cut in two, the first part with so many characters. -/
def cutAt (n : Nat) (s : Styled) : Styled × Styled :=
  let held := codesInForce [] ((s.glyphs.take n).flatMap (·.codes))
  (settled held ⟨s.glyphs.take n, []⟩,
    match s.glyphs.drop n with
    | [] => ⟨[], s.rest⟩
    | g :: gs => ⟨⟨codesInForce held g.codes, g.char⟩ :: gs, s.rest⟩)

/-- A text is its characters and codes, one after the other. -/
theorem toChars_ofCharsAfter (codes : List ControlCode) (cs : List Char) :
    toChars (ofCharsAfter codes cs) = codes.flatten ++ cs := by
  fun_induction ofCharsAfter codes cs with
  | case1 codes => simp [toChars, glyphChars]
  | case2 codes c cs n h ih => simp [ih]
  | case3 codes c cs h s ih =>
    simp only [toChars, List.flatten_nil, List.nil_append] at ih
    simp only [s, toChars, glyphChars, List.flatMap_cons, List.append_assoc]
    rw [show List.flatMap (fun g : Glyph ↦ g.codes.flatten ++ [g.char])
      (ofCharsAfter [] cs).glyphs = glyphChars (ofCharsAfter [] cs).glyphs from rfl, ih]
    simp

/-- A text is its characters and codes, one after the other. -/
theorem toChars_ofChars (cs : List Char) : toChars (ofChars cs) = cs := by
  simp [ofChars, toChars_ofCharsAfter]

@[simp] theorem shown_settled (held : List ControlCode) (s : Styled) :
    (settled held s).shown = s.shown := by
  unfold settled
  split <;> rfl

/-- The two parts of a text show what the text shows. -/
theorem shown_cutAt (n : Nat) (s : Styled) :
    (cutAt n s).1.shown ++ (cutAt n s).2.shown = s.shown := by
  have h : s.shown = (s.glyphs.take n).map (·.char) ++ (s.glyphs.drop n).map (·.char) := by
    rw [← List.map_append, List.take_append_drop]
    rfl
  rw [h]
  simp only [cutAt, shown_settled]
  cases s.glyphs.drop n <;> simp [shown]

/-- What is left of a text has as many characters less as the first part was given. -/
theorem length_cutAt_snd (n : Nat) (s : Styled) :
    (cutAt n s).2.glyphs.length = s.glyphs.length - n := by
  rw [← List.length_drop]
  simp only [cutAt]
  cases s.glyphs.drop n <;> simp

end Styled

end SurveyExport.Text
