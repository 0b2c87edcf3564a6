import SurveyExport.Text.Cluster
import SurveyExport.Text.EmojiTable
import SurveyExport.Text.WidthTable

/-!
# The width of a text

The width of a text is the number of columns it takes in a terminal. A character on its own takes
two columns if it is wide, none if it is drawn over the one before it or not at all, and else one. A
few sequences are narrower or wider than their characters: a line end of two characters, an emoji
made of several, a character that a selector makes an emoji or a text sign, and the letters that
some scripts write as one. A text is measured from its end, since it is the character on the right
that tells what the one on the left takes.

* `width_eq_length`: plain text in Latin letters takes a column for each character;
* `clustersWidth_take_le`: the clusters that are said to fit do, each measured on its own.
-/

namespace SurveyExport.Text

/-! ### Single characters -/

/-- Whether a character is drawn over the one before it, or not at all. -/
def isWidthless (n : Nat) : Bool :=
  inRanges ignorableRanges n || inRanges extendingRanges n ||
    inRanges [(0x1160, 0x11FF), (0xD7B0, 0xD7C6), (0xD7CB, 0xD7FB), (0xA8FA, 0xA8FA)] n ||
    (inRanges prependedRanges n &&
      !inRanges [(0x600, 0x604), (0x6DD, 0x6DD), (0x110BD, 0x110BD), (0x110CD, 0x110CD)] n)

/-- The number of columns that a character takes on its own. -/
def charWidth (c : Char) : Nat :=
  let n := c.toNat
  if n ≤ 0xA0 then 1
  else if n == 0x115F || n == 0x17A4 then 2
  else if n == 0x17D8 then 3
  else if n == 0x2D7F then 1
  else if isWidthless n then 0
  else if inRanges wideRanges n then 2
  else 1

/-! ### What stands on the right -/

/-- The character on the right of a place, as far as it bears on the width on the left of it. -/
inductive Neighbour
  | plain
  | lineFeed
  /-- A colour of skin. -/
  | tint
  /-- One flag letter. -/
  | flagLetter
  /-- Several flag letters. -/
  | flagLetters
  | emoji
  /-- An emoji with a joiner before it. -/
  | joinedEmoji
  /-- A key's frame with a joiner and an emoji after it. -/
  | joinedKey
  /-- A flag letter with a joiner and an emoji after it. -/
  | joinedFlagLetter
  /-- An even number of flag letters with a joiner and an emoji after them. -/
  | evenFlagLetters
  /-- An odd number of them, from three on. -/
  | oddFlagLetters
  /-- The end of a tag, after so many letters or digits, with a joiner and an emoji after it. -/
  | tag (letters digits : Nat)
  /-- The Arabic letter alef. -/
  | alef
  /-- The Hebrew letter lamed, with or without a joiner before it. -/
  | lamed (joined : Bool)
  /-- A Khmer letter that can be set below another. -/
  | lowered
  /-- The Buginese letter ya, with or without a joiner before it. -/
  | ya (joined : Bool)
  /-- The Buginese vowel i before a joined ya. -/
  | vowelYa
  /-- A Tifinagh consonant, with or without a joiner before it. -/
  | consonant (joined : Bool)
  /-- A Tifinagh consonant with the sign that joins consonants before it. -/
  | linkedConsonant
  /-- The second letter of a Lisu tone. -/
  | tone
  /-- The Orkhon letter i. -/
  | orkhonI
  /-- The Kirat Rai vowel e. -/
  | vowelE
  /-- The Kirat Rai vowel ai. -/
  | vowelAi
deriving DecidableEq, Repr

namespace Neighbour

/-- Whether a letter may be written as one with the letters before it, marks or no marks. -/
def isSpelling : Neighbour → Bool
  | .alef | .lamed _ | .lowered | .ya _ | .vowelYa | .consonant _ | .linkedConsonant | .tone
  | .orkhonI => true
  | _ => false

/-- Whether a joiner or a silent mark may stand between a letter and its neighbour. -/
def seesThrough (r : Neighbour) : Bool := r.isSpelling && r != .alef

/-- A letter after a joiner. -/
def afterJoiner : Neighbour → Neighbour
  | .lamed _ => .lamed true
  | .ya _ => .ya true
  | .consonant _ => .consonant true
  | r => r

/-- Whether an emoji on the left is joined to what stands here. -/
def isJoined (r : Neighbour) : Bool := r == .joinedEmoji || r == .joinedKey

end Neighbour

/-- How a selector asks for a character to be shown. -/
inductive Look
  | emoji
  | sign
deriving DecidableEq, Repr

/-- What stands on the right of a place: a character, with a selector before it or none. -/
structure Following where
  neighbour : Neighbour
  look : Option Look
deriving DecidableEq, Repr

namespace Following

/-- Nothing that bears on the width. -/
def plain : Following := ⟨.plain, none⟩

/-- A character alone. -/
def only (r : Neighbour) : Following := ⟨r, none⟩

/-- What is left when a selector for emoji did not find its character. -/
def unselected (f : Following) : Following :=
  if f.look = some .emoji ∧ ¬ f.neighbour.isSpelling then plain else f

/-- What stands to the right of a place before a selector. -/
def selected (f : Following) (look : Look) : Following :=
  if f.neighbour.isSpelling ∨ look = .emoji ∧ f.neighbour.isJoined then ⟨f.neighbour, some look⟩
  else ⟨.plain, some look⟩

end Following

/-! ### Letters that are written as one -/

/-- The Arabic letters lam. -/
def isLam (n : Nat) : Bool :=
  inRanges [(0x644, 0x644), (0x6B5, 0x6B8), (0x76A, 0x76A), (0x8A6, 0x8A6), (0x8C7, 0x8C7)] n

/-- The Arabic letters alef. -/
def isAlef (n : Nat) : Bool :=
  inRanges [(0x622, 0x623), (0x625, 0x625), (0x627, 0x627), (0x671, 0x673), (0x675, 0x675),
    (0x773, 0x774), (0x870, 0x882)] n

/-- The consonants of Tifinagh. -/
def isTifinagh (n : Nat) : Bool := inRanges [(0x2D31, 0x2D65), (0x2D6F, 0x2D6F)] n

/-- The Khmer letters that can be set below another. -/
def isLowerable (n : Nat) : Bool :=
  inRanges [(0x1780, 0x1782), (0x1784, 0x1787), (0x1789, 0x178C), (0x178E, 0x1793),
    (0x1795, 0x1798), (0x179B, 0x179D), (0x17A0, 0x17A0), (0x17A2, 0x17A2), (0x17A7, 0x17A7),
    (0x17AB, 0x17AC), (0x17AF, 0x17AF)] n

/-- The marks that nothing is drawn for. -/
def isSilentMark (n : Nat) : Bool :=
  inRanges [(0x34F, 0x34F), (0x17B4, 0x17B5), (0x180B, 0x180D), (0x180F, 0x180F), (0x200D, 0x200D),
    (0xFE00, 0xFE0F), (0xE0100, 0xE01EF)] n

/-- A character on its own as the neighbour of what comes before it. -/
def neighbourOf (c : Char) : Neighbour :=
  let n := c.toNat
  if n == 0x5DC then .lamed false
  else if isAlef n then .alef
  else if isLowerable n then .lowered
  else if n == 0x1A10 then .ya false
  else if isTifinagh n then .consonant false
  else if n == 0xA4FC || n == 0xA4FD then .tone
  else if n == 0x10C03 then .orkhonI
  else if n == 0x16D67 then .vowelE
  else if n == 0x16D68 then .vowelAi
  else if isFlagLetter n then .flagLetter
  else if isTint n then .tint
  else if inRanges emojiRanges n then .emoji
  else .plain

/--
What a character adds to the width, and what it is as a neighbour, if it makes one with what
follows; `none` if it stands on its own.
-/
def united? (right : Neighbour) (c : Char) : Option (Int × Neighbour) :=
  let n := c.toNat
  let joiner := c == joinerMark
  let flagLetter := isFlagLetter n
  let tagLetter := 0xE0061 ≤ n && n ≤ 0xE007A
  let tagDigit := 0xE0030 ≤ n && n ≤ 0xE0039
  match right with
  | .plain | .lineFeed | .joinedKey => none
  | .alef =>
    if isLam n then some (0, .plain)
    else if isWidthless n && !inRanges partingRanges n then some (0, .alef)
    else none
  | .lamed joined => if joined && n == 0x5D0 then some (0, .plain) else none
  | .lowered => if n == 0x17D2 then some (-1, .plain) else none
  | .ya joined => if joined && n == 0x1A17 then some (0, .vowelYa) else none
  | .vowelYa => if n == 0x1A15 then some (0, .plain) else none
  | .consonant joined =>
    if n == 0x2D7F then some (1, .linkedConsonant)
    else if joined && isTifinagh n then some (0, .plain)
    else none
  | .linkedConsonant => if isTifinagh n then some (-1, .plain) else none
  | .tone => if 0xA4F8 ≤ n && n ≤ 0xA4FB then some (0, .plain) else none
  | .orkhonI => if n == 0x10C32 then some (0, .plain) else none
  | .vowelE =>
    if n == 0x16D63 || n == 0x16D69 then some (0, .plain)
    else if n == 0x16D67 then some (0, .vowelAi)
    else if n == 0x16D68 then some (1, .vowelE)
    else none
  | .vowelAi => if n == 0x16D63 then some (0, .plain) else none
  | .tint =>
    if inRanges tintableRanges n then some (0, .emoji)
    else if joiner then some (0, .joinedEmoji)
    else none
  | .emoji => if joiner then some (0, .joinedEmoji) else none
  | .flagLetter => if flagLetter then some (1, .flagLetters) else none
  | .flagLetters =>
    if flagLetter then some (1, .flagLetters) else if joiner then some (0, .joinedEmoji) else none
  | .joinedFlagLetter => if flagLetter then some (-1, .evenFlagLetters) else none
  | .evenFlagLetters =>
    if flagLetter then some (3, .oddFlagLetters)
    else if joiner then some (0, .joinedEmoji)
    else none
  | .oddFlagLetters =>
    if flagLetter then some (-1, .evenFlagLetters)
    else if joiner then some (0, .joinedEmoji)
    else none
  | .joinedEmoji =>
    if n == 0x20E3 then some (0, .joinedKey)
    else if flagLetter then some (1, .joinedFlagLetter)
    else if isTint n then some (0, .tint)
    else if n == 0xE007F then some (0, .tag 0 0)
    else if inRanges emojiRanges n then some (0, .emoji)
    else none
  | .tag letters digits =>
    if n == 0x1F3F4 && (digits == 3 || digits == 0 && 3 ≤ letters) then some (0, .emoji)
    else if tagLetter && digits == 0 && letters < 6 then some (0, .tag (letters + 1) 0)
    else if tagDigit && (0 < digits && digits < 3 || digits == 0 && letters < 5) then
      some (0, .tag letters (digits + 1))
    else none

/-! ### Texts -/

/-- Whether a selector makes a character a text sign that takes one column. -/
def becomesSign (n : Nat) : Bool :=
  inRanges selectableRanges n && inRanges emojiRanges n && !(0x1F200 ≤ n && n ≤ 0x1F2FF)

/-- What a character adds to the width of what follows it, and what it is to what comes before. -/
def place (next : Following) (c : Char) : Int × Following :=
  if next.look = some .emoji ∧ inRanges selectableRanges c.toNat then
    (if next.neighbour.isJoined then 0 else 2, .only .emoji)
  else if c.toNat ≤ 0xA0 then
    if c = '\n' then (1, .only .lineFeed)
    else if c = '\r' ∧ next = .only .lineFeed then (0, .plain)
    else (1, .plain)
  else if c = '\uFE0F' then (0, next.unselected.selected .emoji)
  else if c = '\uFE0E' then (0, next.unselected.selected .sign)
  else if next.look = some .sign ∧ becomesSign c.toNat then (1, .plain)
  else
    let right := next.unselected.neighbour
    if right.seesThrough && isSilentMark c.toNat then
      (0, .only (if c = joinerMark then right.afterJoiner else right))
    else
      match united? right c with
      | some (added, r) => (added, .only r)
      | none => (charWidth c, .only (neighbourOf c))

/-- The width of characters, and what stands before the first of them. -/
def measure : List Char → Int × Following
  | [] => (0, .plain)
  | c :: cs =>
    let (w, next) := measure cs
    let (added, before) := place next c
    (w + added, before)

/-- The number of columns that characters take. -/
def width (cs : List Char) : Nat := (measure cs).1.toNat

/-- Nothing takes no columns. -/
@[simp] theorem width_nil : width [] = 0 := rfl

/-- A printable character of ASCII takes one column and tells nothing about what comes before it. -/
theorem place_plain {c : Char} (hlow : 0x20 ≤ c.toNat) (hhigh : c.toNat < 0x7F) :
    place .plain c = (1, .plain) := by
  have hfeed : c ≠ '\n' := by
    rintro rfl
    simp at hlow
  have hle : c.toNat ≤ 0xA0 := by omega
  simp [place, Following.plain, Following.only, hle, hfeed]

theorem measure_of_ascii {cs : List Char} (h : ∀ c ∈ cs, 0x20 ≤ c.toNat ∧ c.toNat < 0x7F) :
    measure cs = ((cs.length : Int), Following.plain) := by
  induction cs with
  | nil => rfl
  | cons c cs ih =>
    have hc := h c (by simp)
    simp only [measure, ih fun d hd ↦ h d (by simp [hd]), place_plain hc.1 hc.2]
    simp

/-- Printable text of ASCII takes one column for each character. -/
theorem width_eq_length {cs : List Char} (h : ∀ c ∈ cs, 0x20 ≤ c.toNat ∧ c.toNat < 0x7F) :
    width cs = cs.length := by
  simp [width, measure_of_ascii h]

/-! ### Clusters that fit -/

/-- The number of columns that clusters take, each measured on its own. -/
def clustersWidth : List (List Char) → Nat
  | [] => 0
  | cluster :: rest => width cluster + clustersWidth rest

/-- The number of clusters at the front that fit into so many columns. -/
def fittingClusters : Nat → List (List Char) → Nat
  | _, [] => 0
  | room, cluster :: rest =>
    if width cluster ≤ room then fittingClusters (room - width cluster) rest + 1 else 0

/-- The clusters that fit do. -/
theorem clustersWidth_take_le (room : Nat) (cs : List (List Char)) :
    clustersWidth (cs.take (fittingClusters room cs)) ≤ room := by
  induction cs generalizing room with
  | nil => simp [fittingClusters, clustersWidth]
  | cons cluster rest ih =>
    simp only [fittingClusters]
    split
    · have := ih (room - width cluster)
      simp only [List.take_succ_cons, clustersWidth]
      omega
    · simp [clustersWidth]

/-- The number of characters in the clusters at the front of a text that fit into so many
columns. -/
def fittingCount (room : Nat) (cs : List Char) : Nat :=
  ((clusters cs).take (fittingClusters room (clusters cs))).flatten.length

/-- No more characters fit than there are. -/
theorem fittingCount_le (room : Nat) (cs : List Char) : fittingCount room cs ≤ cs.length := by
  have h := congrArg List.length
    (List.take_append_drop (fittingClusters room (clusters cs)) (clusters cs) |>
      congrArg List.flatten)
  rw [flatten_clusters, List.flatten_append, List.length_append] at h
  unfold fittingCount
  omega

end SurveyExport.Text
