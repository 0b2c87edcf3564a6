import SurveyExport.Text.ClusterTable
import SurveyExport.Text.Word

/-!
# Clusters

What a reader takes for one character may be several: a letter with its marks, a syllable of Hangul,
two flag letters, an emoji made of others. Such a cluster is never cut. The rules are those of the
Unicode standard for extended grapheme clusters.

* `flatten_clusters`: the clusters of a text, one after the other, are the text;
* `ne_nil_of_mem_clusters`: no cluster is empty.
-/

namespace SurveyExport.Text

/-- How a character stands to its neighbours. -/
inductive Bond
  | carriageReturn
  | lineFeed
  /-- Stands alone. -/
  | lonely
  /-- A mark that extends the character before it. -/
  | extending
  /-- The zero-width joiner. -/
  | joiner
  /-- A mark that takes its own place after a character. -/
  | spacing
  /-- A sign before what it belongs to. -/
  | prepended
  /-- Half of a flag. -/
  | flagLetter
  /-- A leading consonant of Hangul. -/
  | leading
  /-- A vowel of Hangul. -/
  | vowel
  /-- A trailing consonant of Hangul. -/
  | trailing
  /-- A syllable of Hangul that ends in a vowel. -/
  | openSyllable
  /-- A syllable of Hangul that ends in a consonant. -/
  | closedSyllable
  | plain
deriving DecidableEq, Repr

/-- The zero-width joiner. -/
def joinerMark : Char := '\u200D'

/-- Whether a code point is one of the letters that pair up to a flag. -/
def isFlagLetter (n : Nat) : Bool := 0x1F1E6 ≤ n && n ≤ 0x1F1FF

/-- Whether a code point is a colour of skin. -/
def isTint (n : Nat) : Bool := 0x1F3FB ≤ n && n ≤ 0x1F3FF

/-- How many syllables of Hangul there are for a leading consonant and a vowel. -/
def trailingCount : Nat := 28

/-- The bond of a character. -/
def bond (c : Char) : Bond :=
  let n := c.toNat
  if c == '\r' then .carriageReturn
  else if c == '\n' then .lineFeed
  else if 0x20 ≤ n && n < 0x7F then .plain
  else if c == joinerMark then .joiner
  else if inRanges lonelyRanges n then .lonely
  else if isTint n || inRanges extendingRanges n then .extending
  else if inRanges spacingRanges n then .spacing
  else if inRanges prependedRanges n then .prepended
  else if isFlagLetter n then .flagLetter
  else if inRanges [(0x1100, 0x115F), (0xA960, 0xA97C)] n then .leading
  else if inRanges [(0x1160, 0x11A7), (0xD7B0, 0xD7C6)] n then .vowel
  else if n == 0x16D63 || 0x16D67 ≤ n && n ≤ 0x16D6A then .vowel
  else if inRanges [(0x11A8, 0x11FF), (0xD7CB, 0xD7FB)] n then .trailing
  else if inRanges [(0xAC00, 0xD7A3)] n then
    if (n - 0xAC00) % trailingCount == 0 then .openSyllable else .closedSyllable
  else .plain

/-- What the end of a cluster waits for. -/
inductive Pending
  | nothing
  /-- A single flag letter, which waits for another. -/
  | flagLetter
  /-- A consonant, which a linking sign may join to another. -/
  | consonant
  /-- A consonant with a linking sign. -/
  | linked
  /-- A picture, which a joiner may join to another. -/
  | picture
  /-- A picture with a joiner. -/
  | joinedPicture
deriving DecidableEq, Repr

/-- The end of a cluster: the bond of its last character, and what it waits for. -/
structure ClusterEnd where
  last : Bond
  pending : Pending
deriving DecidableEq, Repr

namespace ClusterEnd

/-- What a cluster waits for that begins with a character. -/
def pendingFirst (c : Char) : Pending :=
  let n := c.toNat
  if isFlagLetter n then .flagLetter
  else if n < 0x80 then .nothing
  else if inRanges conjunctRanges n then .consonant
  else if inRanges pictureRanges n then .picture
  else .nothing

/-- What a cluster waits for after one more character. -/
def pendingNext (p : Pending) (c : Char) : Pending :=
  let mark := c == joinerMark || bond c == .extending
  match p with
  | .flagLetter => if isFlagLetter c.toNat then .nothing else pendingFirst c
  | .consonant | .linked =>
    if inRanges linkingRanges c.toNat then .linked
    else if mark && c != '\u200C' then p
    else pendingFirst c
  | .picture =>
    if c == joinerMark then .joinedPicture else if mark then .picture else pendingFirst c
  | .nothing | .joinedPicture => pendingFirst c

/-- The end of a cluster of one character. -/
def first (c : Char) : ClusterEnd := ⟨bond c, pendingFirst c⟩

/-- The end of a cluster after one more character. -/
def next (e : ClusterEnd) (c : Char) : ClusterEnd := ⟨bond c, pendingNext e.pending c⟩

/-- Whether two bonds keep characters in one cluster, whatever comes before them. -/
def holds : Bond → Bond → Bool
  | .carriageReturn, b => b == .lineFeed
  | .lineFeed, _ | .lonely, _ => false
  | _, .carriageReturn | _, .lineFeed | _, .lonely => false
  | _, .extending | _, .joiner | _, .spacing => true
  | .prepended, _ => true
  | .leading, b => b == .leading || b == .vowel || b == .openSyllable || b == .closedSyllable
  | .openSyllable, b | .vowel, b => b == .vowel || b == .trailing
  | .closedSyllable, b | .trailing, b => b == .trailing
  | _, _ => false

/-- Whether a character belongs to a cluster with the given end. -/
def takes (e : ClusterEnd) (c : Char) : Bool :=
  holds e.last (bond c) ||
    match e.pending with
    | .flagLetter => isFlagLetter c.toNat
    | .linked => inRanges conjunctRanges c.toNat
    | .joinedPicture => inRanges pictureRanges c.toNat
    | .nothing | .consonant | .picture => false

end ClusterEnd

/--
The characters that belong to a cluster with the given end, and the clusters of those that follow.
-/
def clustersAfter (e : ClusterEnd) : List Char → List Char × List (List Char)
  | [] => ([], [])
  | c :: cs =>
    if e.takes c then
      let (own, others) := clustersAfter (e.next c) cs
      (c :: own, others)
    else
      let (own, others) := clustersAfter (.first c) cs
      ([], (c :: own) :: others)

/-- The clusters of a text. -/
def clusters : List Char → List (List Char)
  | [] => []
  | c :: cs => (c :: (clustersAfter (.first c) cs).1) :: (clustersAfter (.first c) cs).2

theorem flatten_clustersAfter (e : ClusterEnd) (cs : List Char) :
    (clustersAfter e cs).1 ++ (clustersAfter e cs).2.flatten = cs := by
  induction cs generalizing e with
  | nil => rfl
  | cons c cs ih =>
    simp only [clustersAfter]
    split
    · simp [ih]
    · simp [ih]

/-- The clusters of a text, one after the other, are the text. -/
theorem flatten_clusters (cs : List Char) : (clusters cs).flatten = cs := by
  cases cs with
  | nil => rfl
  | cons c cs => simp [clusters, flatten_clustersAfter]

theorem ne_nil_of_mem_clustersAfter {e : ClusterEnd} {cs cluster : List Char}
    (h : cluster ∈ (clustersAfter e cs).2) : cluster ≠ [] := by
  induction cs generalizing e with
  | nil => simp [clustersAfter] at h
  | cons c cs ih =>
    simp only [clustersAfter] at h
    split at h
    · exact ih h
    · rcases List.mem_cons.1 h with rfl | h
      · simp
      · exact ih h

/-- No cluster is empty. -/
theorem ne_nil_of_mem_clusters {cs cluster : List Char} (h : cluster ∈ clusters cs) :
    cluster ≠ [] := by
  cases cs with
  | nil => simp [clusters] at h
  | cons c cs =>
    rcases List.mem_cons.1 h with rfl | h
    · simp
    · exact ne_nil_of_mem_clustersAfter h

end SurveyExport.Text
