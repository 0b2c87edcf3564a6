import Mathlib.Data.List.Infix
import SurveyExport.Submission.Media

/-!
# Which file a media answer is resolved to

An attachment is stored under a path, and the answer to a media question is a file's name. The
address is looked up by the end of the path. A path whose last segment is the name ends with it, but
so does one whose last segment is only longer at its front: `11.jpg` ends with `1.jpg`.

* `Attachment.resolve?_eq_some_iff`: the address is that of the first path that ends with the name.
* `Attachment.exists_resolve?_of_isNamed`: so a stored file is found, and it is the right one just
  if no longer name stands before it.
-/

namespace SurveyExport

namespace Text

/-- To finish with a text is to have its characters last. -/
theorem finishesWith_iff {ending s : String} :
    finishesWith ending s = true ↔ ending.toList <:+ s.toList := by
  rw [finishesWith, List.isSuffixOf_iff_suffix]

/-- A path ends with its last segment. -/
theorem lastSegment_suffix (path : String) : (lastSegment path).toList <:+ path.toList := by
  cases h : splitLastChars? '/' path.toList with
  | none => simp [lastSegment, splitLast?, h]
  | some sides =>
    obtain ⟨hpath, -⟩ := splitLastChars?_eq_some h
    simp only [lastSegment, splitLast?, h, Option.map_some, Option.getD_some,
      String.toList_ofList]
    exact ⟨sides.1 ++ ['/'], by rw [List.append_assoc]; exact hpath.symm⟩

end Text

namespace Attachment

/-- The file has a name: the last segment of its path is the name. -/
def IsNamed (a : Attachment) (name : String) : Prop := Text.lastSegment a.filename = name

/-- The path of the file ends with a name. -/
def EndsWith (a : Attachment) (name : String) : Prop := name.toList <:+ a.filename.toList

instance (a : Attachment) (name : String) : Decidable (a.IsNamed name) :=
  inferInstanceAs (Decidable (_ = _))

instance (a : Attachment) (name : String) : Decidable (a.EndsWith name) :=
  inferInstanceAs (Decidable (_ <:+ _))

variable {a : Attachment} {name : String}

/-- The path of a file ends with the file's name. -/
theorem IsNamed.endsWith (h : a.IsNamed name) : a.EndsWith name :=
  h ▸ Text.lastSegment_suffix a.filename

/-- **An address is that of the first file whose path ends with the name.** -/
theorem resolve?_eq_some_iff {host : Option String} {files : List Attachment} {url : String}
    (hname : name ≠ "") :
    resolve? host files name = some url ↔
      ∃ before a after, files = before ++ a :: after ∧ (∀ b ∈ before, ¬ b.EndsWith name) ∧
        a.EndsWith name ∧ withHost host a.address = url := by
  have hempty : name.isEmpty = false := by simpa using hname
  rw [resolve?, hempty, if_neg (by simp), Option.map_eq_some_iff]
  simp only [List.find?_eq_some_iff_append, Bool.not_eq_true', Text.finishesWith_iff,
    Bool.eq_false_iff, ne_eq]
  constructor
  · rintro ⟨a, ⟨ha, before, after, hfiles, hbefore⟩, hurl⟩
    exact ⟨before, a, after, hfiles, hbefore, ha, hurl⟩
  · rintro ⟨before, a, after, hfiles, hbefore, ha, hurl⟩
    exact ⟨a, ⟨ha, before, after, hfiles, hbefore⟩, hurl⟩

/-- The first file whose path ends with a name has the name just if no other file whose path ends
with it stands before the first that has the name. -/
theorem isNamed_iff_of_first {before after : List Attachment}
    (hbefore : ∀ b ∈ before, ¬ b.EndsWith name) (ha : a.EndsWith name) :
    a.IsNamed name ↔
      ∀ b ∈ (before ++ a :: after).takeWhile fun b ↦ ¬ b.IsNamed name, ¬ b.EndsWith name := by
  have hunnamed : ∀ b ∈ before, (decide ¬ b.IsNamed name) = true := fun b hb ↦
    decide_eq_true fun h ↦ hbefore b hb h.endsWith
  rw [List.takeWhile_append_of_pos hunnamed, List.takeWhile_cons]
  by_cases hnamed : a.IsNamed name
  · simpa [hnamed] using hbefore
  · simp only [hnamed, not_false_eq_true, decide_true, if_true, false_iff]
    exact fun h ↦ h a (by simp) ha

/-- **A stored file is found by its name, if no longer name hides it.** Some address is given; it is
that of the first file whose path ends with the name. This file has the name just if every file that
stands before the first one with the name has a path that does not end with it. -/
theorem exists_resolve?_of_isNamed (host : Option String) (files : List Attachment)
    (hname : name ≠ "") (hstored : ∃ a ∈ files, a.IsNamed name) :
    ∃ before a after, files = before ++ a :: after ∧ (∀ b ∈ before, ¬ b.EndsWith name) ∧
      a.EndsWith name ∧ resolve? host files name = some (withHost host a.address) ∧
      (a.IsNamed name ↔
        ∀ b ∈ files.takeWhile fun b ↦ ¬ b.IsNamed name, ¬ b.EndsWith name) := by
  obtain ⟨c, hc, hnamed⟩ := hstored
  obtain ⟨a, ha⟩ : ∃ a, files.find? (fun a ↦ a.EndsWith name) = some a := by
    refine Option.isSome_iff_exists.1 (List.find?_isSome.2 ⟨c, hc, ?_⟩)
    exact decide_eq_true hnamed.endsWith
  obtain ⟨hends, before, after, rfl, hbefore⟩ := List.find?_eq_some_iff_append.1 ha
  have hbefore : ∀ b ∈ before, ¬ b.EndsWith name := fun b hb ↦ by simpa using hbefore b hb
  have hends : a.EndsWith name := of_decide_eq_true hends
  exact ⟨before, a, after, rfl, hbefore, hends,
    (resolve?_eq_some_iff hname).2 ⟨before, a, after, rfl, hbefore, hends, rfl⟩,
    isNamed_iff_of_first hbefore hends⟩

/-- Two photos, of which the first has the longer name. -/
def photos : List Attachment :=
  [{ filename := "visit/11.jpg", downloadUrl := some "/files/11" },
    { filename := "visit/1.jpg", downloadUrl := some "/files/1" }]

/-- The photo with the longer name is found by its own name, and it is the right one. -/
theorem exists_resolve?_of_isNamed_photos :
    ("11.jpg" ≠ "" ∧ ∃ a ∈ photos, a.IsNamed "11.jpg") ∧
      ∃ before a after, photos = before ++ a :: after ∧
        (∀ b ∈ before, ¬ b.EndsWith "11.jpg") ∧ a.EndsWith "11.jpg" ∧
        resolve? (some "https://host/") photos "11.jpg" =
          some (withHost (some "https://host/") a.address) ∧
        (a.IsNamed "11.jpg" ↔
          ∀ b ∈ photos.takeWhile fun b ↦ ¬ b.IsNamed "11.jpg", ¬ b.EndsWith "11.jpg") := by
  have hstored : ∃ a ∈ photos, a.IsNamed "11.jpg" := by decide +kernel
  exact ⟨⟨by decide, hstored⟩,
    exists_resolve?_of_isNamed (some "https://host/") photos (by decide) hstored⟩

/-- A photo that is stored is hidden by one whose longer name ends with its own. -/
theorem resolve?_photos_ne :
    (∃ a ∈ photos, a.IsNamed "1.jpg") ∧ resolve? none photos "1.jpg" = some "/files/11" ∧
      ∀ a ∈ photos, a.IsNamed "1.jpg" →
        resolve? none photos "1.jpg" ≠ some (withHost none a.address) := by
  decide +kernel

end Attachment

end SurveyExport
