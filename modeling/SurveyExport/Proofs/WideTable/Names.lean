import Mathlib.Data.List.Basic
import SurveyExport.Proofs.Text.Fresh
import SurveyExport.WideTable.Spread

/-!
# Column names with instance numbers

The way to an instance is a trail: the repeated groups around it, each with the number of the
instance in it, from outside in. `Trail.spread` is the name of an instance's column, said without
the walk that makes it: the column's key, in which each number stands behind the xpath of its
repeated group.

* `Trail.spreadFrom_cons` and `Trail.spreadFrom_nil` tie it to the paths that the walk builds.
* **`Trail.spread_inj`**: trail and key are read off the name, if no xpath on the way has a bracket.
  The first bracket ends the first xpath, and the digits behind it end at the next bracket.
-/

namespace SurveyExport

namespace Text

/-- What stands before the first occurrence of a character, and what behind it, is determined. -/
theorem eq_and_eq_of_first {c : Char} {before before' after after' : List Char}
    (h : c ∉ before) (h' : c ∉ before') (heq : before ++ c :: after = before' ++ c :: after') :
    before = before' ∧ after = after' := by
  induction before generalizing before' with
  | nil =>
    cases before' with
    | nil => exact ⟨rfl, (List.cons.inj heq).2⟩
    | cons d ds =>
      obtain ⟨rfl, -⟩ := List.cons.inj heq
      exact absurd List.mem_cons_self h'
  | cons d ds ih =>
    cases before' with
    | nil =>
      obtain ⟨rfl, -⟩ := List.cons.inj heq
      exact absurd List.mem_cons_self h
    | cons d' ds' =>
      obtain ⟨rfl, htail⟩ := List.cons.inj heq
      obtain ⟨rfl, hafter⟩ := ih (fun hc ↦ h (List.mem_cons_of_mem _ hc))
        (fun hc ↦ h' (List.mem_cons_of_mem _ hc)) htail
      exact ⟨rfl, hafter⟩

end Text

/-- The way to an instance: the repeated groups around it, each with the number of the instance in
it, from outside in. Numbers begin with 1. -/
abbrev Trail := List (String × Nat)

namespace Trail

/-- The key of a column with the numbers of a trail in brackets, each behind its repeated group. -/
def spread : Trail → String → String
  | [], key => key
  | (x, n) :: rest, key =>
    x ++ "[" ++ toString n ++ "]" ++ String.ofList ((spread rest key).toList.drop x.length)

/-- The first xpath of a trail, or the key at its end if there is none. -/
def first : Trail → String → String
  | [], key => key
  | (x, _) :: _, _ => x

/-- Every xpath of a trail, and the key at its end, is below the one before it, and there are no
brackets. -/
def Descends : Trail → String → Prop
  | [], key => '[' ∉ key.toList
  | (x, _) :: rest, key =>
    '[' ∉ x.toList ∧ x.toList ++ ['/'] <+: (first rest key).toList ∧ Descends rest key

theorem toList_spread_cons (x : String) (n : Nat) (rest : Trail) (key : String) :
    (spread ((x, n) :: rest) key).toList =
      x.toList ++ '[' :: (Nat.toDigits 10 n ++ ']' :: (spread rest key).toList.drop x.length) := by
  simp only [spread, String.toList_append, String.toList_ofList, Text.toList_toString]
  simp

theorem first_prefix_spread (t : Trail) (key : String) :
    (t.first key).toList <+: (t.spread key).toList := by
  cases t with
  | nil => exact List.prefix_rfl
  | cons step rest =>
    rw [toList_spread_cons]
    exact List.prefix_append _ _

/-- Without the numbers of the rest, a name goes on below the first xpath of the trail. -/
theorem Descends.drop_spread {x : String} {n : Nat} {rest : Trail} {key : String}
    (h : Descends ((x, n) :: rest) key) :
    x.toList ++ (spread rest key).toList.drop x.length = (spread rest key).toList := by
  obtain ⟨below, hbelow⟩ := ((List.prefix_append _ ['/']).trans h.2.1).trans
    (first_prefix_spread rest key)
  rw [← hbelow, ← String.length_toList, List.drop_left]

/-! ### Trails are read off names -/

theorem not_mem_toDigits (n : Nat) : ']' ∉ Nat.toDigits 10 n := fun h ↦
  absurd (Nat.isDigit_of_mem_toDigits (by decide) (by decide) h) (by decide)

/-- A name with a number has a bracket. -/
theorem mem_spread {t : Trail} (ht : t ≠ []) (key : String) : '[' ∈ (t.spread key).toList := by
  obtain ⟨⟨x, n⟩, rest, rfl⟩ := List.exists_cons_of_ne_nil ht
  rw [toList_spread_cons]
  exact List.mem_append_right _ List.mem_cons_self

/-- **The trail and the key are read off the name of a column.** -/
theorem spread_inj {t t' : Trail} {key key' : String} (h : t.Descends key) (h' : t'.Descends key')
    (heq : t.spread key = t'.spread key') : t = t' ∧ key = key' := by
  induction t generalizing t' with
  | nil =>
    cases t' with
    | nil => exact ⟨rfl, heq⟩
    | cons step rest =>
      have hmem := mem_spread (List.cons_ne_nil step rest) key'
      rw [← heq] at hmem
      exact absurd hmem h
  | cons step rest ih =>
    cases t' with
    | nil =>
      have hmem := mem_spread (List.cons_ne_nil step rest) key
      rw [heq] at hmem
      exact absurd hmem h'
    | cons step' rest' =>
      obtain ⟨x, n⟩ := step
      obtain ⟨x', n'⟩ := step'
      have hlist := congrArg String.toList heq
      rw [toList_spread_cons, toList_spread_cons] at hlist
      -- the first bracket ends the xpath, and the first behind it ends the number
      obtain ⟨hx, hdigits⟩ := Text.eq_and_eq_of_first h.1 h'.1 hlist
      obtain rfl := String.toList_inj.1 hx
      obtain ⟨hn, hrest⟩ :=
        Text.eq_and_eq_of_first (not_mem_toDigits n) (not_mem_toDigits n') hdigits
      obtain rfl := Text.toDigits_inj hn
      -- the rest of the name stood behind the same xpath on both sides
      have hspread : spread rest key = spread rest' key' :=
        String.toList_inj.1 (by rw [← h.drop_spread, ← h'.drop_spread, hrest])
      obtain ⟨rfl, rfl⟩ := ih h.2.2 h'.2.2 hspread
      exact ⟨rfl, rfl⟩

example : spread [("kids", 1), ("kids/pets", 2)] "kids/pets/kind" = "kids[1]/pets[2]/kind" := by
  decide

/-! ### The paths of the walk -/

/-- The name of a column of an instance at a path, where the trail goes on from the instance and `x`
is the xpath of its repeated group. -/
def spreadFrom (path x : String) (t : Trail) (key : String) : String :=
  path ++ String.ofList ((t.spread key).toList.drop x.length)

theorem slash_append_below {x key : String} (h : x.toList ++ ['/'] <+: key.toList) :
    "/" ++ below x key = String.ofList (key.toList.drop x.length) := by
  obtain ⟨rest, hrest⟩ := h
  have hbelow : below x key = String.ofList rest := by
    rw [below, Text.stripStart?, ← hrest, String.toList_append]
    rw [show ("/" : String).toList = ['/'] from rfl,
      List.isPrefixOf?_eq_some_iff_append_eq.2 rfl]
    rfl
  rw [hbelow, ← hrest, ← String.length_toList, List.append_assoc, List.drop_left]
  exact String.toList_inj.1 (by simp)

/-- A cell of the instance itself has its column below the path. -/
theorem spreadFrom_nil (path : String) {x key : String} (h : x.toList ++ ['/'] <+: key.toList) :
    path ++ "/" ++ below x key = spreadFrom path x [] key := by
  rw [String.append_assoc, slash_append_below h]
  rfl

/-- An instance inside the instance has its own path below the path. -/
theorem spreadFrom_cons (path : String) {x y : String} (h : x.toList ++ ['/'] <+: y.toList)
    (n : Nat) (rest : Trail) (key : String) :
    spreadFrom (IndexTags.instancePath {} (path ++ "/" ++ below x y) n) y rest key =
      spreadFrom path x ((y, n) :: rest) key := by
  obtain ⟨tail, htail⟩ := (List.prefix_append _ _).trans h
  have hdrop : ((spread ((y, n) :: rest) key).toList.drop x.length) = (y.toList.drop x.length) ++
      '[' :: (Nat.toDigits 10 n ++ ']' :: (spread rest key).toList.drop y.length) := by
    rw [toList_spread_cons, ← htail, ← String.length_toList, List.append_assoc, List.drop_left,
      List.drop_left]
  have hbelow : path ++ "/" ++ below x y = path ++ String.ofList (y.toList.drop x.length) := by
    rw [String.append_assoc, slash_append_below h]
  rw [spreadFrom, spreadFrom, hdrop, IndexTags.instancePath, hbelow]
  exact String.toList_inj.1 (by simp)

end Trail

end SurveyExport
