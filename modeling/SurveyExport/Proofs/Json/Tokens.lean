import SurveyExport.Json.Reader

/-!
# The tokens of a value

JSON text has two layers: characters make tokens, and tokens make values. This module is about the
second. `Json.tokens` gives the tokens of a value, and `Json.ofTokens?_tokens` says that the reader
makes the value of them again, if no more arrays and objects hold each other than the reader allows.

The reader is a machine with a stack, so the statement that is proved by induction is about any
stack: the tokens of a value lead from a place where a value may stand to the value read, and leave
the stack as it was (`Json.foldlM_tokens`).
-/

namespace SurveyExport

/-! ### Folds that may fail -/

section Folds

variable {α β : Type} {f : β → α → Option β} {s s' : β}

theorem foldlM_cons_of_eq_some {x : α} (h : f s x = some s') (l : List α) :
    (x :: l).foldlM f s = l.foldlM f s' := by
  rw [List.foldlM_cons, h]
  rfl

theorem foldlM_append_of_eq_some {l : List α} (h : l.foldlM f s = some s') (l' : List α) :
    (l ++ l').foldlM f s = l'.foldlM f s' := by
  rw [List.foldlM_append, h]
  rfl

end Folds

namespace Json

/-- Induction on a value, with a hypothesis for the values that it holds. -/
@[elab_as_elim]
theorem induction {P : Json → Prop} (null : P .null) (bool : ∀ b, P (.bool b))
    (int : ∀ n, P (.int n)) (float : ∀ x, P (.float x)) (text : ∀ s, P (.text s))
    (array : ∀ items, (∀ v ∈ items, P v) → P (.array items))
    (object : ∀ fields, (∀ k v, (k, v) ∈ fields → P v) → P (.object fields))
    (flawed : P .flawed) : ∀ v : Json, P v
  | .null => null
  | .bool b => bool b
  | .int n => int n
  | .float x => float x
  | .text s => text s
  | .array items =>
    array items fun v _ ↦ induction null bool int float text array object flawed v
  | .object fields =>
    object fields fun _ v _ ↦ induction null bool int float text array object flawed v
  | .flawed => flawed
termination_by v => sizeOf v
decreasing_by
  case _ h =>
    have := List.sizeOf_lt_of_mem h
    simp only [Json.array.sizeOf_spec]
    omega
  case _ h =>
    have := List.sizeOf_lt_of_mem h
    simp only [Prod.mk.sizeOf_spec, Json.object.sizeOf_spec] at this ⊢
    omega

/-! ### Tokens and nesting -/

mutual

/-- The tokens of a value. What is flawed has the token of a number beyond the range. -/
def tokens : Json → List Token
  | .null => [.null]
  | .bool b => [.bool b]
  | .int n => [.int n]
  | .float x => [.float x]
  | .text s => [.text s]
  | .array items => .openArray :: ((itemTokens items).tail ++ [.closeArray])
  | .object fields => .openObject :: ((fieldTokens fields).tail ++ [.closeObject])
  | .flawed => [.hugeNumber]

/-- The tokens of items, each after a comma. -/
def itemTokens : List Json → List Token
  | [] => []
  | v :: rest => .comma :: (tokens v ++ itemTokens rest)

/-- The tokens of fields, each after a comma. -/
def fieldTokens : List (String × Json) → List Token
  | [] => []
  | (k, v) :: rest => .comma :: .text k :: .colon :: (tokens v ++ fieldTokens rest)

end

mutual

/-- How many arrays and objects hold each other in a value. -/
def depth : Json → Nat
  | .array items => depthOfItems items + 1
  | .object fields => depthOfFields fields + 1
  | _ => 0

/-- The greatest depth of items. -/
def depthOfItems : List Json → Nat
  | [] => 0
  | v :: rest => max (depth v) (depthOfItems rest)

/-- The greatest depth of fields. -/
def depthOfFields : List (String × Json) → Nat
  | [] => 0
  | (_, v) :: rest => max (depth v) (depthOfFields rest)

end

theorem depthOfItems_lt {items : List Json} {n : Nat} (hn : 0 < n)
    (h : ∀ v ∈ items, v.depth < n) : depthOfItems items < n := by
  induction items with
  | nil => exact hn
  | cons v rest ih =>
    obtain ⟨hv, hrest⟩ := List.forall_mem_cons.1 h
    exact Nat.max_lt.2 ⟨hv, ih hrest⟩

/-- A value does not begin with the end of an array. -/
theorem exists_tokens_eq_cons (v : Json) : ∃ t ts, v.tokens = t :: ts ∧ t ≠ .closeArray := by
  cases v <;> simp [tokens]

/-! ### The machine -/

/-- The end of an array or object that is not nested too deep. -/
theorem close_eq {v : Json} {stack : List Frame} (h : stack.length < maxDepth) :
    close v true stack = (.after v, stack) := by
  simp [close, h]

/-- In an array just opened a value is read as elsewhere. -/
theorem foldlM_tokens_firstItem (v : Json) (stack : List Frame) (ts : List Token) :
    (v.tokens ++ ts).foldlM step? (.firstItem, stack) =
      (v.tokens ++ ts).foldlM step? (.value, stack) := by
  obtain ⟨t, rest, hv, ht⟩ := exists_tokens_eq_cons v
  have hstep : step? (.firstItem, stack) t = step? (.value, stack) t := by
    cases t with
    | closeArray => exact absurd rfl ht
    | _ => cases stack with
      | nil => rfl
      | cons frame stack => cases frame <;> rfl
  rw [hv, List.cons_append, List.foldlM_cons, List.foldlM_cons, hstep]

/-- What the reader makes of the tokens of a value, on any stack that leaves room for it. -/
def ReadOnStack (v : Json) : Prop :=
  ∀ stack : List Frame, v.depth + stack.length ≤ maxDepth →
    v.tokens.foldlM step? (.value, stack) = some (.after v, stack)

/-- What comes after a value in an array: the other items and the end of the array. -/
theorem foldlM_itemTokens {items : List Json} (hin : ∀ v ∈ items, ReadOnStack v) (v : Json)
    (done : List Json) {stack : List Frame} (h : depthOfItems items + stack.length < maxDepth) :
    (itemTokens items ++ [Token.closeArray]).foldlM step? (.after v, .array done :: stack) =
      some (.after (.array (done.reverse ++ v :: items)), stack) := by
  induction items generalizing v done with
  | nil =>
    have hclose : step? (.after v, .array done :: stack) .closeArray =
        some (close (.array (v :: done).reverse) true stack) := rfl
    rw [depthOfItems, Nat.zero_add] at h
    rw [itemTokens, List.nil_append, foldlM_cons_of_eq_some hclose, close_eq h, List.reverse_cons]
    rfl
  | cons w rest ih =>
    have hcomma : step? (.after v, .array done :: stack) .comma =
        some (.value, .array (v :: done) :: stack) := rfl
    have hw : w.depth + (Frame.array (v :: done) :: stack).length ≤ maxDepth := by
      rw [depthOfItems] at h
      rw [List.length_cons]
      omega
    have hrest : depthOfItems rest + stack.length < maxDepth := by
      rw [depthOfItems] at h
      omega
    rw [itemTokens, List.cons_append, List.append_assoc, foldlM_cons_of_eq_some hcomma,
      foldlM_append_of_eq_some (hin w List.mem_cons_self _ hw),
      ih (fun u hu ↦ hin u (List.mem_cons_of_mem _ hu)) w _ hrest,
      List.reverse_cons, List.append_assoc, List.singleton_append]

/-- What comes after a value in an object: the other fields and the end of the object. -/
theorem foldlM_fieldTokens {fields : List (String × Json)}
    (hin : ∀ k v, (k, v) ∈ fields → ReadOnStack v) (k : String) (v : Json)
    (done : List (String × Json)) {stack : List Frame}
    (h : depthOfFields fields + stack.length < maxDepth) :
    (fieldTokens fields ++ [Token.closeObject]).foldlM step?
        (.after v, .object done k true :: stack) =
      some (.after (.object (done.reverse ++ (k, v) :: fields)), stack) := by
  induction fields generalizing k v done with
  | nil =>
    have hclose : step? (.after v, .object done k true :: stack) .closeObject =
        some (close (.object ((k, v) :: done).reverse) true stack) := rfl
    rw [depthOfFields, Nat.zero_add] at h
    rw [fieldTokens, List.nil_append, foldlM_cons_of_eq_some hclose, close_eq h, List.reverse_cons]
    rfl
  | cons e rest ih =>
    obtain ⟨k', w⟩ := e
    have hcomma : step? (.after v, .object done k true :: stack) .comma =
        some (.key, .object ((k, v) :: done) "" true :: stack) := rfl
    have hkey : step? (.key, .object ((k, v) :: done) "" true :: stack) (.text k') =
        some (.colon, .object ((k, v) :: done) k' true :: stack) := rfl
    have hcolon : step? (.colon, .object ((k, v) :: done) k' true :: stack) .colon =
        some (.value, .object ((k, v) :: done) k' true :: stack) := rfl
    have hw : w.depth + (Frame.object ((k, v) :: done) k' true :: stack).length ≤ maxDepth := by
      rw [depthOfFields] at h
      rw [List.length_cons]
      omega
    have hrest : depthOfFields rest + stack.length < maxDepth := by
      rw [depthOfFields] at h
      omega
    rw [fieldTokens, List.cons_append, List.cons_append, List.cons_append, List.append_assoc,
      foldlM_cons_of_eq_some hcomma, foldlM_cons_of_eq_some hkey, foldlM_cons_of_eq_some hcolon,
      foldlM_append_of_eq_some (hin k' w List.mem_cons_self _ hw),
      ih (fun k u hu ↦ hin k u (List.mem_cons_of_mem _ hu)) k' w _ hrest,
      List.reverse_cons, List.append_assoc, List.singleton_append]

/-- **The tokens of a value are read as the value**, wherever a value may stand. -/
theorem foldlM_tokens (v : Json) : ReadOnStack v := by
  induction v using Json.induction with
  | null | bool | int | float | text | flawed => exact fun _ _ ↦ rfl
  | array items ih =>
    intro stack h
    have hopen : step? (.value, stack) .openArray = some (.firstItem, .array [] :: stack) := rfl
    rw [tokens, foldlM_cons_of_eq_some hopen]
    cases items with
    | nil =>
      have hclose : step? (.firstItem, .array [] :: stack) .closeArray =
          some (close (.array []) true stack) := rfl
      have hroom : stack.length < maxDepth := by
        rw [depth] at h
        omega
      rw [itemTokens, List.tail_nil, List.nil_append, foldlM_cons_of_eq_some hclose,
        close_eq hroom]
      rfl
    | cons w rest =>
      have hw : w.depth + (Frame.array [] :: stack).length ≤ maxDepth := by
        rw [depth, depthOfItems] at h
        rw [List.length_cons]
        omega
      have hrest : depthOfItems rest + stack.length < maxDepth := by
        rw [depth, depthOfItems] at h
        omega
      rw [itemTokens, List.tail_cons, List.append_assoc, foldlM_tokens_firstItem,
        foldlM_append_of_eq_some (ih w List.mem_cons_self _ hw)]
      exact foldlM_itemTokens (fun u hu ↦ ih u (List.mem_cons_of_mem _ hu)) w [] hrest
  | object fields ih =>
    intro stack h
    have hopen : step? (.value, stack) .openObject =
        some (.firstKey, .object [] "" true :: stack) := rfl
    rw [tokens, foldlM_cons_of_eq_some hopen]
    cases fields with
    | nil =>
      have hclose : step? (.firstKey, .object [] "" true :: stack) .closeObject =
          some (close (.object []) true stack) := rfl
      have hroom : stack.length < maxDepth := by
        rw [depth] at h
        omega
      rw [fieldTokens, List.tail_nil, List.nil_append, foldlM_cons_of_eq_some hclose,
        close_eq hroom]
      rfl
    | cons e rest =>
      obtain ⟨k, w⟩ := e
      have hkey : step? (.firstKey, .object [] "" true :: stack) (.text k) =
          some (.colon, .object [] k true :: stack) := rfl
      have hcolon : step? (.colon, .object [] k true :: stack) .colon =
          some (.value, .object [] k true :: stack) := rfl
      have hw : w.depth + (Frame.object [] k true :: stack).length ≤ maxDepth := by
        rw [depth, depthOfFields] at h
        rw [List.length_cons]
        omega
      have hrest : depthOfFields rest + stack.length < maxDepth := by
        rw [depth, depthOfFields] at h
        omega
      rw [fieldTokens, List.tail_cons, List.cons_append, List.cons_append, List.append_assoc,
        foldlM_cons_of_eq_some hkey, foldlM_cons_of_eq_some hcolon,
        foldlM_append_of_eq_some (ih k w List.mem_cons_self _ hw)]
      exact foldlM_fieldTokens (fun k u hu ↦ ih k u (List.mem_cons_of_mem _ hu)) k w [] hrest

/-- **The reader makes a value of its tokens**, if it is not nested too deep. -/
theorem ofTokens?_tokens {v : Json} (h : v.depth ≤ maxDepth) : ofTokens? v.tokens = some v := by
  rw [ofTokens?, foldlM_tokens v [] h]
  rfl

end Json

end SurveyExport
