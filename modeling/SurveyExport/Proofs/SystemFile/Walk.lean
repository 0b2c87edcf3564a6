import Mathlib.Data.List.Forall2
import SurveyExport.Proofs.SystemFile.Fields

/-!
# Walking over the records of a dictionary

A reader takes bytes off the front of those that are left. The readers of this module know how each
type of record declares its length, and nothing about how records are written: a segment of a
variable has 32 bytes and perhaps a label, labels of values say how many they are and how long each
is, an extension says how many elements of what size it has. `walk` reads record after record up to
the closing one.

`Reads r bs a` says that a reader takes exactly the bytes `bs`, whatever follows them, and makes `a`
of them; `Walks bs rs` says the same of a walk. Both are put together by appending
(`Reads.bind`, `Walks.append`), so that no place in the dictionary is ever counted.
-/

namespace SurveyExport.SystemFile

/-! ### Readers -/

/-- A reader of the bytes in front; there may be too few. -/
abbrev Reader := StateT (List UInt8) Option

namespace Reader

variable {α β : Type}

/-- So many bytes. -/
def take (n : Nat) : Reader (List UInt8) := fun bs ↦
  if n ≤ bs.length then some (bs.take n, bs.drop n) else none

/-- One byte as a number. -/
def byte : Reader Nat
  | [] => none
  | b :: bs => some (b.toNat, bs)

/-- A whole number of four bytes. -/
def int : Reader Int := do
  let bs ← take 4
  return ofInt32 bs

/-- A length or a count, which is not negative. -/
def count : Reader Nat := do
  let n ← int
  if n < 0 then failure else return n.toNat

/-- The same so many times. -/
def repeated (r : Reader α) : Nat → Reader (List α)
  | 0 => return []
  | n + 1 => do
    let a ← r
    let as ← repeated r n
    return a :: as

/-- What fills a length up to a multiple of the divisor. -/
def filling (divisor length : Nat) : Nat := (divisor - length % divisor) % divisor

end Reader

/-! ### Records -/

/-- A record of a dictionary, as its lengths delimit it. -/
inductive DictionaryRecord where
  /-- A segment of a variable (type 2): the code of its type, its label, its formats for printing
  and writing, and its short name. -/
  | segment (code : Int) (label : Option (List UInt8)) (print write : Int) (name : List UInt8)
  /-- Values with their labels (type 3), and the segments they are for (type 4). -/
  | valueLabels (entries : List (List UInt8 × List UInt8)) (positions : List Int)
  /-- An extension (type 7): its subtype, the size of its elements, and the bytes of them all. -/
  | extension (subtype : Int) (size : Nat) (payload : List UInt8)
deriving DecidableEq, Repr

namespace Reader

/-- The label of a variable, with its length before it, up to a multiple of four. -/
def variableLabel : Reader (List UInt8) := do
  let n ← count
  let label ← take n
  let _ ← take (filling 4 n)
  return label

/-- The label that a flag of one announces. -/
def flaggedLabel (flag : Int) : Reader (Option (List UInt8)) := do
  if flag = 1 then
    let label ← variableLabel
    return some label
  else return none

/-- The rest of a record of type 2. -/
def segment : Reader DictionaryRecord := do
  let code ← int
  let flag ← int
  let _ ← int
  let print ← int
  let write ← int
  let name ← take 8
  let label ← flaggedLabel flag
  return .segment code label print write name

/-- A value and its label, which together with its length is filled up to a multiple of eight. -/
def valueLabel : Reader (List UInt8 × List UInt8) := do
  let value ← take 8
  let n ← byte
  let label ← take n
  let _ ← take (filling 8 (n + 1))
  return (value, label)

/-- The rest of a record of type 3, and the record of type 4 after it. -/
def valueLabels : Reader DictionaryRecord := do
  let n ← count
  let entries ← repeated valueLabel n
  let type ← int
  if type = 4 then
    let n ← count
    let positions ← repeated int n
    return .valueLabels entries positions
  else failure

/-- The rest of a record of type 7. -/
def extension : Reader DictionaryRecord := do
  let subtype ← int
  let size ← count
  let n ← count
  let payload ← take (size * n)
  return .extension subtype size payload

/-- The next record; none is the closing one, of type 999. -/
def record : Reader (Option DictionaryRecord) := do
  let type ← int
  match type with
  | 2 => return some (← segment)
  | 3 => return some (← valueLabels)
  | 7 => return some (← extension)
  | 999 =>
    let _ ← int
    return none
  | _ => failure

end Reader

/-- The records up to the closing one, and the bytes after it. -/
def walk (bs : List UInt8) : Option (List DictionaryRecord × List UInt8) :=
  match Reader.record.run bs with
  | none => none
  | some (none, rest) => some ([], rest)
  | some (some r, rest) =>
    if rest.length < bs.length then (walk rest).map fun p ↦ (r :: p.1, p.2) else none
termination_by bs.length

/-! ### Taking exactly these bytes -/

namespace Reader

variable {α β : Type}

/-- The reader takes these bytes, whatever follows them, and makes this of them. -/
def Reads (r : Reader α) (bs : List UInt8) (a : α) : Prop :=
  ∀ rest, r.run (bs ++ rest) = some (a, rest)

/-- Nothing is taken for what is there. -/
theorem reads_pure (a : α) : Reads (pure a) [] a := fun _ ↦ rfl

/-- One reader after the other takes the bytes of both. -/
theorem Reads.bind {r : Reader α} {f : α → Reader β} {as bs : List UInt8} {a : α} {b : β}
    (hr : Reads r as a) (hf : Reads (f a) bs b) : Reads (r >>= f) (as ++ bs) b := fun rest ↦ by
  rw [StateT.run_bind, List.append_assoc, hr]
  exact hf rest

/-- A reader that takes nothing may come after. -/
theorem Reads.bind_nil {r : Reader α} {f : α → Reader β} {as : List UInt8} {a : α} {b : β}
    (hr : Reads r as a) (hf : Reads (f a) [] b) : Reads (r >>= f) as b := by
  have h := hr.bind hf
  rwa [List.append_nil] at h

/-- What is made of the bytes may be changed. -/
theorem Reads.bind_pure {r : Reader α} {as : List UInt8} {a : α} (hr : Reads r as a) (f : α → β) :
    Reads (r >>= fun a ↦ pure (f a)) as (f a) :=
  hr.bind_nil (reads_pure (f a))

theorem reads_take {n : Nat} {bs : List UInt8} (h : bs.length = n) : Reads (take n) bs bs :=
  fun rest ↦ by
    subst h
    change (if bs.length ≤ (bs ++ rest).length then _ else _) = _
    rw [if_pos (by simp), List.take_left, List.drop_left]

theorem reads_byte {n : Nat} (h : n < 256) : Reads byte [UInt8.ofNat n] n := fun rest ↦ by
  change some ((UInt8.ofNat n).toNat, rest) = _
  rw [UInt8.toNat_ofNat', Nat.mod_eq_of_lt h]

theorem reads_int {n : Int} (hl : -2147483648 ≤ n) (hu : n < 2147483648) :
    Reads int (int32 n) n := by
  have h := (reads_take (length_int32 n)).bind_pure ofInt32
  rwa [ofInt32_int32 hl hu] at h

theorem reads_count {n : Nat} (h : n < 2147483648) : Reads count (length32 n) n := by
  rw [length32_eq h]
  have hint : Reads int (int32 n) n := reads_int (by omega) (by omega)
  have hchecked : Reads (if (n : Int) < 0 then failure else pure (n : Int).toNat) [] n := by
    rw [if_neg (by omega), Int.toNat_natCast]
    exact reads_pure n
  exact hint.bind_nil hchecked

/-- The same reader takes the bytes of each item, one after the other. -/
theorem reads_repeated {γ : Type} {r : Reader α} {encode : γ → List UInt8} {P : γ → α → Prop}
    {cs : List γ} (h : ∀ c ∈ cs, ∃ a, Reads r (encode c) a ∧ P c a) :
    ∃ as, Reads (repeated r cs.length) (cs.flatMap encode) as ∧ List.Forall₂ P cs as := by
  induction cs with
  | nil => exact ⟨[], reads_pure [], .nil⟩
  | cons c cs ih =>
    obtain ⟨hc, hcs⟩ := List.forall_mem_cons.mp h
    obtain ⟨a, ha, hpa⟩ := hc
    obtain ⟨as, has, hpas⟩ := ih hcs
    exact ⟨a :: as, ha.bind (has.bind_pure (a :: ·)), .cons hpa hpas⟩

/-- A reader that takes anything at all takes its first byte from what it is given. -/
theorem Reads.ne_nil {bs : List UInt8} {r : Option DictionaryRecord} (h : Reads record bs r) :
    bs ≠ [] := by
  rintro rfl
  exact Option.some_ne_none _ ((h []).symm.trans rfl)

end Reader

/-! ### Walking over exactly these bytes -/

open Reader (Reads record)

/-- A walk over these bytes finds these records, and goes on with what follows. -/
def Walks (bs : List UInt8) (rs : List DictionaryRecord) : Prop :=
  ∀ rest, walk (bs ++ rest) = (walk rest).map fun p ↦ (rs ++ p.1, p.2)

theorem walks_nil : Walks [] [] := fun rest ↦ by simp

/-- A walk over two stretches finds the records of both. -/
theorem Walks.append {as bs : List UInt8} {rs ss : List DictionaryRecord} (ha : Walks as rs)
    (hb : Walks bs ss) : Walks (as ++ bs) (rs ++ ss) := fun rest ↦ by
  rw [List.append_assoc, ha, hb, Option.map_map]
  simp [Function.comp_def]

/-- A record that is read is found. -/
theorem walks_of_reads {bs : List UInt8} {r : DictionaryRecord} (h : Reads record bs (some r)) :
    Walks bs [r] := fun rest ↦ by
  have hlt : rest.length < (bs ++ rest).length := by
    rw [List.length_append]
    exact Nat.lt_add_of_pos_left (List.length_pos_iff.mpr h.ne_nil)
  rw [walk, h]
  simp only [if_pos hlt]
  rfl

/-- The closing record ends a walk. -/
theorem Walks.closed {bs : List UInt8} {rs : List DictionaryRecord} (h : Walks bs rs) :
    walk (bs ++ (int32 999 ++ int32 0)) = some (rs, []) := by
  have hclosing : walk (int32 999 ++ int32 0) = some ([], []) := by
    rw [walk]
    rfl
  rw [h, hclosing]
  simp

end SurveyExport.SystemFile
