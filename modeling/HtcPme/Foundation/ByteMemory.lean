import Mathlib.Algebra.Order.Ring.Nat
import Mathlib.Data.List.Basic
import Mathlib.Tactic.Ring

/-!
# Memory that is read byte by byte

A read of memory is defined where all its bytes may be read. Numbers are stored with the lowest byte
first.
-/

namespace HtcPme

open List

abbrev Memory := ℕ → Option UInt8

def littleEndian : List UInt8 → ℕ
  | [] => 0
  | byte :: rest => byte.toNat + 256 * littleEndian rest

def leBytes : ℕ → ℕ → List UInt8
  | 0, _ => []
  | count + 1, value => UInt8.ofNat value :: leBytes count (value / 256)

@[simp]
theorem length_leBytes (count value : ℕ) : (leBytes count value).length = count := by
  induction count generalizing value with
  | zero => rfl
  | succ count ih => simp [leBytes, ih]

theorem littleEndian_leBytes (count value : ℕ) :
    littleEndian (leBytes count value) = value % 256 ^ count := by
  induction count generalizing value with
  | zero => simp [leBytes, littleEndian, Nat.mod_one]
  | succ count ih =>
      simp only [leBytes, littleEndian, ih, UInt8.toNat_ofNat']
      rw [pow_succ' 256 count, Nat.mod_mul (a := 256)]

theorem littleEndian_leBytes_of_lt {count value : ℕ} (fits : value < 256 ^ count) :
    littleEndian (leBytes count value) = value := by
  rw [littleEndian_leBytes, Nat.mod_eq_of_lt fits]

def slice (contents : ℕ → UInt8) : ℕ → ℕ → List UInt8
  | _, 0 => []
  | pos, count + 1 => contents pos :: slice contents (pos + 1) count

section Slice

variable {contents contents' : ℕ → UInt8} {pos pos' : ℕ}

@[simp]
theorem length_slice (count : ℕ) : (slice contents pos count).length = count := by
  induction count generalizing pos with
  | zero => rfl
  | succ count ih => simp [slice, ih]

theorem slice_add (first second : ℕ) :
    slice contents pos (first + second) =
      slice contents pos first ++ slice contents (pos + first) second := by
  induction first generalizing pos with
  | zero => simp [slice]
  | succ first ih =>
      rw [Nat.succ_add, slice, ih, slice, Nat.add_right_comm, Nat.add_assoc, cons_append]

variable {count : ℕ} {count total : ℕ}

theorem slice_congr (agree : ∀ i < count, contents (pos + i) = contents' (pos' + i)) :
    slice contents pos count = slice contents' pos' count := by
  induction count generalizing pos pos' with
  | zero => rfl
  | succ count ih =>
      have first := agree 0 count.succ_pos
      have rest : slice contents (pos + 1) count = slice contents' (pos' + 1) count := by
        apply ih
        intro i below
        have next := agree (i + 1) (Nat.succ_lt_succ below)
        rwa [Nat.add_right_comm pos 1 i, Nat.add_right_comm pos' 1 i]
      rw [slice, slice, rest]
      exact congrArg (· :: _) first

theorem take_slice (within : count ≤ total) :
    (slice contents pos total).take count = slice contents pos count := by
  rcases Nat.exists_eq_add_of_le within with ⟨rest, rfl⟩
  rw [slice_add, take_left' (length_slice count)]

theorem drop_slice (within : count ≤ total) :
    (slice contents pos total).drop count = slice contents (pos + count) (total - count) := by
  rcases Nat.exists_eq_add_of_le within with ⟨rest, rfl⟩
  rw [slice_add, drop_left' (length_slice count), Nat.add_sub_cancel_left]

theorem eq_of_slice_eq (same : slice contents pos count = slice contents' pos' count)
    {i : ℕ} (below : i < count) : contents (pos + i) = contents' (pos' + i) := by
  induction count generalizing pos pos' i with
  | zero => exact absurd below (Nat.not_lt_zero i)
  | succ count ih =>
      rcases cons.inj same with ⟨first, rest⟩
      cases i with
      | zero => exact first
      | succ i =>
          have next := ih rest (Nat.lt_of_succ_lt_succ below)
          rwa [Nat.add_right_comm pos 1 i, Nat.add_right_comm pos' 1 i] at next

theorem slice_append_iff {first second : List UInt8} :
    slice contents pos (first ++ second).length = first ++ second ↔
      slice contents pos first.length = first ∧
        slice contents (pos + first.length) second.length = second := by
  rw [length_append, slice_add]
  constructor
  · intro holds
    exact append_inj holds (by simp)
  · rintro ⟨isFirst, isSecond⟩
    rw [isFirst, isSecond]

theorem slice_of_append {first second third : List UInt8}
    (holds : slice contents pos (first ++ second ++ third).length = first ++ second ++ third) :
    slice contents (pos + first.length) second.length = second := by
  exact (slice_append_iff.mp (slice_append_iff.mp holds).1).2

end Slice

def bytesThen (bytes : List UInt8) (after : ℕ → UInt8) (pos : ℕ) : UInt8 :=
  (bytes[pos]?).getD (after (pos - bytes.length))

section BytesThen

variable (first second : List UInt8) (after : ℕ → UInt8)

theorem bytesThen_after (i : ℕ) : bytesThen first after (first.length + i) = after i := by
  simp [bytesThen]

theorem bytesThen_append (i : ℕ) :
    bytesThen (first ++ second) after (first.length + i) = bytesThen second after i := by
  have isSecond : (first ++ second)[first.length + i]? = second[i]? := by
    rw [getElem?_append_right (Nat.le_add_right _ _), Nat.add_sub_cancel_left]
  rw [bytesThen, isSecond, length_append, Nat.add_sub_add_left]
  rfl

theorem bytesThen_of_lt {pos : ℕ} (after' : ℕ → UInt8) (isBefore : pos < first.length) :
    bytesThen (first ++ second) after pos = bytesThen first after' pos := by
  rw [bytesThen, bytesThen, getElem?_append_left isBefore, getElem?_eq_getElem isBefore]
  rfl

theorem slice_bytesThen : slice (bytesThen first after) 0 first.length = first := by
  induction first with
  | nil => rfl
  | cons byte rest ih =>
      have isRest : slice (bytesThen (byte :: rest) after) 1 rest.length =
          slice (bytesThen rest after) 0 rest.length := by
        apply slice_congr
        intro i _
        rw [Nat.zero_add]
        exact bytesThen_append [byte] rest after i
      rw [length_cons, slice, Nat.zero_add, isRest, ih]
      rfl

theorem slice_bytesThen_append (third : List UInt8) :
    slice (bytesThen (first ++ second ++ third) after) first.length second.length = second := by
  have shifted : slice (bytesThen (first ++ second ++ third) after) first.length second.length =
      slice (bytesThen second after) 0 second.length := by
    apply slice_congr
    intro i below
    rw [append_assoc, bytesThen_append, Nat.zero_add]
    exact bytesThen_of_lt second third after after below
  rw [shifted, slice_bytesThen]

end BytesThen

namespace Memory

def total (contents : ℕ → UInt8) : Memory := fun pos => some (contents pos)

def within (mem : Memory) (start stop : ℕ) : Memory :=
  fun pos => if start ≤ pos ∧ pos < stop then mem pos else none

def bytes (mem : Memory) : ℕ → ℕ → Option (List UInt8)
  | _, 0 => some []
  | pos, count + 1 => do
      let byte ← mem pos
      let rest ← bytes mem (pos + 1) count
      some (byte :: rest)

def word (mem : Memory) (pos count : ℕ) : Option ℕ :=
  (mem.bytes pos count).map littleEndian

variable {contents : ℕ → UInt8} {pos count start stop : ℕ}

@[simp]
theorem bytes_total : (total contents).bytes pos count = some (slice contents pos count) := by
  induction count generalizing pos with
  | zero => rfl
  | succ count ih => simp [bytes, slice, ih, total]

@[simp]
theorem word_total :
    (total contents).word pos count = some (littleEndian (slice contents pos count)) := by
  simp [word]

theorem within_within (start' stop' : ℕ) :
    ((total contents).within start stop).within start' stop' =
      (total contents).within (max start start') (min stop stop') := by
  funext pos
  simp only [within, total, max_le_iff, lt_min_iff]
  split
  · split
    · exact (if_pos (by omega)).symm
    · exact (if_neg (by omega)).symm
  · exact (if_neg (by omega)).symm

theorem bytes_within (isRead : 0 < count) :
    ((total contents).within start stop).bytes pos count =
      if start ≤ pos ∧ pos + count ≤ stop then some (slice contents pos count) else none := by
  induction count generalizing pos with
  | zero => exact absurd isRead (lt_irrefl 0)
  | succ count ih =>
      rcases Nat.eq_zero_or_pos count with rfl | more
      · simp only [bytes, slice, within, total, Option.bind_eq_bind]
        split
        · exact (if_pos (by omega)).symm
        · exact (if_neg (by omega)).symm
      · simp only [bytes, ih more, slice, within, total, Option.bind_eq_bind]
        split
        · split
          · exact (if_pos (by omega)).symm
          · exact (if_neg (by omega)).symm
        · exact (if_neg (by omega)).symm

theorem word_within (isRead : 0 < count) :
    ((total contents).within start stop).word pos count =
      if start ≤ pos ∧ pos + count ≤ stop then some (littleEndian (slice contents pos count))
      else none := by
  simp only [word, bytes_within isRead]
  split
  · rfl
  · rfl

end Memory

end HtcPme
