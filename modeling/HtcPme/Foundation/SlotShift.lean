import Mathlib.Data.List.Perm.Basic
import Mathlib.Data.List.Range
import Mathlib.Logic.Function.Basic
import Mathlib.Tactic.Common

/-!
# Arrays that are closed up

An array of slots loses one of those in use: each later slot is copied into the one before
it, which may keep parts of what it had. The views of the slots lose one entry.
-/

namespace SlotShift

open List

variable {α β : Type*} {copy : α → α → α}

/-- `for (idx = first; idx < first + count; idx++) copy(&slot[idx], &slot[idx + 1])`. -/
def closeUp (copy : α → α → α) : ℕ → ℕ → (ℕ → α) → ℕ → α
  | 0, _, slot => slot
  | count + 1, first, slot =>
      closeUp copy count (first + 1)
        (Function.update slot first (copy (slot first) (slot (first + 1))))

theorem closeUp_apply (count first : ℕ) (slot : ℕ → α) (idx : ℕ) :
    closeUp copy count first slot idx =
      if first ≤ idx ∧ idx < first + count then copy (slot idx) (slot (idx + 1))
      else slot idx := by
  induction count generalizing first slot with
  | zero =>
      rw [if_neg (by omega)]
      rfl
  | succ count ih =>
      simp only [closeUp, ih]
      by_cases isFirst : idx = first
      · subst isFirst
        rw [if_neg (by omega), if_pos (by omega), Function.update_self]
      · rw [Function.update_of_ne isFirst]
        by_cases inside : first + 1 ≤ idx ∧ idx < first + 1 + count
        · rw [if_pos inside, if_pos (by omega), Function.update_of_ne (by omega)]
        · rw [if_neg inside, if_neg (by omega)]

theorem closeUp_next {num idx pos : ℕ} (slot : ℕ → α) (within : pos < num) :
    closeUp (fun _ next => next) (num - idx) idx slot pos =
      if pos < idx then slot pos else slot (pos + 1) := by
  rw [closeUp_apply]
  by_cases isBefore : pos < idx
  · rw [if_neg (by omega), if_pos isBefore]
  · rw [if_pos (by omega), if_neg isBefore]

variable {num idx : ℕ}

theorem map_range_perm (view : ℕ → β) (within : idx < num) :
    ((range num).map view).Perm (view idx :: ((range num).map view).eraseIdx idx) := by
  have length : idx < ((range num).map view).length := by simpa using within
  have perm := getElem_cons_eraseIdx_perm length
  simpa using perm.symm

theorem flatMap_range_perm (view : ℕ → List β) (within : idx < num) :
    ((range num).flatMap view).Perm
      (view idx ++ (((range num).map view).eraseIdx idx).flatten) := by
  rw [flatMap_def, ← flatten_cons]
  exact (map_range_perm view within).flatten

theorem eraseIdx_map_range (view : ℕ → β) (within : idx ≤ num) :
    ((range (num + 1)).map view).eraseIdx idx =
      (range num).map fun pos => if pos < idx then view pos else view (pos + 1) := by
  apply ext_getElem
  · rw [length_eraseIdx_of_lt (by simpa using Nat.lt_succ_of_le within)]
    simp
  · intro pos before after
    rw [getElem_eraseIdx]
    simp only [length_map, length_range] at after
    split_ifs <;> simp [*]

theorem eraseIdx_map_congr {view view' : ℕ → β}
    (same : ∀ pos < num, pos ≠ idx → view' pos = view pos) :
    ((range num).map view').eraseIdx idx = ((range num).map view).eraseIdx idx := by
  apply ext_getElem
  · simp [length_eraseIdx]
  · intro pos before after
    rw [getElem_eraseIdx, getElem_eraseIdx]
    have within := length_eraseIdx_le ((range num).map view) idx
    simp only [length_map, length_range] at within
    split_ifs with isBefore
    · simpa using same pos (by omega) (by omega)
    · have bound : pos + 1 < num := by
        simp only [length_eraseIdx, length_map, length_range] at after
        split_ifs at after <;> omega
      simpa using same (pos + 1) bound (by omega)

theorem map_closeUp (copy : α → α → α) (view : α → β) (slot : ℕ → α) (within : idx ≤ num)
    (copied : ∀ pos, idx ≤ pos → pos < num →
      view (copy (slot pos) (slot (pos + 1))) = view (slot (pos + 1))) :
    (range num).map (fun pos => view (closeUp copy (num - idx) idx slot pos)) =
      ((range (num + 1)).map fun pos => view (slot pos)).eraseIdx idx := by
  rw [eraseIdx_map_range _ within]
  apply map_congr_left
  intro pos inRange
  have isWithin := mem_range.mp inRange
  rw [closeUp_apply]
  by_cases isBefore : pos < idx
  · rw [if_neg (by omega), if_pos isBefore]
  · rw [if_pos (by omega), if_neg isBefore]
    exact copied pos (by omega) isWithin

end SlotShift
