import Mathlib.Data.BitVec
import Mathlib.Tactic.Common

/-!
# Halfwords of a 32-bit word

A little-endian 32-bit word read and written through its two 16-bit halves, either as bit fields or
as masks and shifts.
-/

namespace Halfword

open BitVec

def lo (word : BitVec 32) : BitVec 16 := word.extractLsb' 0 16

def hi (word : BitVec 32) : BitVec 16 := word.extractLsb' 16 16

def ofHalves (high low : BitVec 16) : BitVec 32 := high ++ low

def setLo (word : BitVec 32) (value : BitVec 16) : BitVec 32 := ofHalves (hi word) value

def setHi (word : BitVec 32) (value : BitVec 16) : BitVec 32 := ofHalves value (lo word)

variable (word : BitVec 32) (high low value : BitVec 16)

@[simp]
theorem lo_ofHalves : lo (ofHalves high low) = low := by
  apply eq_of_getLsbD_eq
  intro i bound
  simp only [lo, ofHalves, getLsbD_extractLsb', getLsbD_append]
  simp [bound]

@[simp]
theorem hi_ofHalves : hi (ofHalves high low) = high := by
  apply eq_of_getLsbD_eq
  intro i bound
  simp only [hi, ofHalves, getLsbD_extractLsb', getLsbD_append]
  simp [bound]

theorem ofHalves_hi_lo : ofHalves (hi word) (lo word) = word := by
  apply eq_of_getLsbD_eq
  intro i bound
  simp only [hi, lo, ofHalves, getLsbD_append, getLsbD_extractLsb']
  by_cases low : i < 16
  · simp [low]
  · have near : i - 16 < 16 := by omega
    have back : 16 + (i - 16) = i := by omega
    simp [low, near, back]

@[simp]
theorem lo_setLo : lo (setLo word value) = value := by simp [setLo]

@[simp]
theorem hi_setLo : hi (setLo word value) = hi word := by simp [setLo]

@[simp]
theorem lo_setHi : lo (setHi word value) = lo word := by simp [setHi]

@[simp]
theorem hi_setHi : hi (setHi word value) = value := by simp [setHi]

theorem getLsbD_lowMask (i : Fin 32) :
    (0x0000FFFF#32).getLsbD i = decide (i.val < 16) := by
  revert i; decide

theorem getLsbD_highMask (i : Fin 32) :
    (0xFFFF0000#32).getLsbD i = decide (16 ≤ i.val) := by
  revert i; decide

/-- Keeping the low half and or-ing a shifted value in writes the high half. -/
theorem mask_or_shift : (word &&& 0x0000FFFF#32) ||| (value.setWidth 32 <<< 16) =
    setHi word value := by
  apply eq_of_getLsbD_eq
  intro i bound
  have mask := getLsbD_lowMask ⟨i, bound⟩
  simp only [getLsbD_or, getLsbD_and, mask, setHi, lo, ofHalves,
    getLsbD_append,
    getLsbD_shiftLeft, getLsbD_setWidth, getLsbD_extractLsb']
  by_cases low : i < 16
  · simp [low]
  · have near : i - 16 < 32 := by omega
    simp [low, bound, near]

theorem mask_or : (word &&& 0xFFFF0000#32) ||| value.setWidth 32 = setLo word value := by
  apply eq_of_getLsbD_eq
  intro i bound
  have mask := getLsbD_highMask ⟨i, bound⟩
  simp only [getLsbD_or, getLsbD_and, mask, setLo, hi, ofHalves,
    getLsbD_append,
    getLsbD_setWidth, getLsbD_extractLsb']
  by_cases low : i < 16
  · simp [low, bound, Nat.not_le.mpr low]
  · have near : i - 16 < 16 := by omega
    have back : 16 + (i - 16) = i := by omega
    simp [low, near, back, Nat.not_lt.mp low]

end Halfword
