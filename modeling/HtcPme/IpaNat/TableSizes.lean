import HtcPme.IpaNat.TableLifecycle
import HtcPme.IpaNat.WellFormed
import Mathlib.Algebra.Group.Even
import Mathlib.Data.Nat.Log

/-!
# Table sizes and hash ranges

The base table of `ipa_nati_alloc_table` has as many entries as the power of two that
`GetNearest2Power` finds, and the hashes of both tables stay below it.
-/

namespace HtcPme.IpaNat

section Power

theorem nearest2PowerLoop_eq (number rounds num exponent : ℕ) (positive : 0 < num)
    (fits : num < 2 ^ rounds) (small : exponent + Nat.log 2 num < 16) :
    nearest2PowerLoop number rounds num (2 ^ exponent) =
      if number ≠ 2 ^ (exponent + Nat.log 2 num) then
        2 ^ (exponent + Nat.log 2 num + 1) % 2 ^ 16
      else 2 ^ (exponent + Nat.log 2 num) := by
  induction rounds generalizing num exponent with
  | zero =>
      rw [Nat.pow_zero] at fits
      omega
  | succ rounds ih =>
      unfold nearest2PowerLoop
      by_cases isOne : num = 1
      · rw [if_pos isOne, isOne, Nat.log_one_right, Nat.add_zero, Nat.pow_succ 2 exponent]
      · rw [if_neg isOne]
        have atLeast : 2 ≤ num := by omega
        have halved : num >>> 1 = num / 2 := Nat.shiftRight_eq_div_pow num 1
        have log : Nat.log 2 num = Nat.log 2 (num / 2) + 1 :=
          Nat.log_of_one_lt_of_le (by decide) atLeast
        have doubled : 2 ^ exponent * 2 % 2 ^ 16 = 2 ^ (exponent + 1) := by
          rw [← Nat.pow_succ]
          apply Nat.mod_eq_of_lt
          exact Nat.pow_lt_pow_right (by decide) (by omega)
        have exponents : exponent + 1 + Nat.log 2 (num / 2) = exponent + Nat.log 2 num := by
          omega
        rw [halved, doubled, ih _ _ (by omega) (by omega) (by omega), exponents]

theorem getNearest2Power_spec (num : ℕ) (positive : 0 < num) (fits : num ≤ 2 ^ 15) :
    ∃ exponent, 0 < exponent ∧ exponent ≤ 15 ∧ getNearest2Power num = some (2 ^ exponent) ∧
      num ≤ 2 ^ exponent := by
  unfold getNearest2Power
  rw [if_neg positive.ne']
  by_cases isOne : num = 1
  · exact ⟨1, by decide, by decide, if_pos isOne, by omega⟩
  · rw [if_neg isOne]
    have low := Nat.pow_log_le_self 2 positive.ne'
    have high := Nat.lt_pow_succ_log_self (b := 2) (by decide) num
    have someBit : 0 < Nat.log 2 num := Nat.log_pos (by decide) (by omega)
    have small : Nat.log 2 num ≤ 15 :=
      (Nat.pow_le_pow_iff_right (a := 2) (by decide)).mp (low.trans fits)
    have loop := nearest2PowerLoop_eq num 16 num 0 positive (by omega) (by omega)
    rw [Nat.zero_add, Nat.pow_zero] at loop
    rw [loop]
    by_cases isPower : num = 2 ^ Nat.log 2 num
    · rw [if_neg (not_not_intro isPower)]
      exact ⟨Nat.log 2 num, someBit, small, rfl, isPower.le⟩
    · rw [if_pos isPower]
      have less : Nat.log 2 num < 15 := by
        have below : 2 ^ Nat.log 2 num < 2 ^ 15 := by omega
        exact (Nat.pow_lt_pow_iff_right (a := 2) (by decide)).mp below
      have noWrap : 2 ^ (Nat.log 2 num + 1) % 2 ^ 16 = 2 ^ (Nat.log 2 num + 1) := by
        apply Nat.mod_eq_of_lt
        exact Nat.pow_lt_pow_right (by decide) (by omega)
      exact ⟨Nat.log 2 num + 1, by omega, by omega, by rw [noWrap], high.le⟩

theorem getNearest2Power_eq_zero {num : ℕ} (beyond : 2 ^ 15 < num) (fits : num < 2 ^ 16) :
    getNearest2Power num = some 0 := by
  unfold getNearest2Power
  rw [if_neg (by omega), if_neg (by omega)]
  have log : Nat.log 2 num = 15 := by
    apply Nat.log_eq_of_pow_le_of_lt_pow
    · exact beyond.le
    · exact fits
  have loop := nearest2PowerLoop_eq num 16 num 0 (by omega) fits (by omega)
  rw [log, Nat.zero_add, Nat.pow_zero] at loop
  rw [loop, if_pos (by omega)]
  rfl

theorem getNearestEven_spec (num : ℕ) (fits : num < 2 ^ 16 - 1) :
    Even (getNearestEven num) ∧ num ≤ getNearestEven num ∧ getNearestEven num ≤ num + 2 := by
  rw [Nat.even_iff]
  unfold getNearestEven
  split_ifs <;> omega

end Power

section Hash

variable {size : BitVec 16}

theorem dstHash_range (nonzero : size ≠ 0) (trgtIp : BitVec 32) (trgtPort publicPort : BitVec 16)
    (proto : BitVec 8) :
    1 ≤ (dstHash trgtIp trgtPort publicPort proto size).toNat ∧
      (dstHash trgtIp trgtPort publicPort proto size).toNat ≤ size.toNat :=
  IpaNatIp4TableCache.masked_slot _ nonzero

theorem srcHash_range (nonzero : size ≠ 0) (privIp : BitVec 32) (privPort : BitVec 16)
    (trgtIp : BitVec 32) (trgtPort : BitVec 16) (proto : BitVec 8) :
    1 ≤ (srcHash privIp privPort trgtIp trgtPort proto size).toNat ∧
      (srcHash privIp privPort trgtIp trgtPort proto size).toNat ≤ size.toNat :=
  IpaNatIp4TableCache.masked_slot _ nonzero

end Hash

section Sizes

/-- The mask `table_entries - 1` as a `uint16_t`. -/
def hashMask (tableEntries : ℕ) : BitVec 16 := BitVec.ofNat 16 tableEntries - 1

structure SizesOk (numberOfEntries : ℕ) (mem : AllocatedMem) : Prop where
  power : ∃ exponent, mem.tableEntries = 2 ^ exponent
  base : numberOfEntries * 4 / 5 ≤ mem.tableEntries
  even : Even mem.expnTableEntries
  expn : numberOfEntries / 5 ≤ mem.expnTableEntries
  total : mem.tableEntries + mem.expnTableEntries < 2 ^ 16
  size : mem.size =
    (natTableEntrySize + natIndexTableEntrySize) * (mem.tableEntries + mem.expnTableEntries)
  dst : ∀ trgtIp trgtPort publicPort proto,
    1 ≤ (dstHash trgtIp trgtPort publicPort proto (hashMask mem.tableEntries)).toNat ∧
      (dstHash trgtIp trgtPort publicPort proto (hashMask mem.tableEntries)).toNat ≤
        mem.tableEntries - 1
  src : ∀ privIp privPort trgtIp trgtPort proto,
    1 ≤ (srcHash privIp privPort trgtIp trgtPort proto (hashMask mem.tableEntries)).toNat ∧
      (srcHash privIp privPort trgtIp trgtPort proto (hashMask mem.tableEntries)).toNat ≤
        mem.tableEntries - 1

def AllocSizesOk (numberOfEntries : ℕ) : Prop :=
  ∀ cache env mem cache', ipaNatiAllocTable cache numberOfEntries env = (.ok mem, cache') →
    SizesOk numberOfEntries mem

variable {numberOfEntries : ℕ}

theorem ipaNatiAllocTable_sizes {cache cache' : IpaNatCache} {env : AddTblEnv} {mem : AllocatedMem}
    (allocated : ipaNatiAllocTable cache numberOfEntries env = (.ok mem, cache')) :
    getNearest2Power (if numberOfEntries * 4 / 5 = 0 then 1 else numberOfEntries * 4 / 5) =
        some mem.tableEntries ∧
      mem.expnTableEntries = getNearestEven (numberOfEntries / 5) ∧
      mem.size = natTableEntrySize * ((mem.tableEntries + mem.expnTableEntries) % 2 ^ 16) +
        natIndexTableEntrySize * ((mem.tableEntries + mem.expnTableEntries) % 2 ^ 16) := by
  unfold ipaNatiAllocTable at allocated
  simp only at allocated
  split at allocated
  · cases allocated
  · rename_i tableEntries power
    split at allocated
    · cases allocated
    · split at allocated
      · cases allocated
      · cases allocated
        exact ⟨power, rfl, rfl⟩

theorem toNat_hashMask {exponent : ℕ} (positive : 0 < exponent) (small : exponent ≤ 15) :
    (hashMask (2 ^ exponent)).toNat = 2 ^ exponent - 1 := by
  have low : 2 ^ 1 ≤ 2 ^ exponent := Nat.pow_le_pow_right (by decide) positive
  have high : 2 ^ exponent ≤ 2 ^ 15 := Nat.pow_le_pow_right (by decide) small
  unfold hashMask
  have one : (1 : BitVec 16).toNat = 1 := rfl
  rw [BitVec.toNat_sub, BitVec.toNat_ofNat, one]
  omega

theorem allocSizesOk_of_le (fits : numberOfEntries < 2 ^ 16)
    (small : numberOfEntries * 4 / 5 ≤ 2 ^ 15) : AllocSizesOk numberOfEntries := by
  intro cache env mem cache' allocated
  rcases ipaNatiAllocTable_sizes allocated with ⟨base, expn, size⟩
  rcases getNearest2Power_spec
    (if numberOfEntries * 4 / 5 = 0 then 1 else numberOfEntries * 4 / 5)
    (by split <;> omega) (by split <;> omega) with
    ⟨exponent, positive, within, isPower, atLeast⟩
  have tableEntries : mem.tableEntries = 2 ^ exponent := by
    rw [isPower] at base
    exact (Option.some.inj base).symm
  have even := getNearestEven_spec (numberOfEntries / 5) (by omega)
  rw [← expn] at even
  have high : 2 ^ exponent ≤ 2 ^ 15 := Nat.pow_le_pow_right (by decide) within
  have low : 2 ^ 1 ≤ 2 ^ exponent := Nat.pow_le_pow_right (by decide) positive
  have total : mem.tableEntries + mem.expnTableEntries < 2 ^ 16 := by
    rw [tableEntries]
    omega
  have mask : (hashMask mem.tableEntries).toNat = mem.tableEntries - 1 := by
    rw [tableEntries]
    exact toNat_hashMask positive within
  have nonzero : hashMask mem.tableEntries ≠ 0 := by
    intro isZero
    rw [isZero, tableEntries] at mask
    simp only [BitVec.toNat_zero, BitVec.ofNat_eq_ofNat] at mask
    omega
  refine ⟨⟨exponent, tableEntries⟩, ?_, even.1, even.2.1, total, ?_, ?_, ?_⟩
  · rw [tableEntries]
    apply le_trans _ atLeast
    split <;> omega
  · rw [size, Nat.mod_eq_of_lt total, Nat.add_mul]
  · intro trgtIp trgtPort publicPort proto
    rw [← mask]
    exact dstHash_range nonzero _ _ _ _
  · intro privIp privPort trgtIp trgtPort proto
    rw [← mask]
    exact srcHash_range nonzero _ _ _ _ _

def allSucceeds : AddTblEnv := ⟨some 3, some 0, true, true, some 4, true, true⟩

theorem not_allocSizesOk_of_lt (fits : numberOfEntries < 2 ^ 16)
    (beyond : 2 ^ 15 < numberOfEntries * 4 / 5) : ¬ AllocSizesOk numberOfEntries := by
  intro ok
  have notFails : ¬ allSucceeds.AllocFails .initial := by
    simp [AddTblEnv.AllocFails, allSucceeds]
  rcases ipaNatiAllocTable_succeeds numberOfEntries notFails with ⟨mem, fd, allocated⟩
  rcases (ok _ _ _ _ allocated).power with ⟨exponent, isPower⟩
  have base := (ipaNatiAllocTable_sizes allocated).1
  rw [if_neg (by omega), getNearest2Power_eq_zero beyond (by omega)] at base
  rw [← Option.some.inj base] at isPower
  exact absurd isPower.symm (Nat.two_pow_pos exponent).ne'

/-- The dimensions are right exactly for the numbers of entries whose power of two has 16 bits. -/
theorem allocSizesOk_iff {numberOfEntries : ℕ} (positive : 1 ≤ numberOfEntries)
    (fits : numberOfEntries ≤ 65535) :
    AllocSizesOk numberOfEntries ↔ numberOfEntries * 4 / 5 ≤ 2 ^ 15 := by
  constructor
  · intro ok
    by_contra beyond
    exact not_allocSizesOk_of_lt (by omega) (by omega) ok
  · exact allocSizesOk_of_le (by omega)

theorem allocSizesOk_iff_4000 : AllocSizesOk 4000 ↔ 4000 * 4 / 5 ≤ 2 ^ 15 :=
  allocSizesOk_iff (by decide) (by decide)

/-- The power of two for 32769 base entries has wrapped to 0. -/
theorem not_allocSizesOk :
    (∃ mem cache, ipaNatiAllocTable .initial 40962 allSucceeds = (.ok mem, cache) ∧
      mem.tableEntries = 0) ∧ ¬ AllocSizesOk 40962 := by
  refine ⟨⟨_, _, rfl, by decide +kernel⟩, ?_⟩
  exact not_allocSizesOk_of_lt (by decide) (by decide)

end Sizes

end HtcPme.IpaNat
