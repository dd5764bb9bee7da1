import HtcPme.Foundation.ChainedTable
import HtcPme.IpaNat.Fields

/-!
# Well-formed NAT tables

The invariant of the driver's two chained tables and of its handles: base slots head the chains, and
expansion entries hang off them. A live slot is enabled and has no reserved protocol; an enabled one
with the reserved protocol is a dead head, kept for its successors.
-/

namespace HtcPme.IpaNat

open BitVec

namespace IpaNatIp4TableCache

/-- The dimensions of a table whose byte offsets all fit the 16 bits of a DMA command. -/
structure Geometry (tbl : IpaNatIp4TableCache) : Prop where
  valid : tbl.valid = true
  offset_zero : tbl.tblAddrOffset = 0
  base_pos : 0 < tbl.tableEntries
  base_fits : natTableEntrySize * tbl.tableEntries ≤ 2 ^ 16
  expn_fits : natTableEntrySize * tbl.expnTableEntries ≤ 2 ^ 16

def IsBaseSlot (tbl : IpaNatIp4TableCache) (slot : ℕ) : Prop :=
  0 < slot ∧ slot < tbl.tableEntries

def IsExpnSlot (tbl : IpaNatIp4TableCache) (slot : ℕ) : Prop :=
  tbl.tableEntries < slot ∧ slot < tbl.tableEntries + tbl.expnTableEntries

def IsSlot (tbl : IpaNatIp4TableCache) (slot : ℕ) : Prop :=
  tbl.IsBaseSlot slot ∨ tbl.IsExpnSlot slot

def ruleNext (tbl : IpaNatIp4TableCache) (slot : ℕ) : ℕ := (tbl.ipv4Rules slot).nextIndex

def rulePrev (tbl : IpaNatIp4TableCache) (slot : ℕ) : ℕ := (tbl.ipv4Rules slot).prevIndex

def RuleUsed (tbl : IpaNatIp4TableCache) (slot : ℕ) : Prop := (tbl.ipv4Rules slot).enable ≠ 0

def indexNext (tbl : IpaNatIp4TableCache) (slot : ℕ) : ℕ := (tbl.indexTable slot).nextIndex

def indexPrev (tbl : IpaNatIp4TableCache) (slot : ℕ) : ℕ :=
  (tbl.indexExpnTableMeta (slot - tbl.tableEntries)).toNat

def IndexUsed (tbl : IpaNatIp4TableCache) (slot : ℕ) : Prop := (tbl.indexTable slot).tblEntry ≠ 0

def LiveRule (tbl : IpaNatIp4TableCache) (slot : ℕ) : Prop :=
  tbl.RuleUsed slot ∧ (tbl.ipv4Rules slot).protocol ≠ natInvalidProtoFieldCmp

def DeadHead (tbl : IpaNatIp4TableCache) (slot : ℕ) : Prop :=
  tbl.RuleUsed slot ∧ (tbl.ipv4Rules slot).protocol = natInvalidProtoFieldCmp

instance (tbl : IpaNatIp4TableCache) : DecidablePred tbl.RuleUsed :=
  fun slot => inferInstanceAs (Decidable ((tbl.ipv4Rules slot).enable ≠ 0))

instance (tbl : IpaNatIp4TableCache) : DecidablePred tbl.IndexUsed :=
  fun slot => inferInstanceAs (Decidable ((tbl.indexTable slot).tblEntry ≠ 0))

instance (tbl : IpaNatIp4TableCache) : DecidablePred tbl.LiveRule :=
  fun slot => inferInstanceAs (Decidable (tbl.RuleUsed slot ∧ _ ≠ _))

instance (tbl : IpaNatIp4TableCache) : DecidablePred tbl.DeadHead :=
  fun slot => inferInstanceAs (Decidable (tbl.RuleUsed slot ∧ _ = _))

end IpaNatIp4TableCache

def RuleContent.clientRule (content : RuleContent) : IpaNatIpv4Rule where
  targetIp := content.targetIp
  privateIp := content.privateIp
  targetPort := content.targetPort
  privatePort := content.privatePort
  publicPort := content.publicPort
  protocol := content.protocol

@[simp]
theorem clientRule_clientContent (publicAddr : BitVec 32) (rule : IpaNatIpv4Rule) :
    (clientContent publicAddr rule).clientRule = rule := rfl

namespace IpaNatIp4TableCache

def dstSlotAt (tbl : IpaNatIp4TableCache) (slot : ℕ) : ℕ :=
  tbl.dstSlot (tbl.ipv4Rules slot).content.clientRule

def srcSlotAt (tbl : IpaNatIp4TableCache) (slot : ℕ) : ℕ :=
  tbl.srcSlot (tbl.ipv4Rules slot).content.clientRule

structure LinkedOk (tbl : IpaNatIp4TableCache) (ruleChain indexChain : ℕ → List ℕ) : Prop where
  rules : ChainedTable tbl.IsBaseSlot tbl.IsExpnSlot tbl.ruleNext tbl.rulePrev 0 tbl.RuleUsed
    ruleChain
  index : ChainedTable tbl.IsBaseSlot tbl.IsExpnSlot tbl.indexNext tbl.indexPrev 0 tbl.IndexUsed
    indexChain
  rule_only_slots : ∀ slot, tbl.RuleUsed slot → tbl.IsSlot slot
  index_only_slots : ∀ slot, tbl.IndexUsed slot → tbl.IsSlot slot
  expn_live : ∀ slot, tbl.IsExpnSlot slot → tbl.RuleUsed slot → tbl.LiveRule slot
  index_of_rule : ∀ slot, tbl.IsSlot slot → tbl.LiveRule slot →
    tbl.IsSlot (tbl.ipv4Rules slot).indxTblEntry ∧
      (tbl.indexTable (tbl.ipv4Rules slot).indxTblEntry).tblEntry = slot
  rule_of_index : ∀ slot, tbl.IsSlot slot → tbl.IndexUsed slot →
    tbl.IsSlot (tbl.indexTable slot).tblEntry ∧ tbl.LiveRule (tbl.indexTable slot).tblEntry ∧
      (tbl.ipv4Rules (tbl.indexTable slot).tblEntry).indxTblEntry = slot
  dst_place : ∀ slot, tbl.IsSlot slot → tbl.LiveRule slot →
    slot ∈ tbl.dstSlotAt slot :: ruleChain (tbl.dstSlotAt slot)
  src_place : ∀ slot, tbl.IsSlot slot → tbl.LiveRule slot →
    (tbl.ipv4Rules slot).indxTblEntry ∈ tbl.srcSlotAt slot :: indexChain (tbl.srcSlotAt slot)

structure ChainsOk (tbl : IpaNatIp4TableCache) (ruleChain indexChain : ℕ → List ℕ) : Prop
    extends LinkedOk tbl ruleChain indexChain where
  dead_has_next : ∀ slot, tbl.IsBaseSlot slot → tbl.DeadHead slot → tbl.ruleNext slot ≠ 0

end IpaNatIp4TableCache

structure HeldRule where
  ruleHdl : ℕ
  rule : IpaNatIpv4Rule
deriving DecidableEq

namespace IpaNatIp4TableCache

structure HandlesOk (tbl : IpaNatIp4TableCache) (held : List HeldRule) (entryOf : ℕ → ℕ) :
    Prop where
  nodup : (held.map HeldRule.ruleHdl).Nodup
  hdl_pos : ∀ one ∈ held, 0 < one.ruleHdl
  hdl_lt : ∀ one ∈ held, one.ruleHdl < tbl.tableEntries + tbl.expnTableEntries
  ruleId : ∀ one ∈ held, tbl.ruleIdArray (one.ruleHdl - 1) = ruleIdOf tbl (entryOf one.ruleHdl)
  slot : ∀ one ∈ held, tbl.IsSlot (entryOf one.ruleHdl)
  live : ∀ one ∈ held, tbl.LiveRule (entryOf one.ruleHdl)
  content : ∀ one ∈ held, (tbl.ipv4Rules (entryOf one.ruleHdl)).content =
    clientContent tbl.publicAddr one.rule
  inj : ∀ one ∈ held, ∀ other ∈ held, entryOf one.ruleHdl = entryOf other.ruleHdl →
    one.ruleHdl = other.ruleHdl
  covered : ∀ slot, tbl.IsSlot slot → tbl.LiveRule slot → ∃ one ∈ held, entryOf one.ruleHdl = slot
  free : ∀ cnt, (∀ one ∈ held, one.ruleHdl ≠ cnt + 1) → tbl.ruleIdArray cnt = 0

def WellFormed (tbl : IpaNatIp4TableCache) (held : List HeldRule) : Prop :=
  tbl.Geometry ∧ ∃ ruleChain indexChain entryOf,
    tbl.ChainsOk ruleChain indexChain ∧ tbl.HandlesOk held entryOf

section Slots

variable {tbl : IpaNatIp4TableCache} {slot : ℕ}

theorem IsBaseSlot.not_expn (base : tbl.IsBaseSlot slot) : ¬tbl.IsExpnSlot slot := by
  unfold IsBaseSlot at base
  unfold IsExpnSlot
  omega

theorem not_isExpnSlot_zero : ¬tbl.IsExpnSlot 0 := by
  unfold IsExpnSlot
  omega

theorem IsSlot.pos (isSlot : tbl.IsSlot slot) : slot ≠ 0 := by
  unfold IsSlot IsBaseSlot IsExpnSlot at isSlot
  omega

theorem IsSlot.lt (isSlot : tbl.IsSlot slot) :
    slot < tbl.tableEntries + tbl.expnTableEntries := by
  unfold IsSlot IsBaseSlot IsExpnSlot at isSlot
  omega

variable (geometry : tbl.Geometry)

include geometry

theorem Geometry.total_le :
    tbl.tableEntries + tbl.expnTableEntries ≤ 2 ^ 16 := by
  have base := geometry.base_fits
  have expn := geometry.expn_fits
  simp only [natTableEntrySize] at base expn
  omega

theorem Geometry.lt_of_isSlot (isSlot : tbl.IsSlot slot) :
    slot < 2 ^ 16 :=
  isSlot.lt.trans_le geometry.total_le

theorem Geometry.toNat_ofNat (isSlot : tbl.IsSlot slot) :
    (BitVec.ofNat 16 slot).toNat = slot := by
  rw [BitVec.toNat_ofNat]
  exact Nat.mod_eq_of_lt (geometry.lt_of_isSlot isSlot)

theorem Geometry.expn_sub (isExpn : tbl.IsExpnSlot slot) :
    tbl.tableEntries + sub16 slot tbl.tableEntries = slot := by
  have bound := geometry.lt_of_isSlot (Or.inr isExpn)
  unfold IsExpnSlot at isExpn
  rw [sub16_of_le (by omega) bound]
  omega

end Slots

section Hash

theorem masked_slot (hash : BitVec 16) {size : BitVec 16} (positive : size ≠ 0) :
    0 < (if hash &&& size = 0 then size else hash &&& size).toNat ∧
      (if hash &&& size = 0 then size else hash &&& size).toNat ≤ size.toNat := by
  have pos : ∀ word : BitVec 16, word ≠ 0 → 0 < word.toNat := by
    intro word wordNe
    rw [Nat.pos_iff_ne_zero]
    intro isZero
    exact wordNe (eq_of_toNat_eq (by simpa using isZero))
  split
  · exact ⟨pos size positive, le_refl _⟩
  · rename_i notZero
    refine ⟨pos _ notZero, ?_⟩
    rw [toNat_and]
    exact Nat.and_le_right

variable {tbl : IpaNatIp4TableCache} (rule : IpaNatIpv4Rule)

theorem hashSize_toNat (positive : 0 < tbl.tableEntries) (fits : tbl.tableEntries ≤ 2 ^ 16) :
    tbl.hashSize.toNat = tbl.tableEntries - 1 := by
  have one : (1 : BitVec 16).toNat = 1 := rfl
  rw [hashSize, toNat_sub, toNat_ofNat, one]
  omega

theorem dstSlot_lt (positive : 0 < tbl.tableEntries) (fits : tbl.tableEntries ≤ 2 ^ 16) :
    tbl.dstSlot rule < tbl.tableEntries := by
  have sizeEq := hashSize_toNat positive fits
  have le : tbl.dstSlot rule ≤ tbl.hashSize.toNat := by
    unfold dstSlot dstHash
    simp only
    split
    · apply le_refl
    · rw [toNat_and]
      apply Nat.and_le_right
  omega

variable (geometry : tbl.Geometry)

include geometry

theorem Geometry.hashSize_toNat :
    tbl.hashSize.toNat = tbl.tableEntries - 1 := by
  have fits := geometry.base_fits
  simp only [natTableEntrySize] at fits
  exact IpaNatIp4TableCache.hashSize_toNat geometry.base_pos (by omega)

section

variable (many : 1 < tbl.tableEntries)

include many

theorem Geometry.hashSize_ne_zero :
    tbl.hashSize ≠ 0 := by
  intro isZero
  have size := geometry.hashSize_toNat
  rw [isZero] at size
  simp at size
  omega

theorem Geometry.isBaseSlot_dstSlot :
    tbl.IsBaseSlot (tbl.dstSlot rule) := by
  have bounds := masked_slot (rule.targetIp.setWidth 16 ^^^
    (rule.targetIp >>> 16).setWidth 16 ^^^ rule.targetPort ^^^ rule.publicPort ^^^
    rule.protocol.setWidth 16) (geometry.hashSize_ne_zero many)
  rw [geometry.hashSize_toNat] at bounds
  refine ⟨bounds.1, ?_⟩
  have := bounds.2
  change tbl.dstSlot rule ≤ tbl.tableEntries - 1 at this
  omega

theorem Geometry.isBaseSlot_srcSlot :
    tbl.IsBaseSlot (tbl.srcSlot rule) := by
  have bounds := masked_slot (rule.privateIp.setWidth 16 ^^^
    (rule.privateIp >>> 16).setWidth 16 ^^^ rule.privatePort ^^^ rule.targetIp.setWidth 16 ^^^
    (rule.targetIp >>> 16).setWidth 16 ^^^ rule.targetPort ^^^ rule.protocol.setWidth 16)
    (geometry.hashSize_ne_zero many)
  rw [geometry.hashSize_toNat] at bounds
  refine ⟨bounds.1, ?_⟩
  have := bounds.2
  change tbl.srcSlot rule ≤ tbl.tableEntries - 1 at this
  omega

end

theorem Geometry.dstSlot_eq_zero (single : tbl.tableEntries = 1) :
    tbl.dstSlot rule = 0 := by
  have size : tbl.hashSize = 0 := by
    apply eq_of_toNat_eq
    rw [geometry.hashSize_toNat, single]
    rfl
  simp [dstSlot, dstHash, size]

end Hash

section Dma

variable {tbl : IpaNatIp4TableCache} {entry field : ℕ} {data : BitVec 16}

theorem dma_offset {size : ℕ} (entry : ℕ) (fieldLt : field < size)
    (fits : size * (entry + 1) ≤ 2 ^ 16) :
    (BitVec.ofNat 32 (size * entry + field)).toNat / size = entry ∧
      (BitVec.ofNat 32 (size * entry + field)).toNat % size = field := by
  have lt : size * entry + field < 2 ^ 16 := by
    rw [Nat.mul_add, Nat.mul_one] at fits
    omega
  rw [BitVec.toNat_ofNat, Nat.mod_eq_of_lt (lt.trans (by decide))]
  refine ⟨?_, ?_⟩
  · rw [Nat.mul_add_div (by omega), Nat.div_eq_of_lt fieldLt, Nat.add_zero]
  · rw [Nat.mul_add_mod, Nat.mod_eq_of_lt fieldLt]

variable (geometry : tbl.Geometry)

include geometry

theorem Geometry.applyDma_base (entryLt : entry < tbl.tableEntries)
    (fieldLt : field < natTableEntrySize) :
    tbl.applyDma
        { baseAddr := .baseTbl, offset := BitVec.ofNat 32 (natTableEntrySize * entry + field)
          data } =
      tbl.setRule entry ((tbl.ipv4Rules entry).writeHalfword field data) := by
  have fits := geometry.base_fits
  obtain ⟨isEntry, isField⟩ := dma_offset entry fieldLt (by
    exact le_trans (Nat.mul_le_mul_left _ entryLt) fits)
  simp only [applyDma, isEntry, isField]

theorem Geometry.applyDma_expn (entryGe : tbl.tableEntries ≤ entry)
    (entryLt : entry < tbl.tableEntries + tbl.expnTableEntries)
    (fieldLt : field < natTableEntrySize) :
    tbl.applyDma
        { baseAddr := .expnTbl
          offset := BitVec.ofNat 32 (natTableEntrySize * (entry - tbl.tableEntries) + field)
          data } =
      tbl.setRule entry ((tbl.ipv4Rules entry).writeHalfword field data) := by
  have fits := geometry.expn_fits
  obtain ⟨isEntry, isField⟩ := dma_offset (entry - tbl.tableEntries) fieldLt (by
    refine le_trans (Nat.mul_le_mul_left _ ?_) fits
    omega)
  have back : tbl.tableEntries + (entry - tbl.tableEntries) = entry := by omega
  simp only [applyDma, isEntry, isField, back]

theorem Geometry.applyDma_index (entryLt : entry < tbl.tableEntries)
    (fieldLt : field < natIndexTableEntrySize) :
    tbl.applyDma
        { baseAddr := .indxTbl
          offset := BitVec.ofNat 32 (natIndexTableEntrySize * entry + field)
          data } =
      tbl.setIndex entry ((tbl.indexTable entry).writeHalfword field data) := by
  have fits := geometry.base_fits
  simp only [natTableEntrySize] at fits
  obtain ⟨isEntry, isField⟩ := dma_offset entry fieldLt (by
    simp only [natIndexTableEntrySize]
    omega)
  simp only [applyDma, isEntry, isField]

theorem Geometry.applyDma_indexExpn (entryGe : tbl.tableEntries ≤ entry)
    (entryLt : entry < tbl.tableEntries + tbl.expnTableEntries)
    (fieldLt : field < natIndexTableEntrySize) :
    tbl.applyDma
        { baseAddr := .indexExpnTbl
          offset := BitVec.ofNat 32 (natIndexTableEntrySize * (entry - tbl.tableEntries) + field)
          data } =
      tbl.setIndex entry ((tbl.indexTable entry).writeHalfword field data) := by
  have fits := geometry.expn_fits
  simp only [natTableEntrySize] at fits
  obtain ⟨isEntry, isField⟩ := dma_offset (entry - tbl.tableEntries) fieldLt (by
    simp only [natIndexTableEntrySize]
    omega)
  have back : tbl.tableEntries + (entry - tbl.tableEntries) = entry := by omega
  simp only [applyDma, isEntry, isField, back]

theorem Geometry.applyDma_ruleNextCmd (entryLt : entry < tbl.tableEntries + tbl.expnTableEntries) :
    tbl.applyDma (ruleNextCmd tbl entry data) =
      tbl.setRule entry ((tbl.ipv4Rules entry).writeHalfword natRuleNextFieldOffset data) := by
  unfold ruleNextCmd ipaNatiGetEntryOffset
  rw [geometry.offset_zero, Nat.add_zero, Nat.add_zero]
  split
  · exact geometry.applyDma_expn (by omega) entryLt (by decide)
  · exact geometry.applyDma_base (by omega) (by decide)

theorem Geometry.applyDma_indexNextCmd (entryLt : entry < tbl.tableEntries + tbl.expnTableEntries) :
    tbl.applyDma (indexNextCmd tbl entry data) =
      tbl.setIndex entry
        ((tbl.indexTable entry).writeHalfword natIndexRuleNextFieldOffset data) := by
  unfold indexNextCmd ipaNatiGetIndexEntryOffset
  rw [geometry.offset_zero, Nat.add_zero, Nat.add_zero]
  split
  · exact geometry.applyDma_indexExpn (by omega) entryLt (by decide)
  · exact geometry.applyDma_index (by omega) (by decide)

end Dma

end IpaNatIp4TableCache

end HtcPme.IpaNat
