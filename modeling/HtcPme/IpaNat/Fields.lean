import HtcPme.IpaNat.Driver

/-!
# Field-level effects of the driver's stores

Every store of the driver, whether a `memcpy`, a bit-field update or a DMA command, described by
what it leaves in each field of the entry it addresses.
-/

namespace HtcPme.IpaNat

open Halfword BitVec

structure RuleContent where
  privateIp : BitVec 32
  targetIp : BitVec 32
  privatePort : BitVec 16
  targetPort : BitVec 16
  publicPort : BitVec 16
  protocol : BitVec 8
  ipChksum : BitVec 16
  tcpUdpChksum : BitVec 16
deriving DecidableEq

namespace IpaNatRule

def content (rule : IpaNatRule) : RuleContent where
  privateIp := rule.privateIp
  targetIp := rule.targetIp
  privatePort := rule.privatePort
  targetPort := rule.targetPort
  publicPort := read16BitFieldValue rule.nxtIndxPubPort .publicPortFiled
  protocol := rule.protocol
  ipChksum := read16BitFieldValue rule.ipCksmEnbl .ipChksumField
  tcpUdpChksum := rule.tcpUdpChksum

variable (rule : IpaNatRule) (value : BitVec 16)

section Words

theorem nextIndex_eq : rule.nextIndex = (lo rule.nxtIndxPubPort).toNat := rfl

theorem enable_eq : rule.enable = hi rule.ipCksmEnbl >>> 15 := rfl

theorem prevIndex_eq : rule.prevIndex = (lo rule.swSpecParams).toNat := rfl

theorem indxTblEntry_eq : rule.indxTblEntry = (hi rule.swSpecParams).toNat := rfl

theorem protocol_eq : rule.protocol = rule.tsProto.extractLsb' 24 8 := rfl

theorem content_eq : rule.content =
    { privateIp := rule.privateIp, targetIp := rule.targetIp, privatePort := rule.privatePort
      targetPort := rule.targetPort, publicPort := hi rule.nxtIndxPubPort
      protocol := rule.protocol, ipChksum := lo rule.ipCksmEnbl
      tcpUdpChksum := rule.tcpUdpChksum } := rfl

theorem write_next : rule.writeHalfword natRuleNextFieldOffset value =
    { rule with nxtIndxPubPort := setLo rule.nxtIndxPubPort value } := rfl

theorem write_flag : rule.writeHalfword natRuleFlagFieldOffset value =
    { rule with ipCksmEnbl := setHi rule.ipCksmEnbl value } := rfl

theorem write_proto : rule.writeHalfword natRuleProtoFieldOffset value =
    { rule with tsProto := setHi rule.tsProto value } := rfl

end Words

section Zero

@[simp] theorem nextIndex_zero : zero.nextIndex = 0 := by decide
@[simp] theorem enable_zero : zero.enable = 0 := by decide
@[simp] theorem protocol_zero : zero.protocol = 0 := by decide

end Zero

section Next

@[simp]
theorem nextIndex_write_next :
    (rule.writeHalfword natRuleNextFieldOffset value).nextIndex = value.toNat := by
  simp [write_next, nextIndex_eq]

@[simp]
theorem enable_write_next :
    (rule.writeHalfword natRuleNextFieldOffset value).enable = rule.enable := rfl

@[simp]
theorem prevIndex_write_next :
    (rule.writeHalfword natRuleNextFieldOffset value).prevIndex = rule.prevIndex := rfl

@[simp]
theorem indxTblEntry_write_next :
    (rule.writeHalfword natRuleNextFieldOffset value).indxTblEntry = rule.indxTblEntry := rfl

@[simp]
theorem content_write_next :
    (rule.writeHalfword natRuleNextFieldOffset value).content = rule.content := by
  simp [write_next, content_eq, protocol_eq]

end Next

section Flag

@[simp]
theorem nextIndex_write_flag :
    (rule.writeHalfword natRuleFlagFieldOffset value).nextIndex = rule.nextIndex := rfl

@[simp]
theorem enable_write_flag :
    (rule.writeHalfword natRuleFlagFieldOffset value).enable = value >>> 15 := by
  simp [write_flag, enable_eq]

@[simp]
theorem prevIndex_write_flag :
    (rule.writeHalfword natRuleFlagFieldOffset value).prevIndex = rule.prevIndex := rfl

@[simp]
theorem indxTblEntry_write_flag :
    (rule.writeHalfword natRuleFlagFieldOffset value).indxTblEntry = rule.indxTblEntry := rfl

@[simp]
theorem content_write_flag :
    (rule.writeHalfword natRuleFlagFieldOffset value).content = rule.content := by
  simp [write_flag, content_eq, protocol_eq]

end Flag

section Proto

@[simp]
theorem nextIndex_write_proto :
    (rule.writeHalfword natRuleProtoFieldOffset value).nextIndex = rule.nextIndex := rfl

@[simp]
theorem enable_write_proto :
    (rule.writeHalfword natRuleProtoFieldOffset value).enable = rule.enable := rfl

@[simp]
theorem prevIndex_write_proto :
    (rule.writeHalfword natRuleProtoFieldOffset value).prevIndex = rule.prevIndex := rfl

@[simp]
theorem indxTblEntry_write_proto :
    (rule.writeHalfword natRuleProtoFieldOffset value).indxTblEntry = rule.indxTblEntry := rfl

@[simp]
theorem protocol_write_proto :
    (rule.writeHalfword natRuleProtoFieldOffset natInvalidProtoFieldValue).protocol =
      natInvalidProtoFieldCmp := by
  apply eq_of_getLsbD_eq
  intro i bound
  have bit : ∀ j : Fin 8, (0xFF00#16).getLsbD (8 + j) = (0xFF#8).getLsbD j := by decide
  simp only [write_proto, protocol_eq, setHi, ofHalves, getLsbD_extractLsb',
    getLsbD_append]
  have past : ¬24 + i < 16 := by omega
  have shift : 24 + i - 16 = 8 + i := by omega
  simpa [bound, past, shift] using bit ⟨i, bound⟩

end Proto

end IpaNatRule

section SwSpecParams

variable (rule : IpaNatRule) (value : BitVec 16) (isIndxTblEntry : Bool)

@[simp]
theorem nextIndex_updateSwSpecParams :
    (updateSwSpecParams rule isIndxTblEntry value).nextIndex = rule.nextIndex := by
  unfold updateSwSpecParams; split <;> rfl

@[simp]
theorem enable_updateSwSpecParams :
    (updateSwSpecParams rule isIndxTblEntry value).enable = rule.enable := by
  unfold updateSwSpecParams; split <;> rfl

@[simp]
theorem content_updateSwSpecParams :
    (updateSwSpecParams rule isIndxTblEntry value).content = rule.content := by
  unfold updateSwSpecParams; split <;> rfl

@[simp]
theorem prevIndex_updateSwSpecParams_prev :
    (updateSwSpecParams rule false value).prevIndex = value.toNat := by
  simp [updateSwSpecParams, IpaNatRule.prevIndex_eq, mask_or]

@[simp]
theorem indxTblEntry_updateSwSpecParams_prev :
    (updateSwSpecParams rule false value).indxTblEntry = rule.indxTblEntry := by
  simp [updateSwSpecParams, IpaNatRule.indxTblEntry_eq, mask_or]

@[simp]
theorem prevIndex_updateSwSpecParams_indx :
    (updateSwSpecParams rule true value).prevIndex = rule.prevIndex := by
  simp [updateSwSpecParams, IpaNatRule.prevIndex_eq, mask_or_shift]

@[simp]
theorem indxTblEntry_updateSwSpecParams_indx :
    (updateSwSpecParams rule true value).indxTblEntry = value.toNat := by
  simp [updateSwSpecParams, IpaNatRule.indxTblEntry_eq, mask_or_shift]

end SwSpecParams

@[simp]
theorem content_protocol (rule : IpaNatRule) : rule.content.protocol = rule.protocol := rfl

def clientContent (publicAddr : BitVec 32) (rule : IpaNatIpv4Rule) : RuleContent where
  privateIp := rule.privateIp
  targetIp := rule.targetIp
  privatePort := rule.privatePort
  targetPort := rule.targetPort
  publicPort := rule.publicPort
  protocol := rule.protocol
  ipChksum := ipaNatiCalcIpCksum publicAddr rule.privateIp
  tcpUdpChksum :=
    if rule.protocol = ipProtoTcp ∨ rule.protocol = ipProtoUdp then
      ipaNatiCalcTcpUdpCksum publicAddr rule.publicPort rule.privateIp rule.privatePort
    else 0

namespace IpaNatSwRule

variable (rule : IpaNatSwRule)

@[simp]
theorem nextIndex_toHw : rule.toHw.nextIndex = rule.nextIndex.toNat := by
  simp [toHw, IpaNatRule.nextIndex_eq]

@[simp]
theorem prevIndex_toHw : rule.toHw.prevIndex = rule.prevIndex.toNat := by
  simp [toHw, IpaNatRule.prevIndex_eq]

@[simp]
theorem indxTblEntry_toHw : rule.toHw.indxTblEntry = rule.indxTblEntry.toNat := by
  simp [toHw, IpaNatRule.indxTblEntry_eq]

@[simp]
theorem protocol_toHw : rule.toHw.protocol = rule.protocol := by
  apply eq_of_getLsbD_eq
  intro i bound
  simp only [toHw, IpaNatRule.protocol_eq, getLsbD_extractLsb', getLsbD_append]
  simp [bound]

theorem content_toHw : rule.toHw.content =
    { privateIp := rule.privateIp, targetIp := rule.targetIp, privatePort := rule.privatePort
      targetPort := rule.targetPort, publicPort := rule.publicPort, protocol := rule.protocol
      ipChksum := rule.ipChksum, tcpUdpChksum := rule.tcpUdpChksum } := by
  simp only [IpaNatRule.content_eq, protocol_toHw]
  simp [toHw]

end IpaNatSwRule

theorem content_swRuleOf (tbl : IpaNatIp4TableCache) (rule : IpaNatIpv4Rule)
    (prevIndex indxTblEntry : BitVec 16) :
    IpaNatRule.content
      { swRuleOf tbl rule with prevIndex, indxTblEntry : IpaNatSwRule }.toHw =
      clientContent tbl.publicAddr rule := by
  rw [IpaNatSwRule.content_toHw]
  rfl

namespace IpaNatIndxTblRule

variable (entry : IpaNatIndxTblRule) (value : BitVec 16)

theorem tblEntry_eq : tblEntry entry = (lo entry).toNat := rfl

theorem nextIndex_eq : nextIndex entry = (hi entry).toNat := rfl

theorem write_next :
    entry.writeHalfword natIndexRuleNextFieldOffset value = setHi entry value := rfl

theorem write_natIndex :
    entry.writeHalfword natIndexRuleNatIndexFieldOffset value = setLo entry value := rfl

@[simp]
theorem tblEntry_ofHalves (next tbl : BitVec 16) : tblEntry (ofHalves next tbl) = tbl.toNat := by
  simp [tblEntry_eq]

@[simp]
theorem nextIndex_ofHalves (next tbl : BitVec 16) : nextIndex (ofHalves next tbl) = next.toNat := by
  simp [nextIndex_eq]

@[simp]
theorem tblEntry_zero : tblEntry 0#32 = 0 := by decide

@[simp]
theorem nextIndex_zero : nextIndex 0#32 = 0 := by decide

@[simp]
theorem nextIndex_write_next :
    nextIndex (entry.writeHalfword natIndexRuleNextFieldOffset value) = value.toNat := by
  simp [write_next, nextIndex_eq]

@[simp]
theorem tblEntry_write_next :
    tblEntry (entry.writeHalfword natIndexRuleNextFieldOffset value) = tblEntry entry := by
  simp [write_next, tblEntry_eq]

@[simp]
theorem nextIndex_write_natIndex :
    nextIndex (entry.writeHalfword natIndexRuleNatIndexFieldOffset value) = nextIndex entry := by
  simp [write_natIndex, nextIndex_eq]

@[simp]
theorem tblEntry_write_natIndex :
    tblEntry (entry.writeHalfword natIndexRuleNatIndexFieldOffset value) = value.toNat := by
  simp [write_natIndex, tblEntry_eq]

end IpaNatIndxTblRule

theorem IpaNatRule.nextIndex_lt (rule : IpaNatRule) : rule.nextIndex < 2 ^ 16 := isLt _

theorem IpaNatRule.prevIndex_lt (rule : IpaNatRule) : rule.prevIndex < 2 ^ 16 := isLt _

theorem IpaNatIndxTblRule.nextIndex_lt (entry : IpaNatIndxTblRule) :
    nextIndex entry < 2 ^ 16 := isLt _

theorem read_nextIndex (rule : IpaNatRule) :
    read16BitFieldValue rule.nxtIndxPubPort .nextIndexField = BitVec.ofNat 16 rule.nextIndex := by
  rw [IpaNatRule.nextIndex, BitVec.ofNat_toNat, BitVec.setWidth_eq]

end HtcPme.IpaNat
