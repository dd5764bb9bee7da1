import HtcPme.Foundation.Halfword
import Mathlib.Logic.Function.Basic

/-!
# NAT table memory

The data types of `ipa_nat_drvi.h`: the hardware entries as packed words, the software rules they
are copied from, and the cached description of a NAT table. Base and expansion entries are one array
here.
-/

namespace HtcPme.IpaNat

open Halfword

/-- `IPA_NAT_INVALID_NAT_ENTRY`: no entry, and the end of every chain. -/
abbrev invalidNatEntry : ℕ := 0

abbrev natRuleFlagFieldOffset : ℕ := 18
abbrev natRuleNextFieldOffset : ℕ := 8
abbrev natRuleProtoFieldOffset : ℕ := 22
abbrev natIndexRuleNextFieldOffset : ℕ := 2
abbrev natIndexRuleNatIndexFieldOffset : ℕ := 0
abbrev natFlagEnableBitMask : BitVec 16 := 0x8000
abbrev natFlagDisableBitMask : BitVec 16 := 0x0000
abbrev natInvalidProtoFieldValue : BitVec 16 := 0xFF00
abbrev natInvalidProtoFieldCmp : BitVec 8 := 0xFF
abbrev natTableEntrySize : ℕ := 32
abbrev natIndexTableEntrySize : ℕ := 4
abbrev ipProtoTcp : BitVec 8 := 6
abbrev ipProtoUdp : BitVec 8 := 17

/-- `uint16_t` subtraction. -/
def sub16 (left right : ℕ) : ℕ := (left + 2 ^ 16 - right) % 2 ^ 16

theorem sub16_of_le {left right : ℕ} (le : right ≤ left) (bound : left < 2 ^ 16) :
    sub16 left right = left - right := by
  unfold sub16
  omega

inductive NatTableType where
  | baseTbl
  | expnTbl
  | indxTbl
  | indexExpnTbl
deriving DecidableEq

inductive IpaNatRuleFieldType where
  | nextIndexField
  | publicPortFiled
  | privatePortField
  | targetPortField
  | ipChksumField
  | enableField
  | timeStampField
  | protocolField
  | tcpUdpChksumField
  | swSpecParamPrevIndexField
  | swSpecParamIndxTblEntryField
  | indxTblTblEntryField
  | indxTblNextIndexFiled
deriving DecidableEq

/-- Where an entry stands in its chain when it is deleted (`del_type`). -/
inductive DelType where
  | onlyOne
  | head
  | middle
  | last
deriving DecidableEq

inductive Errno where
  | einval
  | enomem
  | eio
deriving DecidableEq

structure IpaNatIpv4Rule where
  targetIp : BitVec 32
  privateIp : BitVec 32
  targetPort : BitVec 16
  privatePort : BitVec 16
  publicPort : BitVec 16
  protocol : BitVec 8
deriving DecidableEq

/-- `ipa_nat_sw_rule`, a rule before it is copied to the hardware table. -/
structure IpaNatSwRule where
  privateIp : BitVec 32
  targetIp : BitVec 32
  nextIndex : BitVec 16
  publicPort : BitVec 16
  privatePort : BitVec 16
  targetPort : BitVec 16
  ipChksum : BitVec 16
  rsvd1 : BitVec 14
  redirect : BitVec 1
  enable : BitVec 1
  timeStamp : BitVec 24
  protocol : BitVec 8
  prevIndex : BitVec 16
  indxTblEntry : BitVec 16
  rsvd2 : BitVec 16
  tcpUdpChksum : BitVec 16
deriving DecidableEq

/-- `ipa_nat_rule`, a hardware table entry of eight little-endian words. -/
@[ext]
structure IpaNatRule where
  privateIp : BitVec 32
  targetIp : BitVec 32
  nxtIndxPubPort : BitVec 32
  privatePort : BitVec 16
  targetPort : BitVec 16
  ipCksmEnbl : BitVec 32
  tsProto : BitVec 32
  swSpecParams : BitVec 32
  rsvd2 : BitVec 16
  tcpUdpChksum : BitVec 16
deriving DecidableEq

def IpaNatRule.zero : IpaNatRule := ⟨0, 0, 0, 0, 0, 0, 0, 0, 0, 0⟩

/-- The memory of a software rule read as a hardware rule (the `memcpy` of both structs). -/
def IpaNatSwRule.toHw (rule : IpaNatSwRule) : IpaNatRule where
  privateIp := rule.privateIp
  targetIp := rule.targetIp
  nxtIndxPubPort := ofHalves rule.publicPort rule.nextIndex
  privatePort := rule.privatePort
  targetPort := rule.targetPort
  ipCksmEnbl := ofHalves (rule.enable ++ rule.redirect ++ rule.rsvd1) rule.ipChksum
  tsProto := rule.protocol ++ rule.timeStamp
  swSpecParams := ofHalves rule.indxTblEntry rule.prevIndex
  rsvd2 := rule.rsvd2
  tcpUdpChksum := rule.tcpUdpChksum

structure IpaNatIndxTblSwRule where
  tblEntry : BitVec 16
  nextIndex : BitVec 16
  prevIndex : BitVec 16
deriving DecidableEq

/-- `ipa_nat_indx_tbl_rule`, one word: the rule entry below, the next index above. -/
abbrev IpaNatIndxTblRule := BitVec 32

/-- `ipa_nat_ip4_table_cache` of a mapped table, with the memory its pointers reach. -/
structure IpaNatIp4TableCache where
  valid : Bool
  publicAddr : BitVec 32
  tblAddrOffset : ℕ
  tableEntries : ℕ
  expnTableEntries : ℕ
  /-- `ipv4_rules_addr`, with `ipv4_expn_rules_addr` at `tableEntries`. -/
  ipv4Rules : ℕ → IpaNatRule
  /-- `index_table_addr`, with `index_table_expn_addr` at `tableEntries`. -/
  indexTable : ℕ → IpaNatIndxTblRule
  /-- `index_expn_table_meta[].prev_index`, indexed within the expansion table. -/
  indexExpnTableMeta : ℕ → BitVec 16
  ruleIdArray : ℕ → BitVec 16
  curTblCnt : ℕ
  curExpnTblCnt : ℕ

def read8BitFieldValue (param : BitVec 32) : IpaNatRuleFieldType → BitVec 8
  | .protocolField => param.extractLsb' 24 8
  | _ => 0

def read16BitFieldValue (param : BitVec 32) : IpaNatRuleFieldType → BitVec 16
  | .nextIndexField => lo param
  | .publicPortFiled => hi param
  | .enableField => hi param >>> 15
  | .swSpecParamPrevIndexField => lo param
  | .swSpecParamIndxTblEntryField => hi param
  | .indxTblTblEntryField => lo param
  | .indxTblNextIndexFiled => hi param
  | .ipChksumField => lo param
  | _ => 0

/-- `UpdateSwSpecParams`; `isIndxTblEntry` stands for `IPA_NAT_SW_PARAM_INDX_TBL_ENTRY_BYTE`. -/
def updateSwSpecParams (rule : IpaNatRule) (isIndxTblEntry : Bool) (value : BitVec 16) :
    IpaNatRule :=
  if isIndxTblEntry then
    { rule with
      swSpecParams := (rule.swSpecParams &&& 0x0000FFFF) ||| (value.setWidth 32 <<< 16) }
  else
    { rule with swSpecParams := (rule.swSpecParams &&& 0xFFFF0000) ||| value.setWidth 32 }

namespace IpaNatRule

def nextIndex (rule : IpaNatRule) : ℕ :=
  (read16BitFieldValue rule.nxtIndxPubPort .nextIndexField).toNat

def enable (rule : IpaNatRule) : BitVec 16 :=
  read16BitFieldValue rule.ipCksmEnbl .enableField

def protocol (rule : IpaNatRule) : BitVec 8 :=
  read8BitFieldValue rule.tsProto .protocolField

def prevIndex (rule : IpaNatRule) : ℕ :=
  (read16BitFieldValue rule.swSpecParams .swSpecParamPrevIndexField).toNat

def indxTblEntry (rule : IpaNatRule) : ℕ :=
  (read16BitFieldValue rule.swSpecParams .swSpecParamIndxTblEntryField).toNat

/-- A 16-bit store at a byte offset of the entry, which is what one DMA command does. -/
def writeHalfword (rule : IpaNatRule) (offset : ℕ) (data : BitVec 16) : IpaNatRule :=
  match offset with
  | 0 => { rule with privateIp := setLo rule.privateIp data }
  | 2 => { rule with privateIp := setHi rule.privateIp data }
  | 4 => { rule with targetIp := setLo rule.targetIp data }
  | 6 => { rule with targetIp := setHi rule.targetIp data }
  | 8 => { rule with nxtIndxPubPort := setLo rule.nxtIndxPubPort data }
  | 10 => { rule with nxtIndxPubPort := setHi rule.nxtIndxPubPort data }
  | 12 => { rule with privatePort := data }
  | 14 => { rule with targetPort := data }
  | 16 => { rule with ipCksmEnbl := setLo rule.ipCksmEnbl data }
  | 18 => { rule with ipCksmEnbl := setHi rule.ipCksmEnbl data }
  | 20 => { rule with tsProto := setLo rule.tsProto data }
  | 22 => { rule with tsProto := setHi rule.tsProto data }
  | 24 => { rule with swSpecParams := setLo rule.swSpecParams data }
  | 26 => { rule with swSpecParams := setHi rule.swSpecParams data }
  | 28 => { rule with rsvd2 := data }
  | 30 => { rule with tcpUdpChksum := data }
  | _ => rule

end IpaNatRule

namespace IpaNatIndxTblRule

def tblEntry (entry : IpaNatIndxTblRule) : ℕ :=
  (read16BitFieldValue entry .indxTblTblEntryField).toNat

def nextIndex (entry : IpaNatIndxTblRule) : ℕ :=
  (read16BitFieldValue entry .indxTblNextIndexFiled).toNat

def writeHalfword (entry : IpaNatIndxTblRule) (offset : ℕ) (data : BitVec 16) :
    IpaNatIndxTblRule :=
  match offset with
  | 0 => setLo entry data
  | 2 => setHi entry data
  | _ => entry

end IpaNatIndxTblRule

end HtcPme.IpaNat
