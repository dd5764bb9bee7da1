import HtcPme.IpaNat.Types

/-!
# Rule insertion and deletion of the NAT driver

`ipa_nati_add_ipv4_rule`, `ipa_nati_del_ipv4_rule` and what they call, over one mapped table. A DMA
command takes effect when it is posted, which succeeds. A loop that runs out of fuel returns `none`:
the driver would not return.
-/

namespace HtcPme.IpaNat

open Halfword

def cksumAdd (cksum term : ℕ) : ℕ :=
  let cksum := cksum + term
  if cksum >>> 16 ≠ 0 then (cksum &&& 0xFFFF) + 1 else cksum

def ipaNatiCalcIpCksum (pubIpAddr privIpAddr : BitVec 32) : BitVec 16 :=
  let cksum := (pubIpAddr &&& 0xFFFF).toNat
  let cksum := cksumAdd cksum (pubIpAddr >>> 16).toNat
  let privIpAddr := ~~~privIpAddr
  let cksum := cksumAdd cksum (privIpAddr &&& 0xFFFF).toNat
  let cksum := cksumAdd cksum (privIpAddr >>> 16).toNat
  BitVec.ofNat 16 cksum

def ipaNatiCalcTcpUdpCksum (pubIpAddr : BitVec 32) (pubPort : BitVec 16)
    (privIpAddr : BitVec 32) (privPort : BitVec 16) : BitVec 16 :=
  let cksum := (pubIpAddr &&& 0xFFFF).toNat
  let cksum := cksumAdd cksum (pubIpAddr >>> 16).toNat
  let cksum := cksumAdd cksum pubPort.toNat
  let privIpAddr := ~~~privIpAddr
  let cksum := cksumAdd cksum (privIpAddr &&& 0xFFFF).toNat
  let cksum := cksumAdd cksum (privIpAddr >>> 16).toNat
  let cksum := cksumAdd cksum (~~~privPort).toNat
  BitVec.ofNat 16 cksum

/-- `dst_hash`; `size` is the number of base entries less one. -/
def dstHash (trgtIp : BitVec 32) (trgtPort publicPort : BitVec 16) (proto : BitVec 8)
    (size : BitVec 16) : BitVec 16 :=
  let hash := trgtIp.setWidth 16 ^^^ (trgtIp >>> 16).setWidth 16 ^^^ trgtPort ^^^ publicPort ^^^
    proto.setWidth 16
  let hash := hash &&& size
  if hash = 0 then size else hash

def srcHash (privIp : BitVec 32) (privPort : BitVec 16) (trgtIp : BitVec 32)
    (trgtPort : BitVec 16) (proto : BitVec 8) (size : BitVec 16) : BitVec 16 :=
  let hash := privIp.setWidth 16 ^^^ (privIp >>> 16).setWidth 16 ^^^ privPort ^^^
    trgtIp.setWidth 16 ^^^ (trgtIp >>> 16).setWidth 16 ^^^ trgtPort ^^^ proto.setWidth 16
  let hash := hash &&& size
  if hash = 0 then size else hash

structure IpaIocNatDmaOne where
  baseAddr : NatTableType
  offset : BitVec 32
  data : BitVec 16
deriving DecidableEq

namespace IpaNatIp4TableCache

/-- `table_entries - 1` as the `uint16_t` argument of the hash functions. -/
def hashSize (tbl : IpaNatIp4TableCache) : BitVec 16 := BitVec.ofNat 16 tbl.tableEntries - 1

def dstSlot (tbl : IpaNatIp4TableCache) (rule : IpaNatIpv4Rule) : ℕ :=
  (dstHash rule.targetIp rule.targetPort rule.publicPort rule.protocol tbl.hashSize).toNat

def srcSlot (tbl : IpaNatIp4TableCache) (rule : IpaNatIpv4Rule) : ℕ :=
  (srcHash rule.privateIp rule.privatePort rule.targetIp rule.targetPort rule.protocol
    tbl.hashSize).toNat

def setRule (tbl : IpaNatIp4TableCache) (entry : ℕ) (rule : IpaNatRule) : IpaNatIp4TableCache :=
  { tbl with ipv4Rules := Function.update tbl.ipv4Rules entry rule }

def setIndex (tbl : IpaNatIp4TableCache) (entry : ℕ) (rule : IpaNatIndxTblRule) :
    IpaNatIp4TableCache :=
  { tbl with indexTable := Function.update tbl.indexTable entry rule }

def setMeta (tbl : IpaNatIp4TableCache) (entry : ℕ) (prevIndex : BitVec 16) :
    IpaNatIp4TableCache :=
  { tbl with indexExpnTableMeta := Function.update tbl.indexExpnTableMeta entry prevIndex }

def setRuleId (tbl : IpaNatIp4TableCache) (slot : ℕ) (ruleId : BitVec 16) : IpaNatIp4TableCache :=
  { tbl with ruleIdArray := Function.update tbl.ruleIdArray slot ruleId }

/-- What the hardware does with one DMA command: a 16-bit store in the addressed table. -/
def applyDma (tbl : IpaNatIp4TableCache) (cmd : IpaIocNatDmaOne) : IpaNatIp4TableCache :=
  let offset := cmd.offset.toNat
  let ruleEntry := offset / natTableEntrySize
  let indexEntry := offset / natIndexTableEntrySize
  match cmd.baseAddr with
  | .baseTbl =>
      tbl.setRule ruleEntry
        ((tbl.ipv4Rules ruleEntry).writeHalfword (offset % natTableEntrySize) cmd.data)
  | .expnTbl =>
      tbl.setRule (tbl.tableEntries + ruleEntry)
        ((tbl.ipv4Rules (tbl.tableEntries + ruleEntry)).writeHalfword
          (offset % natTableEntrySize) cmd.data)
  | .indxTbl =>
      tbl.setIndex indexEntry
        ((tbl.indexTable indexEntry).writeHalfword (offset % natIndexTableEntrySize) cmd.data)
  | .indexExpnTbl =>
      tbl.setIndex (tbl.tableEntries + indexEntry)
        ((tbl.indexTable (tbl.tableEntries + indexEntry)).writeHalfword
          (offset % natIndexTableEntrySize) cmd.data)

end IpaNatIp4TableCache

def ipaNatiGetEntryOffset (tbl : IpaNatIp4TableCache) (tblEntry : ℕ) : ℕ :=
  natTableEntrySize * tblEntry + tbl.tblAddrOffset

def ipaNatiGetIndexEntryOffset (tbl : IpaNatIp4TableCache) (indxTblEntry : ℕ) : ℕ :=
  natIndexTableEntrySize * indxTblEntry + tbl.tblAddrOffset

def ipaNatiWriteNextIndex (tbl : IpaNatIp4TableCache) (tblType : NatTableType) (value offset : ℕ) :
    IpaNatIp4TableCache :=
  tbl.applyDma
    { baseAddr := tblType, offset := BitVec.ofNat 32 offset, data := BitVec.ofNat 16 value }

inductive ChainEnd where
  | last (entry : ℕ)
  | selfLinked
deriving DecidableEq

/-- The `while` loop of both rule generators: remember `prev`, move on, stop at 0. -/
def followChain (nextOf : ℕ → ℕ) : ℕ → ℕ → ℕ → Option ChainEnd
  | fuel, prev, nxtIndx =>
      if nxtIndx = invalidNatEntry then some (.last prev)
      else match fuel with
        | 0 => none
        | fuel + 1 =>
            if nxtIndx = nextOf nxtIndx then some .selfLinked
            else followChain nextOf fuel nxtIndx (nextOf nxtIndx)

/-- `ipa_nati_expn_tbl_free_entry` and `ipa_nati_index_expn_get_free_entry`: the first entry from
1 on that is free, 0 when none is. -/
def expnFreeEntry (isFree : ℕ → Bool) (size : ℕ) : ℕ :=
  ((List.range' 1 (size - 1)).find? isFree).getD 0

def ipaNatiExpnTblFreeEntry (tbl : IpaNatIp4TableCache) : ℕ :=
  expnFreeEntry (fun cnt => (tbl.ipv4Rules (tbl.tableEntries + cnt)).enable = 0)
    tbl.expnTableEntries

def ipaNatiIndexExpnGetFreeEntry (tbl : IpaNatIp4TableCache) : ℕ :=
  expnFreeEntry (fun cnt => (tbl.indexTable (tbl.tableEntries + cnt)).tblEntry = 0)
    tbl.expnTableEntries

/-- `ipa_nati_generate_tbl_rule` before the entry and its predecessor are chosen. -/
def swRuleOf (tbl : IpaNatIp4TableCache) (clntRule : IpaNatIpv4Rule) : IpaNatSwRule where
  privateIp := clntRule.privateIp
  targetIp := clntRule.targetIp
  nextIndex := 0
  publicPort := clntRule.publicPort
  privatePort := clntRule.privatePort
  targetPort := clntRule.targetPort
  ipChksum := ipaNatiCalcIpCksum tbl.publicAddr clntRule.privateIp
  rsvd1 := 0
  redirect := 0
  enable := 0
  timeStamp := 0
  protocol := clntRule.protocol
  prevIndex := 0
  indxTblEntry := 0
  rsvd2 := 0
  tcpUdpChksum :=
    if clntRule.protocol = ipProtoTcp ∨ clntRule.protocol = ipProtoUdp then
      ipaNatiCalcTcpUdpCksum tbl.publicAddr clntRule.publicPort clntRule.privateIp
        clntRule.privatePort
    else 0

/-- `ipa_nati_generate_tbl_rule`: the entry for the rule (0 on failure) and the software rule. -/
def ipaNatiGenerateTblRule (tbl : IpaNatIp4TableCache) (clntRule : IpaNatIpv4Rule) :
    Option (ℕ × IpaNatSwRule) :=
  let swRule := swRuleOf tbl clntRule
  let newEntry := tbl.dstSlot clntRule
  if (tbl.ipv4Rules newEntry).enable = 0 then some (newEntry, swRule)
  else
    -- A first collision follows an empty chain, whose last entry is the base slot itself.
    let nextOf := fun nxtIndx =>
      (tbl.ipv4Rules (tbl.tableEntries + sub16 nxtIndx tbl.tableEntries)).nextIndex
    match followChain nextOf (tbl.tableEntries + tbl.expnTableEntries) newEntry
        (tbl.ipv4Rules newEntry).nextIndex with
    | none => none
    | some .selfLinked => some (invalidNatEntry, swRule)
    | some (.last prev) =>
        let swRule := { swRule with prevIndex := BitVec.ofNat 16 prev }
        let free := ipaNatiExpnTblFreeEntry tbl
        if free = invalidNatEntry then some (invalidNatEntry, swRule)
        else some (free + tbl.tableEntries, swRule)

/-- `ipa_nati_generate_index_rule`: the index entry (0 on failure) and its predecessor. -/
def ipaNatiGenerateIndexRule (tbl : IpaNatIp4TableCache) (clntRule : IpaNatIpv4Rule)
    (swRule : IpaNatIndxTblSwRule) : Option (ℕ × IpaNatIndxTblSwRule) :=
  let newEntry := tbl.srcSlot clntRule
  if (tbl.indexTable newEntry).tblEntry = 0 then some (newEntry, { swRule with prevIndex := 0 })
  else
    let nextOf := fun nxtIndx =>
      (tbl.indexTable (tbl.tableEntries + sub16 nxtIndx tbl.tableEntries)).nextIndex
    match followChain nextOf (tbl.tableEntries + tbl.expnTableEntries) newEntry
        (tbl.indexTable newEntry).nextIndex with
    | none => none
    | some .selfLinked => some (invalidNatEntry, swRule)
    | some (.last prev) =>
        let swRule := { swRule with prevIndex := BitVec.ofNat 16 prev }
        let free := ipaNatiIndexExpnGetFreeEntry tbl
        if free = invalidNatEntry then some (invalidNatEntry, swRule)
        else
          let newEntry := free + tbl.tableEntries
          if prev = newEntry then some (invalidNatEntry, swRule)
          else some (newEntry, swRule)

/-- What `ipa_nati_generate_rule` hands to the copy functions. -/
structure GeneratedRule where
  swRule : IpaNatSwRule
  indexSwRule : IpaNatIndxTblSwRule
  tblEntry : ℕ
  indxTblEntry : ℕ

def ipaNatiGenerateRule (tbl : IpaNatIp4TableCache) (clntRule : IpaNatIpv4Rule) :
    Option (Except Errno (GeneratedRule × IpaNatIp4TableCache)) := do
  let (tblEntry, swRule) ← ipaNatiGenerateTblRule tbl clntRule
  if tblEntry = invalidNatEntry then return .error .einval
  let indexSwRule : IpaNatIndxTblSwRule :=
    { tblEntry := BitVec.ofNat 16 tblEntry, nextIndex := 0, prevIndex := 0 }
  let (indxTblEntry, indexSwRule) ← ipaNatiGenerateIndexRule tbl clntRule indexSwRule
  if indxTblEntry = invalidNatEntry then return .error .einval
  let swRule := { swRule with indxTblEntry := BitVec.ofNat 16 indxTblEntry }
  let tbl :=
    if indxTblEntry ≥ tbl.tableEntries then
      tbl.setMeta (indxTblEntry - tbl.tableEntries) indexSwRule.prevIndex
    else tbl
  return .ok ({ swRule, indexSwRule, tblEntry, indxTblEntry }, tbl)

def ipaNatiCopyIpv4RuleToHw (tbl : IpaNatIp4TableCache) (rule : IpaNatSwRule) (entry : ℕ) :
    IpaNatIp4TableCache :=
  let prevEntry := rule.prevIndex.toNat
  let tbl := tbl.setRule entry rule.toHw
  if prevEntry = invalidNatEntry then tbl
  else if prevEntry < tbl.tableEntries then
    ipaNatiWriteNextIndex tbl .baseTbl entry
      (ipaNatiGetEntryOffset tbl prevEntry + natRuleNextFieldOffset)
  else
    ipaNatiWriteNextIndex tbl .expnTbl entry
      (ipaNatiGetEntryOffset tbl (prevEntry - tbl.tableEntries) + natRuleNextFieldOffset)

/-- `ipa_nati_copy_ipv4_index_rule_to_hw`, whose `offset` is a `uint16_t`. -/
def ipaNatiCopyIpv4IndexRuleToHw (tbl : IpaNatIp4TableCache) (indxSwRule : IpaNatIndxTblSwRule)
    (entry : ℕ) : IpaNatIp4TableCache :=
  let prevEntry := indxSwRule.prevIndex.toNat
  let tbl := tbl.setIndex entry (ofHalves indxSwRule.nextIndex indxSwRule.tblEntry)
  if prevEntry = invalidNatEntry then tbl
  else if prevEntry < tbl.tableEntries then
    ipaNatiWriteNextIndex tbl .indxTbl entry
      ((ipaNatiGetIndexEntryOffset tbl prevEntry + natIndexRuleNextFieldOffset) % 2 ^ 16)
  else
    ipaNatiWriteNextIndex tbl .indexExpnTbl entry
      ((ipaNatiGetIndexEntryOffset tbl (prevEntry - tbl.tableEntries) +
        natIndexRuleNextFieldOffset) % 2 ^ 16)

def ipaNatiPostIpv4DmaCmd (tbl : IpaNatIp4TableCache) (entry : ℕ) : IpaNatIp4TableCache :=
  if entry < tbl.tableEntries then
    tbl.applyDma
      { baseAddr := .baseTbl
        offset := BitVec.ofNat 32 (natTableEntrySize * entry + natRuleFlagFieldOffset)
        data := natFlagEnableBitMask }
  else
    tbl.applyDma
      { baseAddr := .expnTbl
        offset := BitVec.ofNat 32 (natTableEntrySize * (entry - tbl.tableEntries) +
          natRuleFlagFieldOffset + tbl.tblAddrOffset)
        data := natFlagEnableBitMask }

def ruleIdOf (tbl : IpaNatIp4TableCache) (tblEntry : ℕ) : BitVec 16 :=
  if tblEntry ≥ tbl.tableEntries then
    (BitVec.ofNat 16 (tblEntry - tbl.tableEntries) <<< 1) ||| 1
  else BitVec.ofNat 16 tblEntry <<< 1

/-- `ipa_nati_make_rule_hdl`: the handle, 0 when no slot of the rule id array is free. -/
def ipaNatiMakeRuleHdl (tbl : IpaNatIp4TableCache) (tblEntry : ℕ) :
    ℕ × IpaNatIp4TableCache :=
  let counted :=
    if tblEntry ≥ tbl.tableEntries then { tbl with curExpnTblCnt := tbl.curExpnTblCnt + 1 }
    else { tbl with curTblCnt := tbl.curTblCnt + 1 }
  match (List.range (tbl.tableEntries + tbl.expnTableEntries)).find?
      (fun cnt => tbl.ruleIdArray cnt = 0) with
  | some cnt => (cnt + 1, counted.setRuleId cnt (ruleIdOf tbl tblEntry))
  | none => (0, counted)

/-- `ipa_nati_add_ipv4_rule`: the handle of the new rule, or an error. -/
def ipaNatiAddIpv4Rule (tbl : IpaNatIp4TableCache) (clntRule : IpaNatIpv4Rule) :
    Option (Except Errno ℕ × IpaNatIp4TableCache) := do
  match ← ipaNatiGenerateRule tbl clntRule with
  | .error _ => return (.error .einval, tbl)
  | .ok (generated, tbl) =>
      let tbl := ipaNatiCopyIpv4RuleToHw tbl generated.swRule generated.tblEntry
      let tbl := ipaNatiCopyIpv4IndexRuleToHw tbl generated.indexSwRule generated.indxTblEntry
      let tbl := ipaNatiPostIpv4DmaCmd tbl generated.tblEntry
      let (ruleHdl, tbl) := ipaNatiMakeRuleHdl tbl generated.tblEntry
      if ruleHdl = 0 then return (.error .einval, tbl)
      return (.ok ruleHdl, tbl)

/-- `ipa_nati_parse_ipv4_rule_hdl`: whether the entry is in the expansion table, and its index
there. -/
def ipaNatiParseIpv4RuleHdl (tbl : IpaNatIp4TableCache) (ruleHdl : ℕ) : Bool × ℕ :=
  if ruleHdl ≥ tbl.tableEntries + tbl.expnTableEntries then (false, invalidNatEntry)
  else
    let ruleId := tbl.ruleIdArray (ruleHdl - 1)
    (ruleId &&& 1 ≠ 0, (ruleId >>> 1).toNat)

/-- `ipa_nati_find_rule_pos`; `entry` counts from the start of the base table. -/
def ipaNatiFindRulePos (tbl : IpaNatIp4TableCache) (expnTbl : Bool) (entry : ℕ) : DelType :=
  if expnTbl then
    if (tbl.ipv4Rules entry).nextIndex = invalidNatEntry then .last else .middle
  else
    if (tbl.ipv4Rules entry).nextIndex = invalidNatEntry then .onlyOne else .head

def ipaNatiFindIndexRulePos (tbl : IpaNatIp4TableCache) (tblEntry : ℕ) : DelType :=
  if tblEntry ≥ tbl.tableEntries then
    if (tbl.indexTable tblEntry).nextIndex = invalidNatEntry then .last else .middle
  else
    if (tbl.indexTable tblEntry).nextIndex = invalidNatEntry then .onlyOne else .head

def ruleNextCmd (tbl : IpaNatIp4TableCache) (prevEntry : ℕ) (data : BitVec 16) :
    IpaIocNatDmaOne :=
  if prevEntry ≥ tbl.tableEntries then
    { baseAddr := .expnTbl
      offset := BitVec.ofNat 32
        (ipaNatiGetEntryOffset tbl (prevEntry - tbl.tableEntries) + natRuleNextFieldOffset)
      data }
  else
    { baseAddr := .baseTbl
      offset := BitVec.ofNat 32 (ipaNatiGetEntryOffset tbl prevEntry + natRuleNextFieldOffset)
      data }

/-- The rule table part of the commands of `ipa_nati_post_del_dma_cmd`. -/
def delRuleCmd (tbl : IpaNatIp4TableCache) (entry : ℕ) : DelType → IpaIocNatDmaOne
  | .onlyOne =>
      { baseAddr := .baseTbl
        offset := BitVec.ofNat 32 (ipaNatiGetEntryOffset tbl entry + natRuleFlagFieldOffset)
        data := natFlagDisableBitMask }
  | .head =>
      { baseAddr := .baseTbl
        offset := BitVec.ofNat 32 (ipaNatiGetEntryOffset tbl entry + natRuleProtoFieldOffset)
        data := natInvalidProtoFieldValue }
  | .middle =>
      ruleNextCmd tbl (tbl.ipv4Rules entry).prevIndex
        (read16BitFieldValue (tbl.ipv4Rules entry).nxtIndxPubPort .nextIndexField)
  | .last => ruleNextCmd tbl (tbl.ipv4Rules entry).prevIndex 0

def indexNextCmd (tbl : IpaNatIp4TableCache) (prevEntry : ℕ) (data : BitVec 16) :
    IpaIocNatDmaOne :=
  if prevEntry ≥ tbl.tableEntries then
    { baseAddr := .indexExpnTbl
      offset := BitVec.ofNat 32
        (ipaNatiGetIndexEntryOffset tbl (prevEntry - tbl.tableEntries) +
          natIndexRuleNextFieldOffset)
      data }
  else
    { baseAddr := .indxTbl
      offset := BitVec.ofNat 32
        (ipaNatiGetIndexEntryOffset tbl prevEntry + natIndexRuleNextFieldOffset)
      data }

/-- The index table part of the commands of `ipa_nati_post_del_dma_cmd`. -/
def delIndexCmds (tbl : IpaNatIp4TableCache) (indxTblEntry : ℕ) : DelType → List IpaIocNatDmaOne
  | .onlyOne =>
      [{ baseAddr := .indxTbl
         offset := BitVec.ofNat 32 (ipaNatiGetIndexEntryOffset tbl indxTblEntry +
           natIndexRuleNatIndexFieldOffset)
         data := 0 }]
  | .head =>
      let next := tbl.indexTable (tbl.tableEntries +
        sub16 (tbl.indexTable indxTblEntry).nextIndex tbl.tableEntries)
      [{ baseAddr := .indxTbl
         offset := BitVec.ofNat 32 (ipaNatiGetIndexEntryOffset tbl indxTblEntry +
           natIndexRuleNatIndexFieldOffset)
         data := read16BitFieldValue next .indxTblTblEntryField },
       { baseAddr := .indxTbl
         offset := BitVec.ofNat 32 (ipaNatiGetIndexEntryOffset tbl indxTblEntry +
           natIndexRuleNextFieldOffset)
         data := read16BitFieldValue next .indxTblNextIndexFiled }]
  | .middle =>
      [indexNextCmd tbl (tbl.indexExpnTableMeta (indxTblEntry - tbl.tableEntries)).toNat
        (read16BitFieldValue (tbl.indexTable indxTblEntry) .indxTblNextIndexFiled)]
  | .last =>
      [indexNextCmd tbl (tbl.indexExpnTableMeta (indxTblEntry - tbl.tableEntries)).toNat 0]

/-- `ReorderCmds`: the commands from the first index table command on go first. -/
def reorderCmds (cmds : List IpaIocNatDmaOne) : List IpaIocNatDmaOne :=
  let start := cmds.findIdx fun cmd =>
    cmd.baseAddr = .indxTbl ∨ cmd.baseAddr = .indexExpnTbl
  if start = 0 ∨ start = cmds.length then cmds else cmds.drop start ++ cmds.take start

def finishRuleDelete (tbl : IpaNatIp4TableCache) (entry : ℕ) (rulePos : DelType) :
    IpaNatIp4TableCache :=
  let tbl :=
    if rulePos = .middle then
      let prevEntry :=
        read16BitFieldValue (tbl.ipv4Rules entry).swSpecParams .swSpecParamPrevIndexField
      let nextEntry := tbl.tableEntries + sub16 (tbl.ipv4Rules entry).nextIndex tbl.tableEntries
      tbl.setRule nextEntry (updateSwSpecParams (tbl.ipv4Rules nextEntry) false prevEntry)
    else tbl
  if rulePos = .head then tbl else tbl.setRule entry .zero

/-- The software updates of the index table after the commands were posted. `nextEntry` is the
entry whose contents a deleted head received. -/
def finishIndexDelete (tbl : IpaNatIp4TableCache) (indxTblEntry : ℕ) (indxRulePos : DelType)
    (nextEntry : ℕ) : IpaNatIp4TableCache :=
  if indxRulePos = .head then
    let nextNextEntry := (tbl.indexTable nextEntry).nextIndex
    let tbl :=
      if nextNextEntry ≠ 0 ∧ nextNextEntry ≥ tbl.tableEntries then
        tbl.setMeta (nextNextEntry - tbl.tableEntries) (BitVec.ofNat 16 indxTblEntry)
      else tbl
    let tbl := tbl.setIndex nextEntry 0
    let tableEntry := (tbl.indexTable indxTblEntry).tblEntry
    tbl.setRule tableEntry
      (updateSwSpecParams (tbl.ipv4Rules tableEntry) true (BitVec.ofNat 16 indxTblEntry))
  else
    let tbl :=
      if indxRulePos = .middle then
        let nextEntry := (tbl.indexTable indxTblEntry).nextIndex
        let nextEntry :=
          if nextEntry ≥ tbl.tableEntries then nextEntry - tbl.tableEntries else nextEntry
        let tbl := tbl.setMeta nextEntry
          (tbl.indexExpnTableMeta (indxTblEntry - tbl.tableEntries))
        tbl.setMeta (indxTblEntry - tbl.tableEntries) 0
      else tbl
    tbl.setIndex indxTblEntry 0

/-- `ipa_nati_post_del_dma_cmd`; `none` is its error return for a rule that is not enabled. -/
def ipaNatiPostDelDmaCmd (tbl : IpaNatIp4TableCache) (entry : ℕ) (rulePos : DelType) :
    Option IpaNatIp4TableCache :=
  if (tbl.ipv4Rules entry).enable = 0 then none
  else
    let indxTblEntry := (tbl.ipv4Rules entry).indxTblEntry
    let indxRulePos := ipaNatiFindIndexRulePos tbl indxTblEntry
    let nextEntry :=
      tbl.tableEntries + sub16 (tbl.indexTable indxTblEntry).nextIndex tbl.tableEntries
    let cmds := delRuleCmd tbl entry rulePos :: delIndexCmds tbl indxTblEntry indxRulePos
    let tbl := (reorderCmds cmds).foldl IpaNatIp4TableCache.applyDma tbl
    let tbl := finishRuleDelete tbl entry rulePos
    some (finishIndexDelete tbl indxTblEntry indxRulePos nextEntry)

def isDeadHead (rule : IpaNatRule) : Bool :=
  rule.protocol = natInvalidProtoFieldCmp ∧ rule.nextIndex = invalidNatEntry

def ipaNatiDelDeadIpv4HeadNodes (tbl : IpaNatIp4TableCache) : IpaNatIp4TableCache :=
  (List.range tbl.tableEntries).foldl
    (fun tbl cnt => if isDeadHead (tbl.ipv4Rules cnt) then tbl.setRule cnt .zero else tbl) tbl

def ipaNatiDelIpv4Rule (tbl : IpaNatIp4TableCache) (ruleHdl : ℕ) :
    Except Errno Unit × IpaNatIp4TableCache :=
  let (expnTbl, tblEntry) := ipaNatiParseIpv4RuleHdl tbl (ruleHdl % 2 ^ 16)
  if tblEntry = invalidNatEntry then (.error .einval, tbl)
  else if !tbl.valid then (.error .einval, tbl)
  else
    let entry := if expnTbl then tbl.tableEntries + tblEntry else tblEntry
    let rulePos := ipaNatiFindRulePos tbl expnTbl entry
    match ipaNatiPostDelDmaCmd tbl entry rulePos with
    | none => (.error .einval, tbl)
    | some tbl =>
        let tbl := ipaNatiDelDeadIpv4HeadNodes tbl
        (.ok (), tbl.setRuleId (ruleHdl - 1) 0)

end HtcPme.IpaNat
