import HtcPme.IpaNat.Session
import HtcPme.IpaNat.TableSizes

/-!
# Byte offsets of DMA commands

Every DMA command of an insertion or a deletion is for one field of one entry of one table.
-/

namespace HtcPme.IpaNat

open List

def NatTableType.entrySize : NatTableType → ℕ
  | .baseTbl | .expnTbl => natTableEntrySize
  | .indxTbl | .indexExpnTbl => natIndexTableEntrySize

def NatTableType.isIndex : NatTableType → Bool
  | .baseTbl | .expnTbl => false
  | .indxTbl | .indexExpnTbl => true

inductive DmaField where
  | ruleNext
  | ruleFlag
  | ruleProto
  | indexNatIndex
  | indexNext
deriving DecidableEq

def DmaField.offset : DmaField → ℕ
  | .ruleNext => natRuleNextFieldOffset
  | .ruleFlag => natRuleFlagFieldOffset
  | .ruleProto => natRuleProtoFieldOffset
  | .indexNatIndex => natIndexRuleNatIndexFieldOffset
  | .indexNext => natIndexRuleNextFieldOffset

def DmaField.isIndex : DmaField → Bool
  | .ruleNext | .ruleFlag | .ruleProto => false
  | .indexNatIndex | .indexNext => true

theorem DmaField.offset_lt {field : DmaField} {table : NatTableType}
    (sameKind : field.isIndex = table.isIndex) : field.offset < table.entrySize := by
  revert sameKind
  cases field <;> cases table <;> decide

structure DmaTarget where
  table : NatTableType
  entry : ℕ
  field : DmaField
deriving DecidableEq

namespace IpaNatIp4TableCache

variable (tbl : IpaNatIp4TableCache)

def entriesOf : NatTableType → ℕ
  | .baseTbl | .indxTbl => tbl.tableEntries
  | .expnTbl | .indexExpnTbl => tbl.expnTableEntries

def byteOffset (target : DmaTarget) : ℕ :=
  target.entry * target.table.entrySize + target.field.offset + tbl.tblAddrOffset

def nextTarget (base expn : NatTableType) (field : DmaField) (prevEntry : ℕ) : DmaTarget :=
  if prevEntry < tbl.tableEntries then ⟨base, prevEntry, field⟩
  else ⟨expn, prevEntry - tbl.tableEntries, field⟩

def linkRuleCmds (rule : IpaNatSwRule) (entry : ℕ) : List (DmaTarget × IpaIocNatDmaOne) :=
  let prevEntry := rule.prevIndex.toNat
  if prevEntry = invalidNatEntry then []
  else
    let target := tbl.nextTarget .baseTbl .expnTbl .ruleNext prevEntry
    [(target,
      { baseAddr := target.table
        offset := BitVec.ofNat 32
          (ipaNatiGetEntryOffset tbl target.entry + natRuleNextFieldOffset)
        data := BitVec.ofNat 16 entry })]

def linkIndexCmds (indxSwRule : IpaNatIndxTblSwRule) (entry : ℕ) :
    List (DmaTarget × IpaIocNatDmaOne) :=
  let prevEntry := indxSwRule.prevIndex.toNat
  if prevEntry = invalidNatEntry then []
  else
    let target := tbl.nextTarget .indxTbl .indexExpnTbl .indexNext prevEntry
    [(target,
      { baseAddr := target.table
        offset := BitVec.ofNat 32
          ((ipaNatiGetIndexEntryOffset tbl target.entry + natIndexRuleNextFieldOffset) % 2 ^ 16)
        data := BitVec.ofNat 16 entry })]

def enableCmds (entry : ℕ) : List (DmaTarget × IpaIocNatDmaOne) :=
  if entry < tbl.tableEntries then
    [(⟨.baseTbl, entry, .ruleFlag⟩,
      { baseAddr := .baseTbl
        offset := BitVec.ofNat 32 (natTableEntrySize * entry + natRuleFlagFieldOffset)
        data := natFlagEnableBitMask })]
  else
    [(⟨.expnTbl, entry - tbl.tableEntries, .ruleFlag⟩,
      { baseAddr := .expnTbl
        offset := BitVec.ofNat 32 (natTableEntrySize * (entry - tbl.tableEntries) +
          natRuleFlagFieldOffset + tbl.tblAddrOffset)
        data := natFlagEnableBitMask })]

def applyAll (cmds : List (DmaTarget × IpaIocNatDmaOne)) : IpaNatIp4TableCache :=
  (cmds.map Prod.snd).foldl applyDma tbl

theorem ipaNatiPostIpv4DmaCmd_eq (entry : ℕ) :
    ipaNatiPostIpv4DmaCmd tbl entry = tbl.applyAll (tbl.enableCmds entry) := by
  unfold ipaNatiPostIpv4DmaCmd enableCmds
  split_ifs <;> rfl

def delRuleTarget (entry : ℕ) : DelType → DmaTarget
  | .onlyOne => ⟨.baseTbl, entry, .ruleFlag⟩
  | .head => ⟨.baseTbl, entry, .ruleProto⟩
  | .middle | .last =>
      tbl.nextTarget .baseTbl .expnTbl .ruleNext (tbl.ipv4Rules entry).prevIndex

def delIndexTargets (indxTblEntry : ℕ) : DelType → List DmaTarget
  | .onlyOne => [⟨.indxTbl, indxTblEntry, .indexNatIndex⟩]
  | .head => [⟨.indxTbl, indxTblEntry, .indexNatIndex⟩, ⟨.indxTbl, indxTblEntry, .indexNext⟩]
  | .middle | .last =>
      [tbl.nextTarget .indxTbl .indexExpnTbl .indexNext
        (tbl.indexExpnTableMeta (indxTblEntry - tbl.tableEntries)).toNat]

/-- What `ipa_nati_post_del_dma_cmd` posts, before the commands are reordered. -/
def delCmds (entry : ℕ) (rulePos : DelType) : List (DmaTarget × IpaIocNatDmaOne) :=
  let indxTblEntry := (tbl.ipv4Rules entry).indxTblEntry
  let indxRulePos := ipaNatiFindIndexRulePos tbl indxTblEntry
  (tbl.delRuleTarget entry rulePos, delRuleCmd tbl entry rulePos) ::
    (tbl.delIndexTargets indxTblEntry indxRulePos).zip
      (delIndexCmds tbl indxTblEntry indxRulePos)

theorem map_snd_delCmds (entry : ℕ) (rulePos : DelType) :
    (tbl.delCmds entry rulePos).map Prod.snd =
      delRuleCmd tbl entry rulePos ::
        delIndexCmds tbl (tbl.ipv4Rules entry).indxTblEntry
          (ipaNatiFindIndexRulePos tbl (tbl.ipv4Rules entry).indxTblEntry) := by
  unfold delCmds
  simp only [map_cons, cons.injEq, true_and]
  apply map_snd_zip
  cases ipaNatiFindIndexRulePos tbl (tbl.ipv4Rules entry).indxTblEntry <;>
    exact Nat.le_refl _

def Addresses (target : DmaTarget) (cmd : IpaIocNatDmaOne) : Prop :=
  cmd.baseAddr = target.table ∧ cmd.offset.toNat = tbl.byteOffset target

inductive Posted : DmaTarget → IpaIocNatDmaOne → Prop where
  | linkRule {tbl' : IpaNatIp4TableCache} (layout : SameLayout tbl tbl') (rule : IpaNatSwRule)
      (entry : ℕ) {target : DmaTarget} {cmd : IpaIocNatDmaOne}
      (isIn : (target, cmd) ∈ tbl'.linkRuleCmds rule entry) : Posted target cmd
  | linkIndex {tbl' : IpaNatIp4TableCache} (layout : SameLayout tbl tbl')
      (indxSwRule : IpaNatIndxTblSwRule) (entry : ℕ) {target : DmaTarget} {cmd : IpaIocNatDmaOne}
      (isIn : (target, cmd) ∈ tbl'.linkIndexCmds indxSwRule entry) : Posted target cmd
  | enable {tbl' : IpaNatIp4TableCache} (layout : SameLayout tbl tbl') (entry : ℕ)
      {target : DmaTarget} {cmd : IpaIocNatDmaOne}
      (isIn : (target, cmd) ∈ tbl'.enableCmds entry) : Posted target cmd
  | del {tbl' : IpaNatIp4TableCache} (layout : SameLayout tbl tbl') (expnTbl : Bool)
      (tblEntry : ℕ) {target : DmaTarget} {cmd : IpaIocNatDmaOne}
      (isIn : (target, cmd) ∈
        let entry := if expnTbl then tbl'.tableEntries + tblEntry else tblEntry
        tbl'.delCmds entry (ipaNatiFindRulePos tbl' expnTbl entry)) : Posted target cmd

/-- Every command for an entry of a table carries the byte offset of its field, and two commands for
one table meet only at the same field of the same entry. -/
structure OffsetsOk : Prop where
  addresses : ∀ target cmd, tbl.Posted target cmd →
    target.entry < tbl.entriesOf target.table → tbl.Addresses target cmd
  apart : ∀ target cmd target' cmd', tbl.Posted target cmd → tbl.Posted target' cmd' →
    target.entry < tbl.entriesOf target.table → target'.entry < tbl.entriesOf target'.table →
      cmd.baseAddr = cmd'.baseAddr → cmd.offset = cmd'.offset → target = target'

/-- The index entries of a table without base entries stay below 2 ^ 16 with the offset of the
table; otherwise the offset is 0 and the base index table ends there. -/
def OffsetsFit : Prop :=
  if tbl.tableEntries = 0 then
    natIndexTableEntrySize * (tbl.expnTableEntries - 1) + natIndexRuleNextFieldOffset +
      tbl.tblAddrOffset < 2 ^ 16
  else tbl.tblAddrOffset = 0 ∧ tbl.tableEntries ≤ 2 ^ 14

structure Allocated : Prop where
  base : tbl.tableEntries = 0 ∨ 2 ≤ tbl.tableEntries
  base_le : tbl.tableEntries ≤ 2 ^ 15
  expn : 2 ≤ tbl.expnTableEntries
  expn_le : tbl.expnTableEntries ≤ 13109

variable {tbl} {target : DmaTarget} {cmd : IpaIocNatDmaOne}

theorem allocated_of_alloc {cache cache' : IpaNatCache} {env : AddTblEnv} {numberOfEntries : ℕ}
    {mem : AllocatedMem} (fits : numberOfEntries ≤ 65535)
    (allocated : ipaNatiAllocTable cache numberOfEntries env = (.ok mem, cache'))
    (tableEntries : tbl.tableEntries = mem.tableEntries)
    (expnTableEntries : tbl.expnTableEntries = mem.expnTableEntries) : tbl.Allocated := by
  rcases ipaNatiAllocTable_sizes allocated with ⟨base, expn, -⟩
  rw [← expnTableEntries] at expn
  rw [← tableEntries] at base
  have even := getNearestEven_spec (numberOfEntries / 5) (by omega)
  have atLeast : 2 ≤ getNearestEven (numberOfEntries / 5) := by
    unfold getNearestEven
    split_ifs <;> omega
  rw [← expn] at even atLeast
  by_cases small : numberOfEntries * 4 / 5 ≤ 2 ^ 15
  · rcases getNearest2Power_spec
      (if numberOfEntries * 4 / 5 = 0 then 1 else numberOfEntries * 4 / 5)
      (by split <;> omega) (by split <;> omega) with ⟨exponent, positive, within, isPower, -⟩
    rw [isPower] at base
    have power := Option.some.inj base
    have low : 2 ^ 1 ≤ 2 ^ exponent := Nat.pow_le_pow_right (by decide) positive
    have high : 2 ^ exponent ≤ 2 ^ 15 := Nat.pow_le_pow_right (by decide) within
    exact ⟨by omega, by omega, atLeast, by omega⟩
  · rw [if_neg (by omega), getNearest2Power_eq_zero (by omega) (by omega)] at base
    have isZero := Option.some.inj base
    exact ⟨by omega, by omega, atLeast, by omega⟩

/-- How the offset of a command comes about: all of it, the low 16 bits of it for a next index in an
index table, or without the offset of the table in the base table. -/
inductive OffsetKind (tbl : IpaNatIp4TableCache) (target : DmaTarget) : ℕ → Prop where
  | whole : OffsetKind tbl target (tbl.byteOffset target)
  | low16 (isIndex : target.table.entrySize = natIndexTableEntrySize)
      (isNext : target.field = .indexNext) :
      OffsetKind tbl target (tbl.byteOffset target % 2 ^ 16)
  | noBase (isBase : target.table = .baseTbl) :
      OffsetKind tbl target (tbl.byteOffset target - tbl.tblAddrOffset)

structure PostedKind (tbl : IpaNatIp4TableCache) (target : DmaTarget) (cmd : IpaIocNatDmaOne) :
    Prop where
  baseAddr : cmd.baseAddr = target.table
  sameKind : target.field.isIndex = target.table.isIndex
  offset : ∃ offset, tbl.OffsetKind target offset ∧ cmd.offset = BitVec.ofNat 32 offset

theorem byteOffset_rule (isRule : target.table.entrySize = natTableEntrySize) :
    ipaNatiGetEntryOffset tbl target.entry + target.field.offset = tbl.byteOffset target := by
  unfold ipaNatiGetEntryOffset byteOffset
  rw [isRule, Nat.mul_comm]
  omega

theorem byteOffset_index (isIndex : target.table.entrySize = natIndexTableEntrySize) :
    ipaNatiGetIndexEntryOffset tbl target.entry + target.field.offset =
      tbl.byteOffset target := by
  unfold ipaNatiGetIndexEntryOffset byteOffset
  rw [isIndex, Nat.mul_comm]
  omega

section Kinds

theorem nextTarget_cases (tbl : IpaNatIp4TableCache) (base expn : NatTableType) (field : DmaField)
    (prevEntry : ℕ) :
    ∃ table entry, tbl.nextTarget base expn field prevEntry = ⟨table, entry, field⟩ ∧
      (table = base ∨ table = expn) := by
  unfold nextTarget
  split
  · exact ⟨_, _, rfl, .inl rfl⟩
  · exact ⟨_, _, rfl, .inr rfl⟩

theorem postedKind_rule {entry : ℕ} {field : DmaField} {table : NatTableType} {data : BitVec 16}
    (isRule : table = .baseTbl ∨ table = .expnTbl) (isRuleField : field.isIndex = false) :
    tbl.PostedKind ⟨table, entry, field⟩
      { baseAddr := table
        offset := BitVec.ofNat 32 (ipaNatiGetEntryOffset tbl entry + field.offset)
        data } := by
  have size : table.entrySize = natTableEntrySize := by
    rcases isRule with rfl | rfl <;> rfl
  have whole : tbl.byteOffset ⟨table, entry, field⟩ = _ := (byteOffset_rule size).symm
  have sameKind : field.isIndex = table.isIndex := by
    rcases isRule with rfl | rfl <;> exact isRuleField
  exact ⟨rfl, sameKind, _, .whole, by rw [whole]⟩

theorem postedKind_index {entry : ℕ} {field : DmaField} {table : NatTableType} {data : BitVec 16}
    (isIndex : table = .indxTbl ∨ table = .indexExpnTbl) (isIndexField : field.isIndex = true) :
    tbl.PostedKind ⟨table, entry, field⟩
      { baseAddr := table
        offset := BitVec.ofNat 32 (ipaNatiGetIndexEntryOffset tbl entry + field.offset)
        data } := by
  have size : table.entrySize = natIndexTableEntrySize := by
    rcases isIndex with rfl | rfl <;> rfl
  have whole : tbl.byteOffset ⟨table, entry, field⟩ = _ := (byteOffset_index size).symm
  have sameKind : field.isIndex = table.isIndex := by
    rcases isIndex with rfl | rfl <;> exact isIndexField
  exact ⟨rfl, sameKind, _, .whole, by rw [whole]⟩

theorem postedKind_linkRule {rule : IpaNatSwRule} {entry : ℕ}
    (isIn : (target, cmd) ∈ tbl.linkRuleCmds rule entry) : tbl.PostedKind target cmd := by
  unfold linkRuleCmds at isIn
  rcases tbl.nextTarget_cases .baseTbl .expnTbl .ruleNext rule.prevIndex.toNat with
    ⟨table, prev, isTarget, isRule⟩
  simp only [isTarget] at isIn
  split_ifs at isIn
  · cases isIn
  · cases mem_singleton.mp isIn
    exact postedKind_rule isRule rfl

theorem postedKind_linkIndex {indxSwRule : IpaNatIndxTblSwRule} {entry : ℕ}
    (isIn : (target, cmd) ∈ tbl.linkIndexCmds indxSwRule entry) : tbl.PostedKind target cmd := by
  unfold linkIndexCmds at isIn
  rcases tbl.nextTarget_cases .indxTbl .indexExpnTbl .indexNext indxSwRule.prevIndex.toNat with
    ⟨table, prev, isTarget, isIndex⟩
  simp only [isTarget] at isIn
  split_ifs at isIn
  · cases isIn
  · cases mem_singleton.mp isIn
    have size : table.entrySize = natIndexTableEntrySize := by
      rcases isIndex with rfl | rfl <;> rfl
    have whole : tbl.byteOffset ⟨table, prev, .indexNext⟩ = _ := (byteOffset_index size).symm
    have sameKind : DmaField.indexNext.isIndex = table.isIndex := by
      rcases isIndex with rfl | rfl <;> rfl
    exact ⟨rfl, sameKind, _, .low16 size rfl, by rw [whole]; rfl⟩

theorem postedKind_enable {entry : ℕ} (isIn : (target, cmd) ∈ tbl.enableCmds entry) :
    tbl.PostedKind target cmd := by
  unfold enableCmds at isIn
  split_ifs at isIn
  · cases mem_singleton.mp isIn
    refine ⟨rfl, rfl, _, .noBase rfl, ?_⟩
    simp only [byteOffset, DmaField.offset, NatTableType.entrySize, Nat.mul_comm entry,
      Nat.add_sub_cancel]
  · cases mem_singleton.mp isIn
    refine ⟨rfl, rfl, _, .whole, ?_⟩
    simp only [byteOffset, DmaField.offset, NatTableType.entrySize,
      Nat.mul_comm (entry - tbl.tableEntries)]

theorem postedKind_ruleNextCmd (prevEntry : ℕ) (data : BitVec 16) :
    tbl.PostedKind (tbl.nextTarget .baseTbl .expnTbl .ruleNext prevEntry)
      (ruleNextCmd tbl prevEntry data) := by
  unfold nextTarget ruleNextCmd
  by_cases inBase : prevEntry < tbl.tableEntries
  · rw [if_pos inBase, if_neg (Nat.not_le.mpr inBase)]
    exact postedKind_rule (.inl rfl) rfl
  · rw [if_neg inBase, if_pos (Nat.not_lt.mp inBase)]
    exact postedKind_rule (.inr rfl) rfl

theorem postedKind_indexNextCmd (prevEntry : ℕ) (data : BitVec 16) :
    tbl.PostedKind (tbl.nextTarget .indxTbl .indexExpnTbl .indexNext prevEntry)
      (indexNextCmd tbl prevEntry data) := by
  unfold nextTarget indexNextCmd
  by_cases inBase : prevEntry < tbl.tableEntries
  · rw [if_pos inBase, if_neg (Nat.not_le.mpr inBase)]
    exact postedKind_index (.inl rfl) rfl
  · rw [if_neg inBase, if_pos (Nat.not_lt.mp inBase)]
    exact postedKind_index (.inr rfl) rfl

theorem postedKind_delRule (entry : ℕ) (rulePos : DelType) :
    tbl.PostedKind (tbl.delRuleTarget entry rulePos) (delRuleCmd tbl entry rulePos) := by
  cases rulePos with
  | onlyOne | head => exact postedKind_rule (.inl rfl) rfl
  | middle | last => exact postedKind_ruleNextCmd _ _

theorem postedKind_delIndex {indxTblEntry : ℕ} {indxRulePos : DelType}
    (isIn : (target, cmd) ∈ (tbl.delIndexTargets indxTblEntry indxRulePos).zip
      (delIndexCmds tbl indxTblEntry indxRulePos)) : tbl.PostedKind target cmd := by
  cases indxRulePos with
  | onlyOne =>
      cases mem_singleton.mp isIn
      exact postedKind_index (.inl rfl) rfl
  | head =>
      rcases mem_cons.mp isIn with first | second
      · cases first
        exact postedKind_index (.inl rfl) rfl
      · cases mem_singleton.mp second
        exact postedKind_index (.inl rfl) rfl
  | middle | last =>
      cases mem_singleton.mp isIn
      exact postedKind_indexNextCmd _ _

theorem PostedKind.of_layout (layout : SameLayout tbl tbl') (kind : tbl'.PostedKind target cmd) :
    tbl.PostedKind target cmd := by
  rcases kind with ⟨baseAddr, sameKind, offset, isKind, isOffset⟩
  refine ⟨baseAddr, sameKind, offset, ?_, isOffset⟩
  have same : tbl'.byteOffset target = tbl.byteOffset target := by
    rw [byteOffset, layout.tblAddrOffset]
    rfl
  cases isKind with
  | whole =>
      rw [same]
      exact .whole
  | low16 isIndex isNext =>
      rw [same]
      exact .low16 isIndex isNext
  | noBase isBase =>
      rw [same, layout.tblAddrOffset]
      exact .noBase isBase

theorem Posted.kind (posted : tbl.Posted target cmd) : tbl.PostedKind target cmd := by
  cases posted with
  | linkRule layout rule entry isIn => exact (postedKind_linkRule isIn).of_layout layout
  | linkIndex layout indxSwRule entry isIn => exact (postedKind_linkIndex isIn).of_layout layout
  | enable layout entry isIn => exact (postedKind_enable isIn).of_layout layout
  | del layout expnTbl tblEntry isIn =>
      rcases mem_cons.mp isIn with isRule | isIndex
      · cases isRule
        exact (postedKind_delRule _ _).of_layout layout
      · exact (postedKind_delIndex isIndex).of_layout layout

end Kinds

section Fit

theorem Allocated.entry_lt (dims : tbl.Allocated)
    (inTable : target.entry < tbl.entriesOf target.table) : target.entry < 2 ^ 15 := by
  have base := dims.base_le
  have expn := dims.expn_le
  revert inTable
  cases target.table <;> simp only [entriesOf] <;> omega

theorem Allocated.index_entry_le (dims : tbl.Allocated) (offsetFits : tbl.OffsetsFit)
    (inTable : target.entry < tbl.entriesOf target.table) :
    natIndexTableEntrySize * target.entry + natIndexRuleNextFieldOffset + tbl.tblAddrOffset <
      2 ^ 16 := by
  have expnLe := dims.expn_le
  have entries : target.entry < tbl.tableEntries ∨ target.entry < tbl.expnTableEntries := by
    revert inTable
    cases target.table <;> simp only [entriesOf] <;> omega
  unfold OffsetsFit at offsetFits
  simp only [natIndexTableEntrySize, natIndexRuleNextFieldOffset] at offsetFits ⊢
  split at offsetFits <;> omega

theorem Allocated.addresses (dims : tbl.Allocated) (offsetFits : tbl.OffsetsFit)
    (kind : tbl.PostedKind target cmd) (inTable : target.entry < tbl.entriesOf target.table) :
    tbl.Addresses target cmd := by
  rcases kind with ⟨baseAddr, sameKind, offset, isKind, isOffset⟩
  have fieldLt := DmaField.offset_lt sameKind
  have entryLt := dims.entry_lt inTable
  have addrOffset : tbl.tblAddrOffset < 2 ^ 16 := by
    unfold OffsetsFit at offsetFits
    split at offsetFits <;> omega
  have size : target.table.entrySize ≤ 32 := by
    cases target.table <;> decide
  have product : target.entry * target.table.entrySize ≤ 2 ^ 15 * 32 :=
    Nat.mul_le_mul entryLt.le size
  have small : tbl.byteOffset target < 2 ^ 32 := by
    unfold byteOffset
    omega
  refine ⟨baseAddr, ?_⟩
  rw [isOffset, BitVec.toNat_ofNat]
  cases isKind with
  | whole => exact Nat.mod_eq_of_lt small
  | low16 isIndex isNext =>
      have within : tbl.byteOffset target < 2 ^ 16 := by
        have last := dims.index_entry_le offsetFits inTable
        rw [byteOffset, isIndex, isNext]
        simp only [natIndexTableEntrySize, DmaField.offset] at last ⊢
        omega
      rw [Nat.mod_eq_of_lt within, Nat.mod_eq_of_lt small]
  | noBase isBase =>
      have zero : tbl.tblAddrOffset = 0 := by
        unfold OffsetsFit at offsetFits
        split at offsetFits
        · rename_i noBase
          rw [isBase] at inTable
          simp only [entriesOf] at inTable
          omega
        · exact offsetFits.1
      rw [zero, Nat.sub_zero, Nat.mod_eq_of_lt small]

theorem DmaField.offset_injective {field field' : DmaField} (same : field.offset = field'.offset) :
    field = field' := by
  revert same
  cases field <;> cases field' <;> decide

theorem byteOffset_injective {target' : DmaTarget} (sameTable : target.table = target'.table)
    (fieldLt : target.field.offset < target.table.entrySize)
    (fieldLt' : target'.field.offset < target'.table.entrySize)
    (same : tbl.byteOffset target = tbl.byteOffset target') : target = target' := by
  rw [← sameTable] at fieldLt'
  unfold byteOffset at same
  rw [← sameTable] at same
  have positive : 0 < target.table.entrySize := by omega
  have sum : target.table.entrySize * target.entry + target.field.offset =
      target.table.entrySize * target'.entry + target'.field.offset := by
    rw [Nat.mul_comm, Nat.mul_comm _ target'.entry]
    omega
  have entry : target.entry = target'.entry := by
    have quotient := congrArg (· / target.table.entrySize) sum
    simpa [Nat.mul_add_div positive, Nat.div_eq_of_lt fieldLt, Nat.div_eq_of_lt fieldLt'] using
      quotient
  have field : target.field = target'.field := by
    apply DmaField.offset_injective
    rw [entry] at sum
    omega
  cases target
  cases target'
  simp only at sameTable entry field
  rw [sameTable, entry, field]

theorem Allocated.offsetsOk (dims : tbl.Allocated) (offsetFits : tbl.OffsetsFit) :
    tbl.OffsetsOk where
  addresses _ _ posted inTable := dims.addresses offsetFits posted.kind inTable
  apart target cmd target' cmd' posted posted' inTable inTable' sameTable sameOffset := by
    have first := dims.addresses offsetFits posted.kind inTable
    have second := dims.addresses offsetFits posted'.kind inTable'
    apply byteOffset_injective (first.1.symm.trans (sameTable.trans second.1)) 
      (DmaField.offset_lt posted.kind.sameKind) (DmaField.offset_lt posted'.kind.sameKind)
    rw [← first.2, ← second.2, sameOffset]

theorem OffsetsOk.index_fits (ok : tbl.OffsetsOk) {prevEntry : ℕ} (positive : 0 < prevEntry)
    (fits : prevEntry < 2 ^ 16) {table : NatTableType} {entry : ℕ}
    (isTarget : tbl.nextTarget .indxTbl .indexExpnTbl .indexNext prevEntry =
      ⟨table, entry, .indexNext⟩)
    (isIndex : table.entrySize = natIndexTableEntrySize)
    (inTable : entry < tbl.entriesOf table) :
    natIndexTableEntrySize * entry + natIndexRuleNextFieldOffset + tbl.tblAddrOffset < 2 ^ 16 := by
  have prevIndex : (BitVec.ofNat 16 prevEntry).toNat = prevEntry := by
    rw [BitVec.toNat_ofNat, Nat.mod_eq_of_lt fits]
  have posted : tbl.Posted ⟨table, entry, .indexNext⟩
      { baseAddr := table
        offset := BitVec.ofNat 32
          ((ipaNatiGetIndexEntryOffset tbl entry + natIndexRuleNextFieldOffset) % 2 ^ 16)
        data := BitVec.ofNat 16 0 } := by
    apply Posted.linkIndex (SameLayout.refl tbl) ⟨0, 0, BitVec.ofNat 16 prevEntry⟩ 0
    unfold linkIndexCmds
    simp only [prevIndex, isTarget, positive.ne', if_false, mem_singleton]
  have carried := (ok.addresses _ _ posted inTable).2
  rw [BitVec.toNat_ofNat, Nat.mod_eq_of_lt ((Nat.mod_lt _ (by decide)).trans (by decide)),
    byteOffset, isIndex, Nat.mul_comm] at carried
  have low := Nat.mod_lt (ipaNatiGetIndexEntryOffset tbl entry + natIndexRuleNextFieldOffset)
    (show 0 < 2 ^ 16 by decide)
  rw [carried] at low
  exact low

theorem OffsetsOk.offset_zero (ok : tbl.OffsetsOk) (many : 1 < tbl.tableEntries) :
    tbl.tblAddrOffset = 0 := by
  have posted : tbl.Posted ⟨.baseTbl, 1, .ruleFlag⟩
      { baseAddr := .baseTbl
        offset := BitVec.ofNat 32 (natTableEntrySize * 1 + natRuleFlagFieldOffset)
        data := natFlagEnableBitMask } := by
    apply Posted.enable (SameLayout.refl tbl) 1
    unfold enableCmds
    rw [if_pos many]
    exact mem_singleton_self _
  have carried := (ok.addresses _ _ posted many).2
  change 50 = 50 + tbl.tblAddrOffset at carried
  omega

theorem Allocated.offsetsFit (dims : tbl.Allocated) (ok : tbl.OffsetsOk) : tbl.OffsetsFit := by
  have baseLe := dims.base_le
  have expn := dims.expn
  have expnLe := dims.expn_le
  unfold OffsetsFit
  split
  · rename_i noBase
    have last : tbl.expnTableEntries - 1 < tbl.expnTableEntries := by omega
    have isTarget : tbl.nextTarget .indxTbl .indexExpnTbl .indexNext (tbl.expnTableEntries - 1) =
        ⟨.indexExpnTbl, tbl.expnTableEntries - 1, .indexNext⟩ := by
      simp [nextTarget, noBase]
    exact ok.index_fits (by omega) (by omega) isTarget rfl last
  · rename_i someBase
    have many : 1 < tbl.tableEntries := by
      have base := dims.base
      omega
    have last : tbl.tableEntries - 1 < tbl.tableEntries := by omega
    have fits := ok.index_fits (by omega) (by omega) (if_pos last) rfl last
    simp only [natIndexTableEntrySize, natIndexRuleNextFieldOffset] at fits
    exact ⟨ok.offset_zero many, by omega⟩

/-- For a table that is allocated the byte offsets are right exactly if they fit. -/
theorem offsetsOk_iff {cache cache' : IpaNatCache} {env : AddTblEnv} {numberOfEntries : ℕ}
    {mem : AllocatedMem} (fits : numberOfEntries ≤ 65535)
    (allocated : ipaNatiAllocTable cache numberOfEntries env = (.ok mem, cache'))
    (tableEntries : tbl.tableEntries = mem.tableEntries)
    (expnTableEntries : tbl.expnTableEntries = mem.expnTableEntries) :
    tbl.OffsetsOk ↔ tbl.OffsetsFit := by
  have dims := allocated_of_alloc fits allocated tableEntries expnTableEntries
  exact ⟨dims.offsetsFit, dims.offsetsOk⟩

def sixEntries (tblAddrOffset : ℕ) : IpaNatIp4TableCache :=
  { zeroed 0x01020304 4 2 with tblAddrOffset }

theorem offsetsOk_iff_sixEntries : (sixEntries 0).OffsetsOk ↔ (sixEntries 0).OffsetsFit := by
  have allocated : ipaNatiAllocTable .initial 5 allSucceeds =
      (.ok ⟨216, 0, 4, 2⟩, ⟨fun _ => .zero, 3, 0⟩) := rfl
  exact offsetsOk_iff (by decide) allocated rfl rfl

/-- The first rule of a table at offset 64 is enabled without it, and disabled with it. -/
theorem not_offsetsOk :
    (∃ cache, ipaNatiAllocTable .initial 5 { allSucceeds with allocNatMem := some 64 } =
      (.ok ⟨216, 64, 4, 2⟩, cache)) ∧
    ((sixEntries 64).enableCmds 3).map (fun posted => posted.2.offset) = [114] ∧
    ((sixEntries 64).delCmds 3 .onlyOne).head?.map (fun posted => posted.2.offset) = some 178 ∧
    ((sixEntries 64).enableCmds 3).map Prod.fst =
      [(sixEntries 64).delRuleTarget 3 .onlyOne] ∧
    ¬ (sixEntries 64).OffsetsOk := by
  refine ⟨⟨_, rfl⟩, by decide, by decide, by decide, ?_⟩
  intro ok
  have zero := ok.offset_zero (by decide)
  revert zero
  decide

end Fit

end IpaNatIp4TableCache

end HtcPme.IpaNat
