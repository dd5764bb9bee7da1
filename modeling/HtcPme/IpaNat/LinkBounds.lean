import HtcPme.IpaNat.AddFailures

/-!
# Bounds of the stored links

Whatever is added and deleted, every next index that is stored is 0 or an expansion entry, and the
entries of the two tables name entries of each other.
-/

namespace HtcPme.IpaNat

open Halfword List

def IsLink (tableEntries expnTableEntries next : ℕ) : Prop :=
  next = 0 ∨ tableEntries < next ∧ next < tableEntries + expnTableEntries

structure RuleInRange (tableEntries expnTableEntries : ℕ) (rule : IpaNatRule) : Prop where
  next : IsLink tableEntries expnTableEntries rule.nextIndex
  indx : rule.indxTblEntry < tableEntries + expnTableEntries

structure IndexInRange (tableEntries expnTableEntries : ℕ) (entry : IpaNatIndxTblRule) : Prop where
  next : IsLink tableEntries expnTableEntries entry.nextIndex
  tbl : entry.tblEntry < tableEntries + expnTableEntries

structure LinksInRange (tableEntries expnTableEntries : ℕ) (tbl : IpaNatIp4TableCache) : Prop where
  valid : tbl.valid = true
  tableEntries_eq : tbl.tableEntries = tableEntries
  expnTableEntries_eq : tbl.expnTableEntries = expnTableEntries
  aligned : natTableEntrySize ∣ tbl.tblAddrOffset
  rules : ∀ slot, RuleInRange tableEntries expnTableEntries (tbl.ipv4Rules slot)
  index : ∀ slot, IndexInRange tableEntries expnTableEntries (tbl.indexTable slot)

variable {te ex : ℕ} {tbl tbl₁ tbl' : IpaNatIp4TableCache}

section Stores

section

variable (links : LinksInRange te ex tbl)

include links

variable {entry : ℕ}

theorem LinksInRange.setRule {rule : IpaNatRule}
    (inRange : RuleInRange te ex rule) : LinksInRange te ex (tbl.setRule entry rule) := by
  refine ⟨links.valid, links.tableEntries_eq, links.expnTableEntries_eq, links.aligned, ?_,
    links.index⟩
  intro slot
  change RuleInRange te ex (Function.update tbl.ipv4Rules entry rule slot)
  by_cases same : slot = entry
  · rwa [same, Function.update_self]
  · rw [Function.update_of_ne same]
    exact links.rules slot

theorem LinksInRange.setIndex {rule : IpaNatIndxTblRule} (inRange : IndexInRange te ex rule) :
    LinksInRange te ex (tbl.setIndex entry rule) := by
  refine ⟨links.valid, links.tableEntries_eq, links.expnTableEntries_eq, links.aligned,
    links.rules, ?_⟩
  intro slot
  change IndexInRange te ex (Function.update tbl.indexTable entry rule slot)
  by_cases same : slot = entry
  · rwa [same, Function.update_self]
  · rw [Function.update_of_ne same]
    exact links.index slot

theorem LinksInRange.of_same
    (layout : IpaNatIp4TableCache.SameLayout tbl tbl') (rules : tbl'.ipv4Rules = tbl.ipv4Rules)
    (index : tbl'.indexTable = tbl.indexTable) : LinksInRange te ex tbl' := by
  refine ⟨layout.valid.trans links.valid, layout.tableEntries.trans links.tableEntries_eq,
    layout.expnTableEntries.trans links.expnTableEntries_eq, ?_, ?_, ?_⟩
  · rw [layout.tblAddrOffset]
    exact links.aligned
  · rw [rules]
    exact links.rules
  · rw [index]
    exact links.index

theorem LinksInRange.setMeta (entry : ℕ)
    (prevIndex : BitVec 16) : LinksInRange te ex (tbl.setMeta entry prevIndex) :=
  links.of_same ⟨rfl, rfl, rfl, rfl, rfl⟩ rfl rfl

theorem LinksInRange.setRuleId (slot : ℕ) (ruleId : BitVec 16) :
    LinksInRange te ex (tbl.setRuleId slot ruleId) :=
  links.of_same ⟨rfl, rfl, rfl, rfl, rfl⟩ rfl rfl

end

theorem ruleInRange_zero (positive : 0 < te) : RuleInRange te ex .zero :=
  ⟨.inl (by decide), by
    rw [show IpaNatRule.zero.indxTblEntry = 0 by decide]
    omega⟩

theorem indexInRange_zero (positive : 0 < te) : IndexInRange te ex 0#32 :=
  ⟨.inl (by decide), by
    rw [IpaNatIndxTblRule.tblEntry_zero]
    omega⟩

theorem LinksInRange.zeroIndex (links : LinksInRange te ex tbl) (positive : 0 < te) (entry : ℕ) :
    LinksInRange te ex (tbl.setIndex entry 0) :=
  links.setIndex (indexInRange_zero positive)

theorem LinksInRange.zeroRule (links : LinksInRange te ex tbl) (positive : 0 < te) (entry : ℕ) :
    LinksInRange te ex (tbl.setRule entry .zero) :=
  links.setRule (ruleInRange_zero positive)

theorem RuleInRange.updateSwSpecParams {rule : IpaNatRule} (inRange : RuleInRange te ex rule)
    (isIndxTblEntry : Bool) {value : BitVec 16}
    (entryLt : isIndxTblEntry = true → value.toNat < te + ex) :
    RuleInRange te ex (updateSwSpecParams rule isIndxTblEntry value) := by
  refine ⟨by simpa using inRange.next, ?_⟩
  cases isIndxTblEntry with
  | false => simpa using inRange.indx
  | true => simpa using entryLt rfl

end Stores

section Commands

def CmdInRange (tableEntries expnTableEntries : ℕ) (cmd : IpaIocNatDmaOne) : Prop :=
  match cmd.baseAddr with
  | .baseTbl | .expnTbl =>
      cmd.offset.toNat % natTableEntrySize = natRuleNextFieldOffset ∧
          IsLink tableEntries expnTableEntries cmd.data.toNat ∨
        cmd.offset.toNat % natTableEntrySize = natRuleFlagFieldOffset ∨
        cmd.offset.toNat % natTableEntrySize = natRuleProtoFieldOffset
  | .indxTbl | .indexExpnTbl =>
      cmd.offset.toNat % natIndexTableEntrySize = natIndexRuleNextFieldOffset ∧
          IsLink tableEntries expnTableEntries cmd.data.toNat ∨
        cmd.offset.toNat % natIndexTableEntrySize = natIndexRuleNatIndexFieldOffset ∧
          cmd.data.toNat < tableEntries + expnTableEntries

variable {data : BitVec 16} {field : ℕ}

theorem RuleInRange.writeHalfword {rule : IpaNatRule} (inRange : RuleInRange te ex rule)
    (isField : field = natRuleNextFieldOffset ∧ IsLink te ex data.toNat ∨
      field = natRuleFlagFieldOffset ∨ field = natRuleProtoFieldOffset) :
    RuleInRange te ex (rule.writeHalfword field data) := by
  rcases isField with ⟨rfl, isLink⟩ | rfl | rfl
  · exact ⟨by simpa using isLink, by simpa using inRange.indx⟩
  · exact ⟨by simpa using inRange.next, by simpa using inRange.indx⟩
  · exact ⟨by simpa using inRange.next, by simpa using inRange.indx⟩

theorem IndexInRange.writeHalfword {entry : IpaNatIndxTblRule} (inRange : IndexInRange te ex entry)
    (isField : field = natIndexRuleNextFieldOffset ∧ IsLink te ex data.toNat ∨
      field = natIndexRuleNatIndexFieldOffset ∧ data.toNat < te + ex) :
    IndexInRange te ex (IpaNatIndxTblRule.writeHalfword entry field data) := by
  rcases isField with ⟨rfl, isLink⟩ | ⟨rfl, entryLt⟩
  · exact ⟨by simpa using isLink, by simpa using inRange.tbl⟩
  · exact ⟨by simpa using inRange.next, by simpa using entryLt⟩

theorem LinksInRange.applyDma (links : LinksInRange te ex tbl) {cmd : IpaIocNatDmaOne}
    (inRange : CmdInRange te ex cmd) : LinksInRange te ex (tbl.applyDma cmd) := by
  unfold CmdInRange at inRange
  unfold IpaNatIp4TableCache.applyDma
  cases table : cmd.baseAddr with
  | baseTbl | expnTbl =>
      simp only [table] at inRange ⊢
      exact links.setRule ((links.rules _).writeHalfword inRange)
  | indxTbl | indexExpnTbl =>
      simp only [table] at inRange ⊢
      exact links.setIndex ((links.index _).writeHalfword inRange)

theorem LinksInRange.foldl_applyDma (links : LinksInRange te ex tbl) {cmds : List IpaIocNatDmaOne}
    (inRange : ∀ cmd ∈ cmds, CmdInRange te ex cmd) :
    LinksInRange te ex (cmds.foldl IpaNatIp4TableCache.applyDma tbl) := by
  induction cmds generalizing tbl with
  | nil => exact links
  | cons cmd cmds ih =>
      rw [forall_mem_cons] at inRange
      exact ih (links.applyDma inRange.1) inRange.2

def DataInRange (tableEntries expnTableEntries : ℕ) (field : DmaField) (data : BitVec 16) : Prop :=
  match field with
  | .ruleNext | .indexNext => IsLink tableEntries expnTableEntries data.toNat
  | .indexNatIndex => data.toNat < tableEntries + expnTableEntries
  | .ruleFlag | .ruleProto => True

section Kinds

open IpaNatIp4TableCache

variable {target : DmaTarget} {cmd : IpaIocNatDmaOne}

theorem offset_mod_entrySize
    (aligned : natTableEntrySize ∣ tbl.tblAddrOffset) (kind : tbl.PostedKind target cmd) :
    cmd.offset.toNat % target.table.entrySize = target.field.offset := by
  rcases kind with ⟨-, sameKind, offset, isKind, isOffset⟩
  have fieldLt := DmaField.offset_lt sameKind
  have size : target.table.entrySize = 32 ∨ target.table.entrySize = 4 := by
    cases target.table <;> simp [NatTableType.entrySize]
  have byteOffset : tbl.byteOffset target =
      target.entry * target.table.entrySize + target.field.offset + tbl.tblAddrOffset := rfl
  rcases aligned with ⟨factor, isFactor⟩
  rw [isOffset, BitVec.toNat_ofNat]
  simp only [natTableEntrySize] at isFactor
  cases isKind with
  | whole =>
      rcases size with is32 | is4
      · rw [is32] at byteOffset fieldLt ⊢
        omega
      · rw [is4] at byteOffset fieldLt ⊢
        omega
  | low16 isIndex isNext =>
      rw [isIndex] at byteOffset fieldLt ⊢
      simp only [natIndexTableEntrySize] at byteOffset fieldLt ⊢
      omega
  | noBase isBase =>
      rw [isBase] at byteOffset fieldLt ⊢
      simp only [NatTableType.entrySize, natTableEntrySize] at byteOffset fieldLt ⊢
      omega

theorem cmdInRange_of_kind
    (aligned : natTableEntrySize ∣ tbl.tblAddrOffset) (kind : tbl.PostedKind target cmd)
    (data : DataInRange te ex target.field cmd.data) : CmdInRange te ex cmd := by
  have field := offset_mod_entrySize aligned kind
  have sameKind := kind.sameKind
  rcases target with ⟨table, entry, isField⟩
  unfold CmdInRange
  rw [kind.baseAddr]
  cases table <;> cases isField <;> first
    | exact Bool.noConfusion sameKind
    | exact .inl ⟨field, data⟩
    | exact .inr ⟨field, data⟩
    | exact .inr (.inl field)
    | exact .inr (.inr field)

theorem LinksInRange.applyAll (links : LinksInRange te ex tbl)
    {cmds : List (DmaTarget × IpaIocNatDmaOne)}
    (kinds : ∀ target cmd, (target, cmd) ∈ cmds → tbl.PostedKind target cmd)
    (data : ∀ target cmd, (target, cmd) ∈ cmds → DataInRange te ex target.field cmd.data) :
    LinksInRange te ex (tbl.applyAll cmds) := by
  apply links.foldl_applyDma
  intro cmd cmdMem
  rcases mem_map.mp cmdMem with ⟨⟨target, cmd'⟩, isIn, rfl⟩
  exact cmdInRange_of_kind links.aligned (kinds target cmd' isIn) (data target cmd' isIn)

end Kinds

end Commands

section Generate

open IpaNatIp4TableCache

variable {clntRule : IpaNatIpv4Rule} {generated : GeneratedRule}

structure GeneratedInRange (tableEntries expnTableEntries : ℕ) (generated : GeneratedRule) :
    Prop where
  next : generated.swRule.nextIndex = 0
  indxEntry : generated.swRule.indxTblEntry = BitVec.ofNat 16 generated.indxTblEntry
  indexNext : generated.indexSwRule.nextIndex = 0
  names : generated.indexSwRule.tblEntry = BitVec.ofNat 16 generated.tblEntry
  tblEntry : generated.tblEntry < tableEntries + expnTableEntries
  indxTblEntry : generated.indxTblEntry < tableEntries + expnTableEntries
  linked : generated.swRule.prevIndex ≠ 0 →
    IsLink tableEntries expnTableEntries generated.tblEntry
  indexLinked : generated.indexSwRule.prevIndex ≠ 0 →
    IsLink tableEntries expnTableEntries generated.indxTblEntry

theorem srcSlot_lt (positive : 0 < tbl.tableEntries) (fits : tbl.tableEntries ≤ 2 ^ 16) :
    tbl.srcSlot clntRule < tbl.tableEntries := by
  have sizeEq := hashSize_toNat positive fits
  have le : tbl.srcSlot clntRule ≤ tbl.hashSize.toNat := by
    unfold srcSlot srcHash
    simp only
    split
    · exact Nat.le_refl _
    · rw [BitVec.toNat_and]
      exact Nat.and_le_right
  omega

theorem isLink_free {isFree : ℕ → Bool}
    (found : expnFreeEntry isFree tbl.expnTableEntries ≠ 0) :
    IsLink tbl.tableEntries tbl.expnTableEntries
      (expnFreeEntry isFree tbl.expnTableEntries + tbl.tableEntries) := by
  rcases expnFreeEntry_spec found with ⟨positive, inSize, -⟩
  right
  omega

section

variable (size : HandleSize tbl.tableEntries tbl.expnTableEntries)

include size

variable {entry : ℕ}

theorem generateTblRule_inRange {swRule : IpaNatSwRule}
    (isGenerated : ipaNatiGenerateTblRule tbl clntRule = some (entry, swRule))
    (valid : entry ≠ invalidNatEntry) :
    swRule.nextIndex = 0 ∧ entry < tbl.tableEntries + tbl.expnTableEntries ∧
      (swRule.prevIndex ≠ 0 → IsLink tbl.tableEntries tbl.expnTableEntries entry) := by
  have baseLe := size.base_le
  have slot := dstSlot_lt clntRule size.base_pos (by omega)
  simp only [ipaNatiGenerateTblRule] at isGenerated
  split at isGenerated
  · cases isGenerated
    exact ⟨rfl, by omega, fun linked => absurd rfl linked⟩
  · split at isGenerated
    · cases isGenerated
    · cases isGenerated
      exact absurd rfl valid
    · split at isGenerated
      · cases isGenerated
        exact absurd rfl valid
      · rename_i found
        cases isGenerated
        have isLink := isLink_free found
        refine ⟨rfl, ?_, fun _ => isLink⟩
        rcases expnFreeEntry_spec found with ⟨-, inSize, -⟩
        unfold ipaNatiExpnTblFreeEntry
        omega

theorem generateIndexRule_inRange {swRule swRule' : IpaNatIndxTblSwRule}
    (isGenerated : ipaNatiGenerateIndexRule tbl clntRule swRule = some (entry, swRule'))
    (valid : entry ≠ invalidNatEntry) :
    swRule'.nextIndex = swRule.nextIndex ∧ swRule'.tblEntry = swRule.tblEntry ∧
      entry < tbl.tableEntries + tbl.expnTableEntries ∧
      (swRule'.prevIndex ≠ 0 → IsLink tbl.tableEntries tbl.expnTableEntries entry) := by
  have baseLe := size.base_le
  have slot : tbl.srcSlot clntRule < tbl.tableEntries := srcSlot_lt size.base_pos (by omega)
  simp only [ipaNatiGenerateIndexRule] at isGenerated
  split at isGenerated
  · cases isGenerated
    exact ⟨rfl, rfl, by omega, fun linked => absurd rfl linked⟩
  · split at isGenerated
    · cases isGenerated
    · cases isGenerated
      exact absurd rfl valid
    · split at isGenerated
      · cases isGenerated
        exact absurd rfl valid
      · rename_i found
        split at isGenerated
        · cases isGenerated
          exact absurd rfl valid
        · cases isGenerated
          have isLink := isLink_free found
          refine ⟨rfl, rfl, ?_, fun _ => isLink⟩
          rcases expnFreeEntry_spec found with ⟨-, inSize, -⟩
          unfold ipaNatiIndexExpnGetFreeEntry
          omega

theorem generateRule_inRange (links : LinksInRange te ex tbl)
    (isGenerated : ipaNatiGenerateRule tbl clntRule = some (.ok (generated, tbl₁))) :
    GeneratedInRange tbl.tableEntries tbl.expnTableEntries generated ∧
      LinksInRange te ex tbl₁ := by
  simp only [ipaNatiGenerateRule] at isGenerated
  rcases Option.bind_eq_some_iff.mp isGenerated with ⟨⟨entry, swRule⟩, entryEq, isGenerated⟩
  simp only at isGenerated
  split at isGenerated
  · cases isGenerated
  · rename_i valid
    rcases Option.bind_eq_some_iff.mp isGenerated with ⟨⟨indx, indexSwRule⟩, indxEq, isGenerated⟩
    simp only at isGenerated
    split at isGenerated
    · cases isGenerated
    · rename_i indxValid
      rcases generateTblRule_inRange size entryEq valid with ⟨next, entryLt, linked⟩
      rcases generateIndexRule_inRange size indxEq indxValid with
        ⟨indexNext, names, indxLt, indexLinked⟩
      cases isGenerated
      refine ⟨⟨next, rfl, indexNext, names, entryLt, indxLt, linked, indexLinked⟩, ?_⟩
      split
      · exact links.setMeta _ _
      · exact links

end

theorem LinksInRange.applyIfPosted (links : LinksInRange te ex tbl) {outcome : DmaOutcome}
    {cmds : List (DmaTarget × IpaIocNatDmaOne)}
    (kinds : ∀ target cmd, (target, cmd) ∈ cmds → tbl.PostedKind target cmd)
    (data : ∀ target cmd, (target, cmd) ∈ cmds → DataInRange te ex target.field cmd.data) :
    LinksInRange te ex (tbl.applyIfPosted outcome cmds) := by
  unfold IpaNatIp4TableCache.applyIfPosted
  split
  · exact links.applyAll kinds data
  · exact links

theorem isLink_ofNat (total : te + ex < 2 ^ 16) {entry : ℕ} (isLink : IsLink te ex entry) :
    IsLink te ex (BitVec.ofNat 16 entry).toNat := by
  have entryLt : entry < 2 ^ 16 := by
    rcases isLink with zero | inExpn <;> omega
  rwa [BitVec.toNat_ofNat, Nat.mod_eq_of_lt entryLt]

section

variable (links : LinksInRange te ex tbl)

include links

variable {entry : ℕ} {outcome : DmaOutcome}

theorem LinksInRange.copyRuleWith (total : te + ex < 2 ^ 16)
     {rule : IpaNatSwRule} (next : rule.nextIndex = 0)
    (indx : rule.indxTblEntry.toNat < te + ex) (linked : rule.prevIndex ≠ 0 → IsLink te ex entry) :
    LinksInRange te ex (tbl.copyRuleWith outcome rule entry) := by
  have copied : LinksInRange te ex (tbl.setRule entry rule.toHw) :=
    links.setRule ⟨.inl (by simp [next]), by simpa using indx⟩
  unfold IpaNatIp4TableCache.copyRuleWith
  apply copied.applyIfPosted
  · intro target cmd isIn
    have layout : SameLayout (tbl.setRule entry rule.toHw) tbl := ⟨rfl, rfl, rfl, rfl, rfl⟩
    exact (postedKind_linkRule isIn).of_layout layout
  · intro target cmd isIn
    unfold linkRuleCmds at isIn
    rcases tbl.nextTarget_cases .baseTbl .expnTbl .ruleNext rule.prevIndex.toNat with
      ⟨table, prev, isTarget, -⟩
    simp only [isTarget] at isIn
    split_ifs at isIn with noPrev
    · cases isIn
    · cases mem_singleton.mp isIn
      exact isLink_ofNat total (linked fun isZero => noPrev (by rw [isZero]; rfl))

theorem LinksInRange.copyIndexRuleWith (total : te + ex < 2 ^ 16) {indxSwRule : IpaNatIndxTblSwRule}
    (next : indxSwRule.nextIndex = 0) (names : indxSwRule.tblEntry.toNat < te + ex)
    (linked : indxSwRule.prevIndex ≠ 0 → IsLink te ex entry) :
    LinksInRange te ex (tbl.copyIndexRuleWith outcome indxSwRule entry) := by
  have copied : LinksInRange te ex
      (tbl.setIndex entry (ofHalves indxSwRule.nextIndex indxSwRule.tblEntry)) := by
    apply links.setIndex
    refine ⟨.inl ?_, ?_⟩
    · simp [IpaNatIndxTblRule.nextIndex, read16BitFieldValue, next]
    · simpa [IpaNatIndxTblRule.tblEntry, read16BitFieldValue] using names
  unfold IpaNatIp4TableCache.copyIndexRuleWith
  apply copied.applyIfPosted
  · intro target cmd isIn
    have layout : SameLayout (tbl.setIndex entry
        (ofHalves indxSwRule.nextIndex indxSwRule.tblEntry)) tbl := ⟨rfl, rfl, rfl, rfl, rfl⟩
    exact (postedKind_linkIndex isIn).of_layout layout
  · intro target cmd isIn
    unfold linkIndexCmds at isIn
    rcases tbl.nextTarget_cases .indxTbl .indexExpnTbl .indexNext indxSwRule.prevIndex.toNat with
      ⟨table, prev, isTarget, -⟩
    simp only [isTarget] at isIn
    split_ifs at isIn with noPrev
    · cases isIn
    · cases mem_singleton.mp isIn
      exact isLink_ofNat total (linked fun isZero => noPrev (by rw [isZero]; rfl))

theorem LinksInRange.postIpv4DmaCmd (entry : ℕ) :
    LinksInRange te ex (ipaNatiPostIpv4DmaCmd tbl entry) := by
  rw [ipaNatiPostIpv4DmaCmd_eq]
  apply links.applyAll
  · exact fun target cmd isIn => postedKind_enable isIn
  · intro target cmd isIn
    unfold enableCmds at isIn
    split_ifs at isIn
    · cases mem_singleton.mp isIn
      exact trivial
    · cases mem_singleton.mp isIn
      exact trivial

theorem LinksInRange.makeRuleHdl (entry : ℕ) :
    LinksInRange te ex (ipaNatiMakeRuleHdl tbl entry).2 := by
  have counted : LinksInRange te ex
      (if entry ≥ tbl.tableEntries then { tbl with curExpnTblCnt := tbl.curExpnTblCnt + 1 }
        else { tbl with curTblCnt := tbl.curTblCnt + 1 }) := by
    split
    · exact links.of_same ⟨rfl, rfl, rfl, rfl, rfl⟩ rfl rfl
    · exact links.of_same ⟨rfl, rfl, rfl, rfl, rfl⟩ rfl rfl
  unfold ipaNatiMakeRuleHdl
  simp only
  split
  · exact counted.setRuleId _ _
  · exact counted

end

theorem GeneratedInRange.copyWith (inRange : GeneratedInRange te ex generated)
    (links : LinksInRange te ex tbl) (total : te + ex < 2 ^ 16) (env : AddRuleEnv) :
    LinksInRange te ex (generated.copyWith env tbl) := by
  have indx := inRange.indxTblEntry
  have entry := inRange.tblEntry
  refine (links.copyRuleWith total inRange.next ?_ inRange.linked).copyIndexRuleWith total
    inRange.indexNext ?_ inRange.indexLinked
  · rw [inRange.indxEntry, BitVec.toNat_ofNat]
    omega
  · rw [inRange.names, BitVec.toNat_ofNat]
    omega

theorem LinksInRange.addIpv4RuleWith (links : LinksInRange te ex tbl) (size : HandleSize te ex)
    {env : AddRuleEnv} {result : Except Errno ℕ}
    (returns : addIpv4RuleWith env tbl clntRule = some (result, tbl')) :
    LinksInRange te ex tbl' := by
  have total : te + ex < 2 ^ 16 := by
    have base := size.base_le
    have expn := size.expn_lt
    omega
  have size' := size
  rw [← links.tableEntries_eq, ← links.expnTableEntries_eq] at size'
  unfold HtcPme.IpaNat.addIpv4RuleWith at returns
  cases isGenerated : ipaNatiGenerateRule tbl clntRule with
  | none =>
      rw [isGenerated] at returns
      cases returns
  | some answer =>
      rw [isGenerated] at returns
      simp only [Option.bind_eq_bind, Option.bind_some] at returns
      cases answer with
      | error errno =>
          cases returns
          exact links
      | ok picked =>
          rcases picked with ⟨generated, tbl₁⟩
          rcases generateRule_inRange size' links isGenerated with ⟨inRange, links₁⟩
          rw [links.tableEntries_eq, links.expnTableEntries_eq] at inRange
          have copied := inRange.copyWith links₁ total env
          simp only at returns
          split at returns
          · cases returns
            exact copied
          · have made := (copied.postIpv4DmaCmd generated.tblEntry).makeRuleHdl generated.tblEntry
            split at returns <;> cases returns <;> exact made

end Generate

section Delete

open IpaNatIp4TableCache

variable {entry : ℕ}

section

variable (links : LinksInRange te ex tbl)

include links

theorem LinksInRange.delRuleCmd (rulePos : DelType) :
    DataInRange te ex (tbl.delRuleTarget entry rulePos).field
      (delRuleCmd tbl entry rulePos).data := by
  have data (prevEntry : ℕ) (value : BitVec 16) (isLink : IsLink te ex value.toNat) :
      DataInRange te ex (tbl.nextTarget .baseTbl .expnTbl .ruleNext prevEntry).field
        (ruleNextCmd tbl prevEntry value).data := by
    unfold nextTarget ruleNextCmd
    split <;> split <;> exact isLink
  cases rulePos with
  | onlyOne | head => exact trivial
  | middle => exact data _ _ (links.rules entry).next
  | last => exact data _ _ (.inl rfl)

theorem LinksInRange.delIndexCmds {indxTblEntry : ℕ}
    {indxRulePos : DelType} {target : DmaTarget} {cmd : IpaIocNatDmaOne}
    (isIn : (target, cmd) ∈ (tbl.delIndexTargets indxTblEntry indxRulePos).zip
      (delIndexCmds tbl indxTblEntry indxRulePos)) :
    DataInRange te ex target.field cmd.data := by
  have data (prevEntry : ℕ) (value : BitVec 16) (isLink : IsLink te ex value.toNat) :
      DataInRange te ex (tbl.nextTarget .indxTbl .indexExpnTbl .indexNext prevEntry).field
        (indexNextCmd tbl prevEntry value).data := by
    unfold nextTarget indexNextCmd
    split <;> split <;> exact isLink
  have positive := (links.rules 0).indx
  cases indxRulePos with
  | onlyOne =>
      cases mem_singleton.mp isIn
      exact (Nat.zero_le _).trans_lt positive
  | head =>
      rcases mem_cons.mp isIn with first | second
      · cases first
        exact (links.index _).tbl
      · cases mem_singleton.mp second
        exact (links.index _).next
  | middle =>
      cases mem_singleton.mp isIn
      exact data _ _ (links.index _).next
  | last =>
      cases mem_singleton.mp isIn
      exact data _ _ (.inl rfl)

theorem LinksInRange.delCmds (rulePos : DelType) :
    ∀ cmd ∈ (tbl.delCmds entry rulePos).map Prod.snd, CmdInRange te ex cmd := by
  intro cmd cmdMem
  rcases mem_map.mp cmdMem with ⟨⟨target, cmd'⟩, isIn, rfl⟩
  rcases mem_cons.mp isIn with isRule | isIndex
  · cases isRule
    exact cmdInRange_of_kind links.aligned (postedKind_delRule _ _) (links.delRuleCmd rulePos)
  · exact cmdInRange_of_kind links.aligned (postedKind_delIndex isIndex)
      (links.delIndexCmds isIndex)

end

theorem mem_reorderCmds {cmds : List IpaIocNatDmaOne} {cmd : IpaIocNatDmaOne}
    (isIn : cmd ∈ reorderCmds cmds) : cmd ∈ cmds := by
  unfold reorderCmds at isIn
  simp only at isIn
  split at isIn
  · exact isIn
  · rcases mem_append.mp isIn with dropped | taken
    · exact mem_of_mem_drop dropped
    · exact mem_of_mem_take taken

def delPosted (tbl : IpaNatIp4TableCache) (entry : ℕ) (rulePos : DelType) : IpaNatIp4TableCache :=
  (reorderCmds ((tbl.delCmds entry rulePos).map Prod.snd)).foldl applyDma tbl

section

variable (links : LinksInRange te ex tbl)

include links

theorem LinksInRange.delPosted (entry : ℕ) (rulePos : DelType) :
    LinksInRange te ex (delPosted tbl entry rulePos) :=
  links.foldl_applyDma fun cmd isIn => links.delCmds rulePos cmd (mem_reorderCmds isIn)

theorem LinksInRange.finishRuleDelete (positive : 0 < te)
    (entry : ℕ) (rulePos : DelType) : LinksInRange te ex (finishRuleDelete tbl entry rulePos) := by
  have moved : ∀ (slot : ℕ) (value : BitVec 16),
      LinksInRange te ex (tbl.setRule slot (updateSwSpecParams (tbl.ipv4Rules slot) false value)) :=
    fun slot value => links.setRule ((links.rules slot).updateSwSpecParams false (by simp))
  cases rulePos with
  | head => exact links
  | middle => exact (moved _ _).zeroRule positive entry
  | onlyOne | last => exact links.zeroRule positive entry

theorem LinksInRange.finishIndexDelete (positive : 0 < te)
    {indxTblEntry : ℕ} (indxLt : indxTblEntry < te + ex) (indxRulePos : DelType)
    (nextEntry : ℕ) :
    LinksInRange te ex (finishIndexDelete tbl indxTblEntry indxRulePos nextEntry) := by
  cases indxRulePos with
  | head =>
      have renamed : (BitVec.ofNat 16 indxTblEntry).toNat < te + ex := by
        rw [BitVec.toNat_ofNat]
        omega
      unfold HtcPme.IpaNat.finishIndexDelete
      simp only [if_true]
      split
      · have moved := (links.setMeta ((tbl.indexTable nextEntry).nextIndex - tbl.tableEntries)
          (BitVec.ofNat 16 indxTblEntry)).zeroIndex positive nextEntry
        exact moved.setRule ((moved.rules _).updateSwSpecParams true fun _ => renamed)
      · have moved := links.zeroIndex positive nextEntry
        exact moved.setRule ((moved.rules _).updateSwSpecParams true fun _ => renamed)
  | middle => exact ((links.setMeta _ _).setMeta _ _).zeroIndex positive indxTblEntry
  | onlyOne | last => exact links.zeroIndex positive indxTblEntry

end

variable {rulePos : DelType}

theorem enabled_of_posted (posted : ipaNatiPostDelDmaCmd tbl entry rulePos = some tbl') :
    (tbl.ipv4Rules entry).enable ≠ 0 := by
  intro disabled
  rw [ipaNatiPostDelDmaCmd, if_pos disabled] at posted
  cases posted

theorem ipaNatiPostDelDmaCmd_eq_finish (enabled : (tbl.ipv4Rules entry).enable ≠ 0) :
    ipaNatiPostDelDmaCmd tbl entry rulePos =
      some (HtcPme.IpaNat.finishIndexDelete
        (HtcPme.IpaNat.finishRuleDelete (delPosted tbl entry rulePos) entry rulePos)
        (tbl.ipv4Rules entry).indxTblEntry
        (ipaNatiFindIndexRulePos tbl (tbl.ipv4Rules entry).indxTblEntry) (tbl.tableEntries +
          sub16 (tbl.indexTable (tbl.ipv4Rules entry).indxTblEntry).nextIndex
            tbl.tableEntries)) := by
  unfold ipaNatiPostDelDmaCmd HtcPme.IpaNat.delPosted
  rw [if_neg enabled, map_snd_delCmds]

variable (links : LinksInRange te ex tbl)

include links

variable (positive : 0 < te)

include positive

theorem LinksInRange.postDelDmaCmd (posted : ipaNatiPostDelDmaCmd tbl entry rulePos = some tbl') :
    LinksInRange te ex tbl' := by
  rw [ipaNatiPostDelDmaCmd_eq_finish (enabled_of_posted posted), Option.some.injEq] at posted
  rw [← posted]
  exact ((links.delPosted entry rulePos).finishRuleDelete positive entry rulePos).finishIndexDelete
    positive (links.rules entry).indx _ _

theorem LinksInRange.delDeadIpv4HeadNodes :
    LinksInRange te ex (ipaNatiDelDeadIpv4HeadNodes tbl) := by
  unfold ipaNatiDelDeadIpv4HeadNodes
  generalize range tbl.tableEntries = slots
  induction slots generalizing tbl with
  | nil => exact links
  | cons slot slots ih =>
      rw [foldl_cons]
      apply ih
      split
      · exact links.zeroRule positive slot
      · exact links

theorem LinksInRange.delIpv4Rule {ruleHdl : ℕ} {result : Except Errno Unit}
    (deleted : ipaNatiDelIpv4Rule tbl ruleHdl = (result, tbl')) : LinksInRange te ex tbl' := by
  simp only [ipaNatiDelIpv4Rule] at deleted
  split at deleted
  · cases deleted
    exact links
  · split at deleted
    · cases deleted
      exact links
    · split at deleted
      · cases deleted
        exact links
      · rename_i posted
        cases deleted
        have finished := (links.postDelDmaCmd positive posted).delDeadIpv4HeadNodes positive
        exact finished.setRuleId _ _

end Delete

end HtcPme.IpaNat
