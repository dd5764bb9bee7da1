import HtcPme.IpaNat.Handles

/-!
# Deleting a rule

`ipa_nati_post_del_dma_cmd` unlinks a rule and its index entry in one of four ways each, told here
free of commands and offsets.
-/

namespace HtcPme.IpaNat

open Function (update update_of_ne update_self)

open Halfword IpaNatIndxTblRule List

namespace IpaNatIp4TableCache

variable {tbl : IpaNatIp4TableCache} {ruleChain indexChain : ℕ → List ℕ}

/-- The rule entries after the one at `entry` was taken off its chain. -/
def deletedRules (tbl : IpaNatIp4TableCache) (entry : ℕ) : DelType → ℕ → IpaNatRule
  | .onlyOne => update tbl.ipv4Rules entry .zero
  | .head =>
      update tbl.ipv4Rules entry
        ((tbl.ipv4Rules entry).writeHalfword natRuleProtoFieldOffset natInvalidProtoFieldValue)
  | .middle =>
      let prev := tbl.rulePrev entry
      let next := tbl.ruleNext entry
      let linked := update tbl.ipv4Rules prev
        ((tbl.ipv4Rules prev).writeHalfword natRuleNextFieldOffset (BitVec.ofNat 16 next))
      update
        (update linked next
          (updateSwSpecParams (linked next) false (BitVec.ofNat 16 prev)))
        entry .zero
  | .last =>
      let prev := tbl.rulePrev entry
      update
        (update tbl.ipv4Rules prev
          ((tbl.ipv4Rules prev).writeHalfword natRuleNextFieldOffset 0))
        entry .zero

/-- The index entries after the one at `entry` was taken off its chain. A head receives the
contents of its successor, whose slot is freed instead. -/
def deletedIndex (tbl : IpaNatIp4TableCache) (entry : ℕ) : DelType → ℕ → IpaNatIndxTblRule
  | .onlyOne => update tbl.indexTable entry 0
  | .head =>
      let next := tbl.indexNext entry
      update (update tbl.indexTable entry (tbl.indexTable next)) next 0
  | .middle =>
      let prev := tbl.indexPrev entry
      update
        (update tbl.indexTable prev
          ((tbl.indexTable prev).writeHalfword natIndexRuleNextFieldOffset
            (BitVec.ofNat 16 (tbl.indexNext entry))))
        entry 0
  | .last =>
      let prev := tbl.indexPrev entry
      update
        (update tbl.indexTable prev
          ((tbl.indexTable prev).writeHalfword natIndexRuleNextFieldOffset 0))
        entry 0

def deletedMeta (tbl : IpaNatIp4TableCache) (entry : ℕ) : DelType → ℕ → BitVec 16
  | .head =>
      let nextNext := tbl.indexNext (tbl.indexNext entry)
      if nextNext ≠ 0 ∧ nextNext ≥ tbl.tableEntries then
        update tbl.indexExpnTableMeta (nextNext - tbl.tableEntries)
          (BitVec.ofNat 16 entry)
      else tbl.indexExpnTableMeta
  | .middle =>
      update
        (update tbl.indexExpnTableMeta (tbl.indexNext entry - tbl.tableEntries)
          (tbl.indexExpnTableMeta (entry - tbl.tableEntries)))
        (entry - tbl.tableEntries) 0
  | _ => tbl.indexExpnTableMeta

def movedRules (tbl : IpaNatIp4TableCache) (rules : ℕ → IpaNatRule) (indxEntry : ℕ) :
    DelType → ℕ → IpaNatRule
  | .head =>
      let moved := (tbl.indexTable (tbl.indexNext indxEntry)).tblEntry
      update rules moved
        (updateSwSpecParams (rules moved) true (BitVec.ofNat 16 indxEntry))
  | _ => rules

def unlinked (tbl : IpaNatIp4TableCache) (entry indxEntry : ℕ) (rulePos indxRulePos : DelType) :
    IpaNatIp4TableCache :=
  { tbl with
    ipv4Rules := movedRules tbl (deletedRules tbl entry rulePos) indxEntry indxRulePos
    indexTable := deletedIndex tbl indxEntry indxRulePos
    indexExpnTableMeta := deletedMeta tbl indxEntry indxRulePos }

section Commands

variable {entry indxEntry : ℕ}

inductive PosOk (tbl : IpaNatIp4TableCache) (next : ℕ → ℕ) (entry : ℕ) : DelType → Prop where
  | onlyOne (isBase : tbl.IsBaseSlot entry) (ended : next entry = 0) : PosOk tbl next entry .onlyOne
  | head (isBase : tbl.IsBaseSlot entry) (goesOn : next entry ≠ 0) : PosOk tbl next entry .head
  | middle (isExpn : tbl.IsExpnSlot entry) (goesOn : next entry ≠ 0) :
      PosOk tbl next entry .middle
  | last (isExpn : tbl.IsExpnSlot entry) (ended : next entry = 0) : PosOk tbl next entry .last

theorem ipaNatiFindRulePos_base (isBase : tbl.IsBaseSlot entry) :
    PosOk tbl tbl.ruleNext entry (ipaNatiFindRulePos tbl false entry) := by
  by_cases ended : tbl.ruleNext entry = 0
  · have pos : ipaNatiFindRulePos tbl false entry = .onlyOne := if_pos ended
    rw [pos]
    exact .onlyOne isBase ended
  · have pos : ipaNatiFindRulePos tbl false entry = .head := if_neg ended
    rw [pos]
    exact .head isBase ended

theorem ipaNatiFindRulePos_expn (isExpn : tbl.IsExpnSlot entry) :
    PosOk tbl tbl.ruleNext entry (ipaNatiFindRulePos tbl true entry) := by
  by_cases ended : tbl.ruleNext entry = 0
  · have pos : ipaNatiFindRulePos tbl true entry = .last := if_pos ended
    rw [pos]
    exact .last isExpn ended
  · have pos : ipaNatiFindRulePos tbl true entry = .middle := if_neg ended
    rw [pos]
    exact .middle isExpn ended

theorem ipaNatiFindIndexRulePos_ok (isSlot : tbl.IsSlot entry) :
    PosOk tbl tbl.indexNext entry (ipaNatiFindIndexRulePos tbl entry) := by
  unfold ipaNatiFindIndexRulePos
  rcases isSlot with isBase | isExpn
  · rw [if_neg (Nat.not_le.mpr isBase.2)]
    split
    · exact .onlyOne isBase ‹_›
    · exact .head isBase ‹_›
  · rw [if_pos isExpn.1.le]
    split
    · exact .last isExpn ‹_›
    · exact .middle isExpn ‹_›

theorem reorderCmds_eq {ruleCmd : IpaIocNatDmaOne} {indexCmds : List IpaIocNatDmaOne}
    (ofRules : ruleCmd.baseAddr = .baseTbl ∨ ruleCmd.baseAddr = .expnTbl)
    (notNil : indexCmds ≠ [])
    (ofIndex : ∀ cmd ∈ indexCmds, cmd.baseAddr = .indxTbl ∨ cmd.baseAddr = .indexExpnTbl) :
    reorderCmds (ruleCmd :: indexCmds) = indexCmds ++ [ruleCmd] := by
  cases indexCmds with
  | nil => exact absurd rfl notNil
  | cons first rest =>
      have notIndex : ¬(ruleCmd.baseAddr = .indxTbl ∨ ruleCmd.baseAddr = .indexExpnTbl) := by
        rcases ofRules with isBase | isExpn <;> simp [*]
      have start : (ruleCmd :: first :: rest).findIdx (fun cmd =>
          decide (cmd.baseAddr = .indxTbl ∨ cmd.baseAddr = .indexExpnTbl)) = 1 := by
        rw [findIdx_cons, findIdx_cons, decide_eq_false notIndex,
          decide_eq_true (ofIndex first mem_cons_self)]
        rfl
      unfold reorderCmds
      simp only [start]
      simp

theorem delRuleCmd_baseAddr (rulePos : DelType) :
    (delRuleCmd tbl entry rulePos).baseAddr = .baseTbl ∨
      (delRuleCmd tbl entry rulePos).baseAddr = .expnTbl := by
  have next : ∀ prev data, (ruleNextCmd tbl prev data).baseAddr = .baseTbl ∨
      (ruleNextCmd tbl prev data).baseAddr = .expnTbl := by
    intro prev data
    unfold ruleNextCmd
    split <;> simp
  cases rulePos with
  | onlyOne | head => exact Or.inl rfl
  | middle | last => exact next _ _

theorem delIndexCmds_baseAddr (indxRulePos : DelType) :
    ∀ cmd ∈ delIndexCmds tbl indxEntry indxRulePos,
      cmd.baseAddr = .indxTbl ∨ cmd.baseAddr = .indexExpnTbl := by
  have next : ∀ prev data, (indexNextCmd tbl prev data).baseAddr = .indxTbl ∨
      (indexNextCmd tbl prev data).baseAddr = .indexExpnTbl := by
    intro prev data
    unfold indexNextCmd
    split <;> simp
  cases indxRulePos with
  | onlyOne | head => simp [delIndexCmds]
  | middle | last => simpa [delIndexCmds] using next _ _

theorem delIndexCmds_ne_nil (indxRulePos : DelType) :
    delIndexCmds tbl indxEntry indxRulePos ≠ [] := by
  cases indxRulePos <;> simp [delIndexCmds]

theorem copy_halfwords (target source : IpaNatIndxTblRule) :
    writeHalfword
      (writeHalfword target natIndexRuleNatIndexFieldOffset
        (read16BitFieldValue source .indxTblTblEntryField))
      natIndexRuleNextFieldOffset (read16BitFieldValue source .indxTblNextIndexFiled) = source := by
  rw [write_natIndex, write_next, setHi, lo_setLo]
  exact ofHalves_hi_lo source

theorem Geometry.applyDma_indexField (geometry : tbl.Geometry) (field : ℕ) {data : BitVec 16}
    (entryLt : indxEntry < tbl.tableEntries) (fieldLt : field < natIndexTableEntrySize) :
    tbl.applyDma
        { baseAddr := .indxTbl
          offset := BitVec.ofNat 32 (ipaNatiGetIndexEntryOffset tbl indxEntry + field)
          data } =
      tbl.setIndex indxEntry
        (writeHalfword (tbl.indexTable indxEntry) field data) := by
  unfold ipaNatiGetIndexEntryOffset
  rw [geometry.offset_zero, Nat.add_zero]
  exact geometry.applyDma_index entryLt fieldLt

variable {rulePos : DelType} {indxRulePos : DelType}

theorem Geometry.applyDma_delRuleCmd (geometry : tbl.Geometry)
    (index : ℕ → IpaNatIndxTblRule) (pos : PosOk tbl tbl.ruleNext entry rulePos)
    (prevSlot : tbl.IsExpnSlot entry → tbl.IsSlot (tbl.rulePrev entry)) :
    let tbl' := { tbl with indexTable := index }
    tbl'.applyDma (delRuleCmd tbl entry rulePos) =
      match rulePos with
      | .onlyOne => tbl'.setRule entry
          ((tbl.ipv4Rules entry).writeHalfword natRuleFlagFieldOffset natFlagDisableBitMask)
      | .head => tbl'.setRule entry
          ((tbl.ipv4Rules entry).writeHalfword natRuleProtoFieldOffset natInvalidProtoFieldValue)
      | .middle => tbl'.setRule (tbl.rulePrev entry)
          ((tbl.ipv4Rules (tbl.rulePrev entry)).writeHalfword natRuleNextFieldOffset
            (BitVec.ofNat 16 (tbl.ruleNext entry)))
      | .last => tbl'.setRule (tbl.rulePrev entry)
          ((tbl.ipv4Rules (tbl.rulePrev entry)).writeHalfword natRuleNextFieldOffset 0) := by
  intro tbl'
  have geometry' : tbl'.Geometry := ⟨geometry.valid, geometry.offset_zero, geometry.base_pos,
    geometry.base_fits, geometry.expn_fits⟩
  cases pos with
  | onlyOne isBase ended | head isBase goesOn =>
      simp only [delRuleCmd, ipaNatiGetEntryOffset, geometry.offset_zero, Nat.add_zero]
      exact geometry'.applyDma_base isBase.2 (by decide)
  | middle isExpn goesOn =>
      simp only [delRuleCmd, read_nextIndex]
      exact geometry'.applyDma_ruleNextCmd (prevSlot isExpn).lt
  | last isExpn ended =>
      simp only [delRuleCmd]
      exact geometry'.applyDma_ruleNextCmd (prevSlot isExpn).lt

theorem Geometry.applyDma_delIndexCmds (geometry : tbl.Geometry)
    (pos : PosOk tbl tbl.indexNext indxEntry indxRulePos)
    (prevSlot : tbl.IsExpnSlot indxEntry → tbl.IsSlot (tbl.indexPrev indxEntry))
    (nextExpn : tbl.indexNext indxEntry ≠ 0 → tbl.IsExpnSlot (tbl.indexNext indxEntry)) :
    (delIndexCmds tbl indxEntry indxRulePos).foldl applyDma tbl =
      match indxRulePos with
      | .onlyOne => tbl.setIndex indxEntry (writeHalfword (tbl.indexTable indxEntry)
            natIndexRuleNatIndexFieldOffset 0)
      | .head => tbl.setIndex indxEntry (tbl.indexTable (tbl.indexNext indxEntry))
      | .middle => tbl.setIndex (tbl.indexPrev indxEntry)
          (writeHalfword (tbl.indexTable (tbl.indexPrev indxEntry))
            natIndexRuleNextFieldOffset (BitVec.ofNat 16 (tbl.indexNext indxEntry)))
      | .last => tbl.setIndex (tbl.indexPrev indxEntry)
          (writeHalfword (tbl.indexTable (tbl.indexPrev indxEntry))
            natIndexRuleNextFieldOffset 0) := by
  cases pos with
  | onlyOne isBase ended =>
      simp only [delIndexCmds, foldl_cons, foldl_nil]
      exact geometry.applyDma_indexField _ isBase.2 (by decide)
  | head isBase goesOn =>
      have nextEq : tbl.tableEntries +
          sub16 (nextIndex (tbl.indexTable indxEntry)) tbl.tableEntries =
          tbl.indexNext indxEntry := geometry.expn_sub (nextExpn goesOn)
      simp only [delIndexCmds, foldl_cons, foldl_nil, nextEq]
      rw [geometry.applyDma_indexField natIndexRuleNatIndexFieldOffset isBase.2 (by decide)]
      refine ((geometry.setIndex indxEntry _).applyDma_indexField _ isBase.2 (by decide)).trans ?_
      simp only [IpaNatIp4TableCache.setIndex, update_self, Function.update_idem,
        copy_halfwords]
  | middle isExpn goesOn =>
      have data : read16BitFieldValue (tbl.indexTable indxEntry) .indxTblNextIndexFiled =
          BitVec.ofNat 16 (tbl.indexNext indxEntry) := by
        simp [indexNext, nextIndex]
      simp only [delIndexCmds, foldl_cons, foldl_nil, data]
      exact geometry.applyDma_indexNextCmd (prevSlot isExpn).lt
  | last isExpn ended =>
      simp only [delIndexCmds, foldl_cons, foldl_nil]
      exact geometry.applyDma_indexNextCmd (prevSlot isExpn).lt

structure Neighbours (tbl : IpaNatIp4TableCache) (next prev : ℕ → ℕ) (entry : ℕ) : Prop where
  prev_slot : tbl.IsExpnSlot entry → tbl.IsSlot (prev entry)
  prev_ne : tbl.IsExpnSlot entry → prev entry ≠ entry
  next_expn : next entry ≠ 0 → tbl.IsExpnSlot (next entry)

theorem neighbours_of_table {next prev : ℕ → ℕ} {used : ℕ → Prop} {chain : ℕ → List ℕ}
    (table : ChainedTable tbl.IsBaseSlot tbl.IsExpnSlot next prev 0 used chain)
    (isSlot : tbl.IsSlot entry) (entryUsed : used entry) :
    Neighbours tbl next prev entry where
  prev_slot isExpn := (table.prev_slot isExpn entryUsed).1
  prev_ne isExpn := (table.prev_slot isExpn entryUsed).2
  next_expn goesOn :=
    (table.next_slot (isSlot.imp_right fun isExpn => ⟨isExpn, entryUsed⟩) goesOn).1

variable (geometry : tbl.Geometry)

include geometry

theorem Geometry.finishRuleDelete_eq (index : ℕ → IpaNatIndxTblRule)
     (pos : PosOk tbl tbl.ruleNext entry rulePos)
    (near : Neighbours tbl tbl.ruleNext tbl.rulePrev entry) :
    finishRuleDelete ({ tbl with indexTable := index }.applyDma (delRuleCmd tbl entry rulePos))
      entry rulePos =
      { tbl with indexTable := index, ipv4Rules := deletedRules tbl entry rulePos } := by
  rw [geometry.applyDma_delRuleCmd index pos near.prev_slot]
  cases pos with
  | onlyOne isBase ended | head isBase goesOn | last isExpn ended =>
      simp [finishRuleDelete, deletedRules, IpaNatIp4TableCache.setRule]
  | middle isExpn goesOn =>
      have notPrev : entry ≠ tbl.rulePrev entry := (near.prev_ne isExpn).symm
      have nextEq : tbl.tableEntries + sub16 (tbl.ipv4Rules entry).nextIndex tbl.tableEntries =
          tbl.ruleNext entry := geometry.expn_sub (near.next_expn goesOn)
      have prevData : read16BitFieldValue (tbl.ipv4Rules entry).swSpecParams
          .swSpecParamPrevIndexField = BitVec.ofNat 16 (tbl.rulePrev entry) := by
        simp [rulePrev, IpaNatRule.prevIndex]
      simp [finishRuleDelete, deletedRules, IpaNatIp4TableCache.setRule,
        update_of_ne notPrev, nextEq, prevData]

theorem Geometry.finishIndexDelete_eq
    (rules : ℕ → IpaNatRule) (pos : PosOk tbl tbl.indexNext indxEntry indxRulePos)
    (near : Neighbours tbl tbl.indexNext tbl.indexPrev indxEntry) :
    finishIndexDelete
        { (delIndexCmds tbl indxEntry indxRulePos).foldl applyDma tbl with ipv4Rules := rules }
        indxEntry indxRulePos
        (tbl.tableEntries + sub16 (tbl.indexNext indxEntry) tbl.tableEntries) =
      { tbl with
        ipv4Rules := movedRules tbl rules indxEntry indxRulePos
        indexTable := deletedIndex tbl indxEntry indxRulePos
        indexExpnTableMeta := deletedMeta tbl indxEntry indxRulePos } := by
  rw [geometry.applyDma_delIndexCmds pos near.prev_slot near.next_expn]
  cases pos with
  | onlyOne isBase ended | last isExpn ended =>
      simp [finishIndexDelete, deletedIndex, deletedMeta, movedRules,
        IpaNatIp4TableCache.setIndex]
  | head isBase goesOn =>
      have nextExpn := near.next_expn goesOn
      have nextNe : tbl.indexNext indxEntry ≠ indxEntry := by
        intro isSelf
        exact isBase.not_expn (isSelf ▸ nextExpn)
      rw [geometry.expn_sub nextExpn]
      have atNext : nextIndex (tbl.indexTable (tbl.indexNext indxEntry)) =
          tbl.indexNext (tbl.indexNext indxEntry) := rfl
      simp only [finishIndexDelete, deletedIndex, deletedMeta, movedRules, if_true,
        IpaNatIp4TableCache.setIndex, IpaNatIp4TableCache.setMeta, IpaNatIp4TableCache.setRule,
        update_of_ne nextNe, atNext]
      by_cases hasNextNext : tbl.indexNext (tbl.indexNext indxEntry) ≠ 0 ∧
          tbl.indexNext (tbl.indexNext indxEntry) ≥ tbl.tableEntries
      · simp only [if_pos hasNextNext, update_of_ne nextNe.symm, update_self]
      · simp only [if_neg hasNextNext, update_of_ne nextNe.symm, update_self]
  | middle isExpn goesOn =>
      have notPrev : indxEntry ≠ tbl.indexPrev indxEntry := (near.prev_ne isExpn).symm
      have nextExpn := near.next_expn goesOn
      have atEntry : nextIndex (tbl.indexTable indxEntry) =
          tbl.indexNext indxEntry := rfl
      simp [finishIndexDelete, deletedIndex, deletedMeta, movedRules,
        IpaNatIp4TableCache.setIndex, IpaNatIp4TableCache.setMeta,
        update_of_ne notPrev, atEntry, nextExpn.1.le]

theorem Geometry.ipaNatiPostDelDmaCmd_eq
    (entryUsed : tbl.RuleUsed entry) (indxEq : (tbl.ipv4Rules entry).indxTblEntry = indxEntry)
    (pos : PosOk tbl tbl.ruleNext entry rulePos)
    (indexPos : PosOk tbl tbl.indexNext indxEntry (ipaNatiFindIndexRulePos tbl indxEntry))
    (near : Neighbours tbl tbl.ruleNext tbl.rulePrev entry)
    (indexNear : Neighbours tbl tbl.indexNext tbl.indexPrev indxEntry) :
    ipaNatiPostDelDmaCmd tbl entry rulePos =
      some (unlinked tbl entry indxEntry rulePos (ipaNatiFindIndexRulePos tbl indxEntry)) := by
  subst indxEq
  have isolated := fun rules => geometry.finishIndexDelete_eq rules indexPos indexNear
  have onlyIndex : ∀ indxRulePos,
      PosOk tbl tbl.indexNext (tbl.ipv4Rules entry).indxTblEntry indxRulePos →
      ∃ index, (delIndexCmds tbl (tbl.ipv4Rules entry).indxTblEntry indxRulePos).foldl
        applyDma tbl =
        { tbl with indexTable := index } := by
    intro indxRulePos isPos
    rw [geometry.applyDma_delIndexCmds isPos indexNear.prev_slot indexNear.next_expn]
    cases isPos <;> exact ⟨_, rfl⟩
  obtain ⟨index, indexEq⟩ := onlyIndex _ indexPos
  rw [indexEq] at isolated
  unfold ipaNatiPostDelDmaCmd
  rw [if_neg entryUsed]
  simp only
  rw [reorderCmds_eq (delRuleCmd_baseAddr rulePos) (delIndexCmds_ne_nil _)
    (delIndexCmds_baseAddr _), foldl_append, indexEq, foldl_cons, foldl_nil,
    geometry.finishRuleDelete_eq index pos near]
  exact congrArg some (isolated _)

end Commands

end IpaNatIp4TableCache

end HtcPme.IpaNat
