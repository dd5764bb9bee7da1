import HtcPme.IpaNat.WellFormed
import Mathlib.Data.Finset.Card
import Mathlib.Data.List.NodupEquivFin

/-!
# Inserting a rule

`ipa_nati_add_ipv4_rule` either fails and changes nothing, or stores the rule and its index entry at
their places and returns a fresh handle.
-/

namespace HtcPme.IpaNat

open Halfword List

namespace IpaNatIp4TableCache

variable {tbl tbl' : IpaNatIp4TableCache} {ruleChain indexChain : ℕ → List ℕ}

variable {nodes : List ℕ}

theorem followChain_of_path {nextOf next : ℕ → ℕ} {start fuel : ℕ}
    (path : Chain.Path next start nodes 0) (nodesNe : 0 ∉ nodes) (distinct : nodes.Nodup)
    (agree : ∀ node ∈ nodes, nextOf node = next node) (enough : nodes.length ≤ fuel) :
    followChain nextOf fuel start (next start) = some (.last (nodes.getLastD start)) := by
  induction nodes generalizing start fuel with
  | nil =>
      rw [Chain.path_nil] at path
      unfold followChain
      simp [path]
  | cons first rest ih =>
      rw [Chain.path_cons] at path
      rw [nodup_cons] at distinct
      rw [mem_cons, not_or] at nodesNe
      obtain ⟨fuel, rfl⟩ : ∃ less, fuel = less + 1 := ⟨fuel - 1, by simp at enough; omega⟩
      have stepEq : nextOf first = next first := agree first (by simp)
      have notSelf : first ≠ next first := by
        intro selfLinked
        rw [path.2.next_start] at selfLinked
        cases rest with
        | nil => exact nodesNe.1 selfLinked.symm
        | cons second others =>
            simp only [headD_cons] at selfLinked
            exact distinct.1 (by simp [selfLinked])
      unfold followChain
      rw [path.1, if_neg (Ne.symm nodesNe.1)]
      simp only [stepEq, if_neg notSelf]
      rw [ih path.2 nodesNe.2 distinct.2
        (fun node nodeMem => agree node (mem_cons_of_mem _ nodeMem))
        (by simp at enough; omega), getLastD_cons]

theorem chain_length_lt (distinct : nodes.Nodup)
    (slots : ∀ node ∈ nodes, tbl.IsExpnSlot node) (positive : 0 < tbl.tableEntries) :
    nodes.length < tbl.tableEntries + tbl.expnTableEntries := by
  have bound : (0 :: nodes).length ≤ tbl.tableEntries + tbl.expnTableEntries := by
    have distinct0 : (0 :: nodes).Nodup :=
      nodup_cons.mpr ⟨fun zeroMem => not_isExpnSlot_zero (slots 0 zeroMem), distinct⟩
    have sub : (0 :: nodes) ⊆ range (tbl.tableEntries + tbl.expnTableEntries) := by
      intro node nodeMem
      rw [mem_range]
      rcases mem_cons.mp nodeMem with rfl | inNodes
      · omega
      · exact (slots node inNodes).2
    simpa using (distinct0.subperm sub).length_le
  simpa [Nat.succ_le_iff] using bound

theorem expnFreeEntry_spec {isFree : ℕ → Bool} {size : ℕ}
    (found : expnFreeEntry isFree size ≠ 0) :
    0 < expnFreeEntry isFree size ∧ expnFreeEntry isFree size < size ∧
      isFree (expnFreeEntry isFree size) = true := by
  unfold expnFreeEntry at found ⊢
  cases search : (range' 1 (size - 1)).find? isFree with
  | none => simp [search] at found
  | some cnt =>
      have inRange := mem_of_find?_eq_some search
      have isFound := find?_some search
      rw [mem_range'_1] at inRange
      simp only [Option.getD_some]
      exact ⟨by omega, by omega, isFound⟩

abbrev RulePlace (tbl : IpaNatIp4TableCache) (ruleChain : ℕ → List ℕ) :=
  ChainedTable.Place tbl.IsBaseSlot tbl.IsExpnSlot 0 tbl.RuleUsed ruleChain

abbrev IndexPlace (tbl : IpaNatIp4TableCache) (indexChain : ℕ → List ℕ) :=
  ChainedTable.Place tbl.IsBaseSlot tbl.IsExpnSlot 0 tbl.IndexUsed indexChain

section Place

variable {used : ℕ → Prop} {chain : ℕ → List ℕ} {base entry pred : ℕ} {next prev : ℕ → ℕ}

theorem place_entry_isSlot
    (place : ChainedTable.Place tbl.IsBaseSlot tbl.IsExpnSlot 0 used chain base entry pred) :
    tbl.IsSlot entry := by
  cases place with
  | inBase isBase free => exact Or.inl isBase
  | behind _ isBase baseUsed isOverflow free => exact Or.inr isOverflow

theorem place_free
    (place : ChainedTable.Place tbl.IsBaseSlot tbl.IsExpnSlot 0 used chain base entry pred) :
    ¬used entry := by
  cases place with
  | inBase isBase free => exact free
  | behind _ isBase baseUsed isOverflow free => exact free

theorem place_pred
    (table : ChainedTable tbl.IsBaseSlot tbl.IsExpnSlot next prev 0 used chain)
    (place : ChainedTable.Place tbl.IsBaseSlot tbl.IsExpnSlot 0 used chain base entry pred) :
    pred = 0 ∨ tbl.IsSlot pred ∧ used pred ∧ tbl.IsExpnSlot entry := by
  cases place with
  | inBase isBase free => exact Or.inl rfl
  | behind _ isBase baseUsed isOverflow free =>
      right
      rcases mem_cons.mp (Chain.getLastD_mem base (chain base)) with isHead | inChain
      · rw [isHead]
        exact ⟨Or.inl isBase, baseUsed, isOverflow⟩
      · exact ⟨Or.inr (table.overflow_of_mem base isBase _ inChain),
          table.used_of_mem base isBase _ inChain, isOverflow⟩

theorem place_pred_ne
    (table : ChainedTable tbl.IsBaseSlot tbl.IsExpnSlot next prev 0 used chain)
    (place : ChainedTable.Place tbl.IsBaseSlot tbl.IsExpnSlot 0 used chain base entry pred) :
    pred ≠ entry := by
  rcases place_pred table place with isNull | ⟨-, predUsed, -⟩
  · rw [isNull]
    exact (place_entry_isSlot place).pos.symm
  · rintro rfl
    exact place_free place predUsed

theorem place_base
    (place : ChainedTable.Place tbl.IsBaseSlot tbl.IsExpnSlot 0 used chain base entry pred) :
    tbl.IsBaseSlot base := by
  cases place with
  | inBase isBase free => exact isBase
  | behind _ isBase baseUsed isOverflow free => exact isBase

end Place

section Generate

variable {used : ℕ → Prop} {chain : ℕ → List ℕ} {base : ℕ} {next prev : ℕ → ℕ}

theorem followChain_chain (geometry : tbl.Geometry)
    (table : ChainedTable tbl.IsBaseSlot tbl.IsExpnSlot next prev 0 used chain)
    (isBase : tbl.IsBaseSlot base) :
    followChain (fun nxtIndx => next (tbl.tableEntries + sub16 nxtIndx tbl.tableEntries))
      (tbl.tableEntries + tbl.expnTableEntries) base (next base) =
        some (.last ((chain base).getLastD base)) := by
  have distinct := table.forest.nodup base isBase
  refine followChain_of_path (table.forest.path base isBase) (table.forest.node_ne_null base isBase)
    distinct ?_ ?_
  · intro node nodeMem
    rw [geometry.expn_sub (table.overflow_of_mem base isBase node nodeMem)]
  · exact (chain_length_lt distinct (table.overflow_of_mem base isBase) geometry.base_pos).le

theorem expnFreeEntry_place {isFree : ℕ → Bool} (isBase : tbl.IsBaseSlot base)
    (baseUsed : used base)
    (free_iff : ∀ cnt, isFree cnt = true → ¬used (tbl.tableEntries + cnt))
    (found : expnFreeEntry isFree tbl.expnTableEntries ≠ 0) :
    ChainedTable.Place tbl.IsBaseSlot tbl.IsExpnSlot 0 used chain base
      (expnFreeEntry isFree tbl.expnTableEntries + tbl.tableEntries)
      ((chain base).getLastD base) := by
  obtain ⟨positive, inSize, isFound⟩ := expnFreeEntry_spec found
  refine .behind _ isBase baseUsed ?_ ?_
  · unfold IsExpnSlot
    omega
  · rw [Nat.add_comm]
    exact free_iff _ isFound

end Generate

theorem ipaNatiGenerateTblRule_spec (geometry : tbl.Geometry)
    (chains : tbl.ChainsOk ruleChain indexChain) (rule : IpaNatIpv4Rule) :
    ∃ entry swRule, ipaNatiGenerateTblRule tbl rule = some (entry, swRule) ∧
      (entry = 0 ∨ ∃ pred, tbl.RulePlace ruleChain (tbl.dstSlot rule) entry pred ∧
        swRule = { swRuleOf tbl rule with prevIndex := BitVec.ofNat 16 pred }) := by
  unfold ipaNatiGenerateTblRule
  by_cases free : (tbl.ipv4Rules (tbl.dstSlot rule)).enable = 0
  · refine ⟨tbl.dstSlot rule, swRuleOf tbl rule, by simp [free], ?_⟩
    by_cases many : 1 < tbl.tableEntries
    · right
      exact ⟨0, .inBase (geometry.isBaseSlot_dstSlot rule many) (by simpa [RuleUsed] using free),
        rfl⟩
    · left
      exact geometry.dstSlot_eq_zero rule (by have := geometry.base_pos; omega)
  · have many : 1 < tbl.tableEntries := by
      -- With a single base entry the hash is 0, and slot 0 is never used.
      by_contra single
      rw [geometry.dstSlot_eq_zero rule (by have := geometry.base_pos; omega)] at free
      exact (chains.rule_only_slots 0 free).pos rfl
    have isBase := geometry.isBaseSlot_dstSlot rule many
    have search := followChain_chain geometry chains.rules isBase
    simp only [ruleNext] at search
    simp only [free, if_false, search]
    by_cases full : ipaNatiExpnTblFreeEntry tbl = invalidNatEntry
    · exact ⟨_, _, if_pos full, Or.inl rfl⟩
    · refine ⟨_, _, if_neg full, Or.inr ⟨_, ?_, rfl⟩⟩
      refine expnFreeEntry_place isBase free ?_ full
      intro cnt isFree
      simpa [RuleUsed] using isFree

theorem ipaNatiGenerateIndexRule_spec (geometry : tbl.Geometry)
    (chains : tbl.ChainsOk ruleChain indexChain) (many : 1 < tbl.tableEntries)
    (rule : IpaNatIpv4Rule) (swRule : IpaNatIndxTblSwRule) :
    ∃ entry swRule', ipaNatiGenerateIndexRule tbl rule swRule = some (entry, swRule') ∧
      (entry = 0 ∨ ∃ pred, tbl.IndexPlace indexChain (tbl.srcSlot rule) entry pred ∧
        swRule' = { swRule with prevIndex := BitVec.ofNat 16 pred }) := by
  unfold ipaNatiGenerateIndexRule
  have isBase := geometry.isBaseSlot_srcSlot rule many
  by_cases free : IpaNatIndxTblRule.tblEntry (tbl.indexTable (tbl.srcSlot rule)) = 0
  · refine ⟨_, _, if_pos free, Or.inr ⟨0, .inBase isBase ?_, rfl⟩⟩
    simpa [IndexUsed] using free
  · have search := followChain_chain geometry chains.index isBase
    simp only [indexNext] at search
    simp only [free, if_false, search]
    by_cases full : ipaNatiIndexExpnGetFreeEntry tbl = invalidNatEntry
    · exact ⟨_, _, if_pos full, Or.inl rfl⟩
    · rw [if_neg full]
      have place : tbl.IndexPlace indexChain (tbl.srcSlot rule)
          (ipaNatiIndexExpnGetFreeEntry tbl + tbl.tableEntries)
          ((indexChain (tbl.srcSlot rule)).getLastD (tbl.srcSlot rule)) := by
        refine expnFreeEntry_place isBase free ?_ full
        intro cnt isFree
        simpa [IndexUsed] using isFree
      have predNe := place_pred_ne chains.index place
      exact ⟨_, _, if_neg predNe, Or.inr ⟨_, place, rfl⟩⟩

structure SameLayout (tbl tbl' : IpaNatIp4TableCache) : Prop where
  valid : tbl'.valid = tbl.valid
  publicAddr : tbl'.publicAddr = tbl.publicAddr
  tblAddrOffset : tbl'.tblAddrOffset = tbl.tblAddrOffset
  tableEntries : tbl'.tableEntries = tbl.tableEntries
  expnTableEntries : tbl'.expnTableEntries = tbl.expnTableEntries

namespace SameLayout

theorem refl (tbl : IpaNatIp4TableCache) : SameLayout tbl tbl := ⟨rfl, rfl, rfl, rfl, rfl⟩

variable (layout : SameLayout tbl tbl')

include layout

theorem trans {last : IpaNatIp4TableCache}
    (layout' : SameLayout tbl' last) : SameLayout tbl last where
  valid := layout'.valid.trans layout.valid
  publicAddr := layout'.publicAddr.trans layout.publicAddr
  tblAddrOffset := layout'.tblAddrOffset.trans layout.tblAddrOffset
  tableEntries := layout'.tableEntries.trans layout.tableEntries
  expnTableEntries := layout'.expnTableEntries.trans layout.expnTableEntries

theorem geometry (geometry : tbl.Geometry) : tbl'.Geometry where
  valid := layout.valid.trans geometry.valid
  offset_zero := layout.tblAddrOffset.trans geometry.offset_zero
  base_pos := by rw [layout.tableEntries]; exact geometry.base_pos
  base_fits := by rw [layout.tableEntries]; exact geometry.base_fits
  expn_fits := by rw [layout.expnTableEntries]; exact geometry.expn_fits

theorem isBaseSlot : tbl'.IsBaseSlot = tbl.IsBaseSlot := by
  unfold IsBaseSlot
  rw [layout.tableEntries]

theorem isExpnSlot : tbl'.IsExpnSlot = tbl.IsExpnSlot := by
  unfold IsExpnSlot
  rw [layout.tableEntries, layout.expnTableEntries]

theorem isSlot : tbl'.IsSlot = tbl.IsSlot := by
  unfold IsSlot
  rw [layout.isBaseSlot, layout.isExpnSlot]

theorem dstSlot : tbl'.dstSlot = tbl.dstSlot := by
  unfold IpaNatIp4TableCache.dstSlot hashSize
  rw [layout.tableEntries]

theorem srcSlot : tbl'.srcSlot = tbl.srcSlot := by
  unfold IpaNatIp4TableCache.srcSlot hashSize
  rw [layout.tableEntries]

end SameLayout

/-- The rule table after a rule was copied in, linked behind `pred` and enabled. -/
structure RuleStored (rules rules' : ℕ → IpaNatRule) (entry pred indxEntry : ℕ)
    (content : RuleContent) : Prop where
  next_entry : (rules' entry).nextIndex = 0
  next_pred : pred ≠ 0 → (rules' pred).nextIndex = entry
  next_other : ∀ slot, slot ≠ entry → slot ≠ pred → (rules' slot).nextIndex = (rules slot).nextIndex
  prev_entry : (rules' entry).prevIndex = pred
  prev_other : ∀ slot, slot ≠ entry → (rules' slot).prevIndex = (rules slot).prevIndex
  enable_entry : (rules' entry).enable ≠ 0
  enable_other : ∀ slot, slot ≠ entry → (rules' slot).enable = (rules slot).enable
  indx_entry : (rules' entry).indxTblEntry = indxEntry
  indx_other : ∀ slot, slot ≠ entry → (rules' slot).indxTblEntry = (rules slot).indxTblEntry
  content_entry : (rules' entry).content = content
  content_other : ∀ slot, slot ≠ entry → (rules' slot).content = (rules slot).content

/-- The index table after an entry for `tblEntry` was copied in and linked behind `pred`. -/
structure IndexStored (index index' : ℕ → IpaNatIndxTblRule) (entry pred tblEntry : ℕ) :
    Prop where
  next_entry : (index' entry).nextIndex = 0
  next_pred : pred ≠ 0 → (index' pred).nextIndex = entry
  next_other : ∀ slot, slot ≠ entry → slot ≠ pred → (index' slot).nextIndex = (index slot).nextIndex
  tbl_entry : (index' entry).tblEntry = tblEntry
  tbl_other : ∀ slot, slot ≠ entry → (index' slot).tblEntry = (index slot).tblEntry

structure Stored (tbl tbl' : IpaNatIp4TableCache) (rule : IpaNatIpv4Rule)
    (entry pred indxEntry indxPred : ℕ) : Prop where
  layout : SameLayout tbl tbl'
  ruleIds : tbl'.ruleIdArray = tbl.ruleIdArray
  rules : RuleStored tbl.ipv4Rules tbl'.ipv4Rules entry pred indxEntry
    (clientContent tbl.publicAddr rule)
  index : IndexStored tbl.indexTable tbl'.indexTable indxEntry indxPred entry
  indexPrev_entry : indxPred ≠ 0 → tbl'.indexPrev indxEntry = indxPred
  indexPrev_other : ∀ slot, slot ≠ indxEntry → tbl'.indexPrev slot = tbl.indexPrev slot

section Stores

variable {entry pred indxEntry : ℕ}

section

variable (geometry : tbl.Geometry)

include geometry

theorem Geometry.writeNextIndex_rule
    (entryLt : entry < tbl.tableEntries + tbl.expnTableEntries) (value : ℕ) :
    (if entry < tbl.tableEntries then
      ipaNatiWriteNextIndex tbl .baseTbl value
        (ipaNatiGetEntryOffset tbl entry + natRuleNextFieldOffset)
    else
      ipaNatiWriteNextIndex tbl .expnTbl value
        (ipaNatiGetEntryOffset tbl (entry - tbl.tableEntries) + natRuleNextFieldOffset)) =
      tbl.setRule entry
        ((tbl.ipv4Rules entry).writeHalfword natRuleNextFieldOffset (BitVec.ofNat 16 value)) := by
  rw [← geometry.applyDma_ruleNextCmd entryLt]
  unfold ipaNatiWriteNextIndex ruleNextCmd
  by_cases inBase : entry < tbl.tableEntries
  · rw [if_pos inBase, if_neg (Nat.not_le.mpr inBase)]
  · rw [if_neg inBase, if_pos (Nat.not_lt.mp inBase)]

theorem Geometry.writeNextIndex_index
    (entryLt : entry < tbl.tableEntries + tbl.expnTableEntries) (value : ℕ) :
    (if entry < tbl.tableEntries then
      ipaNatiWriteNextIndex tbl .indxTbl value
        ((ipaNatiGetIndexEntryOffset tbl entry + natIndexRuleNextFieldOffset) % 2 ^ 16)
    else
      ipaNatiWriteNextIndex tbl .indexExpnTbl value
        ((ipaNatiGetIndexEntryOffset tbl (entry - tbl.tableEntries) +
          natIndexRuleNextFieldOffset) % 2 ^ 16)) =
      tbl.setIndex entry
        ((tbl.indexTable entry).writeHalfword natIndexRuleNextFieldOffset
          (BitVec.ofNat 16 value)) := by
  have baseFits := geometry.base_fits
  have expnFits := geometry.expn_fits
  have offset := geometry.offset_zero
  simp only [natTableEntrySize] at baseFits expnFits
  rw [← geometry.applyDma_indexNextCmd entryLt]
  unfold ipaNatiWriteNextIndex indexNextCmd ipaNatiGetIndexEntryOffset
  simp only [natIndexTableEntrySize, natIndexRuleNextFieldOffset, offset, Nat.add_zero]
  by_cases inBase : entry < tbl.tableEntries
  · rw [if_pos inBase, if_neg (Nat.not_le.mpr inBase), Nat.mod_eq_of_lt (by omega)]
  · rw [if_neg inBase, if_pos (Nat.not_lt.mp inBase), Nat.mod_eq_of_lt (by omega)]

theorem Geometry.setRule (slot : ℕ) (rule : IpaNatRule) :
    (tbl.setRule slot rule).Geometry :=
  ⟨geometry.valid, geometry.offset_zero, geometry.base_pos, geometry.base_fits, geometry.expn_fits⟩

theorem Geometry.setIndex (slot : ℕ) (rule : IpaNatIndxTblRule) :
    (tbl.setIndex slot rule).Geometry :=
  ⟨geometry.valid, geometry.offset_zero, geometry.base_pos, geometry.base_fits, geometry.expn_fits⟩

end

/-- Rule entries after one was copied in at `entry` and linked behind `pred`. -/
def linkedRules (rules : ℕ → IpaNatRule) (entry pred : ℕ) (rule : IpaNatRule) : ℕ → IpaNatRule :=
  let copied := Function.update rules entry rule
  if pred = invalidNatEntry then copied
  else Function.update copied pred
    ((copied pred).writeHalfword natRuleNextFieldOffset (BitVec.ofNat 16 entry))

/-- Index entries after one was copied in at `entry` and linked behind `pred`. -/
def linkedIndex (index : ℕ → IpaNatIndxTblRule) (entry pred : ℕ) (rule : IpaNatIndxTblRule) :
    ℕ → IpaNatIndxTblRule :=
  let copied := Function.update index entry rule
  if pred = invalidNatEntry then copied
  else Function.update copied pred
    ((copied pred).writeHalfword natIndexRuleNextFieldOffset (BitVec.ofNat 16 entry))

theorem Geometry.copyIpv4RuleToHw (geometry : tbl.Geometry) (swRule : IpaNatSwRule)
    (predLt : swRule.prevIndex.toNat < tbl.tableEntries + tbl.expnTableEntries) :
    ipaNatiCopyIpv4RuleToHw tbl swRule entry =
      { tbl with
        ipv4Rules := linkedRules tbl.ipv4Rules entry swRule.prevIndex.toNat swRule.toHw } := by
  have write := (geometry.setRule entry swRule.toHw).writeNextIndex_rule predLt entry
  unfold ipaNatiCopyIpv4RuleToHw linkedRules
  simp only
  split
  · rfl
  · exact write

theorem Geometry.copyIpv4IndexRuleToHw (geometry : tbl.Geometry) (swRule : IpaNatIndxTblSwRule)
    (predLt : swRule.prevIndex.toNat < tbl.tableEntries + tbl.expnTableEntries) :
    ipaNatiCopyIpv4IndexRuleToHw tbl swRule indxEntry =
      { tbl with
        indexTable := linkedIndex tbl.indexTable indxEntry swRule.prevIndex.toNat
          (ofHalves swRule.nextIndex swRule.tblEntry) } := by
  have write := (geometry.setIndex indxEntry (ofHalves swRule.nextIndex swRule.tblEntry)
    ).writeNextIndex_index predLt indxEntry
  unfold ipaNatiCopyIpv4IndexRuleToHw linkedIndex
  simp only
  split
  · rfl
  · exact write

theorem Geometry.postIpv4DmaCmd (geometry : tbl.Geometry)
    (entryLt : entry < tbl.tableEntries + tbl.expnTableEntries) :
    ipaNatiPostIpv4DmaCmd tbl entry =
      tbl.setRule entry
        ((tbl.ipv4Rules entry).writeHalfword natRuleFlagFieldOffset natFlagEnableBitMask) := by
  unfold ipaNatiPostIpv4DmaCmd
  rw [geometry.offset_zero, Nat.add_zero]
  split
  · exact geometry.applyDma_base (by omega) (by decide)
  · exact geometry.applyDma_expn (by omega) entryLt (by decide)

theorem ruleStored_linked (rules : ℕ → IpaNatRule) (rule : IpaNatRule) (entryLt : entry < 2 ^ 16)
    (predNe : pred ≠ entry) (next_zero : rule.nextIndex = 0) (prev_eq : rule.prevIndex = pred) :
    RuleStored rules
      (Function.update (linkedRules rules entry pred rule) entry
        ((linkedRules rules entry pred rule entry).writeHalfword natRuleFlagFieldOffset
          natFlagEnableBitMask))
      entry pred rule.indxTblEntry rule.content := by
  have entryMod : entry % 65536 = entry := Nat.mod_eq_of_lt entryLt
  have atEntry : linkedRules rules entry pred rule entry = rule := by
    unfold linkedRules
    split
    · simp
    · rw [Function.update_of_ne (Ne.symm predNe), Function.update_self]
  have atOther : ∀ slot, slot ≠ entry → slot ≠ pred →
      linkedRules rules entry pred rule slot = rules slot := by
    intro slot slotNe notPred
    unfold linkedRules
    split <;> simp [slotNe, notPred]
  have atPred : pred ≠ 0 → linkedRules rules entry pred rule pred =
      (rules pred).writeHalfword natRuleNextFieldOffset (BitVec.ofNat 16 entry) := by
    intro predPos
    unfold linkedRules
    simp [predPos, predNe]
  -- Every field but the next index is as it was, also in the predecessor.
  have kept : ∀ slot, slot ≠ entry → linkedRules rules entry pred rule slot = rules slot ∨
      linkedRules rules entry pred rule slot =
        (rules slot).writeHalfword natRuleNextFieldOffset (BitVec.ofNat 16 entry) := by
    intro slot slotNe
    unfold linkedRules
    by_cases predZero : pred = 0
    · simp [predZero, slotNe]
    · by_cases notPred : slot = pred
      · subst notPred
        simp [predZero, slotNe]
      · simp [predZero, slotNe, notPred]
  constructor
  case next_entry => simp [atEntry, next_zero]
  case next_pred =>
    intro predPos
    simp [predNe, atPred predPos, entryMod]
  case next_other =>
    intro slot slotNe notPred
    simp [slotNe, atOther slot slotNe notPred]
  case prev_entry => simp [atEntry, prev_eq]
  case enable_entry => simp [atEntry]
  case indx_entry => simp [atEntry]
  case content_entry => simp [atEntry]
  case prev_other | enable_other | indx_other | content_other =>
    intro slot slotNe
    rw [Function.update_of_ne slotNe]
    rcases kept slot slotNe with same | written
    · rw [same]
    · rw [written]
      simp

theorem indexStored_linked (index : ℕ → IpaNatIndxTblRule) {tblEntry : ℕ}
    (entryLt : entry < 2 ^ 16) (tblEntryLt : tblEntry < 2 ^ 16) (predNe : pred ≠ entry) :
    IndexStored index (linkedIndex index entry pred (ofHalves 0 (BitVec.ofNat 16 tblEntry)))
      entry pred tblEntry := by
  have entryMod : entry % 65536 = entry := Nat.mod_eq_of_lt entryLt
  have tblEntryMod : tblEntry % 65536 = tblEntry := Nat.mod_eq_of_lt tblEntryLt
  unfold linkedIndex
  by_cases predZero : pred = 0
  · constructor
    case next_entry | tbl_entry => simp [predZero, tblEntryMod]
    case next_pred => exact fun predPos => absurd predZero predPos
    case next_other =>
      intro slot slotNe notPred
      simp [predZero, slotNe]
    case tbl_other =>
      intro slot slotNe
      simp [predZero, slotNe]
  · constructor
    case next_entry | tbl_entry => simp [predZero, Ne.symm predNe, tblEntryMod]
    case next_pred => simp [predZero, predNe, entryMod]
    case next_other =>
      intro slot slotNe notPred
      simp [predZero, slotNe, notPred]
    case tbl_other =>
      intro slot slotNe
      by_cases isPred : slot = pred
      · subst isPred
        simp [predZero, slotNe]
      · simp [predZero, slotNe, isPred]

end Stores

theorem Geometry.stored {entry pred indxEntry indxPred : ℕ} (geometry : tbl.Geometry)
    (chains : tbl.ChainsOk ruleChain indexChain) (rule : IpaNatIpv4Rule)
    (place : tbl.RulePlace ruleChain (tbl.dstSlot rule) entry pred)
    (indexPlace : tbl.IndexPlace indexChain (tbl.srcSlot rule) indxEntry indxPred) :
    let recorded :=
      if indxEntry ≥ tbl.tableEntries then
        tbl.setMeta (indxEntry - tbl.tableEntries) (BitVec.ofNat 16 indxPred)
      else tbl
    let copied := ipaNatiCopyIpv4RuleToHw recorded
      { swRuleOf tbl rule with
        prevIndex := BitVec.ofNat 16 pred, indxTblEntry := BitVec.ofNat 16 indxEntry } entry
    let indexed := ipaNatiCopyIpv4IndexRuleToHw copied
      { tblEntry := BitVec.ofNat 16 entry, nextIndex := 0
        prevIndex := BitVec.ofNat 16 indxPred } indxEntry
    Stored tbl (ipaNatiPostIpv4DmaCmd indexed entry) rule entry pred indxEntry indxPred := by
  have entrySlot := place_entry_isSlot place
  have indxSlot := place_entry_isSlot indexPlace
  have predNum : (BitVec.ofNat 16 pred).toNat = pred ∧
      pred < tbl.tableEntries + tbl.expnTableEntries := by
    rcases place_pred chains.rules place with isNull | ⟨isSlot, -, -⟩
    · rw [isNull]
      exact ⟨rfl, by have := geometry.base_pos; omega⟩
    · exact ⟨geometry.toNat_ofNat isSlot, isSlot.lt⟩
  have indxPredNum : (BitVec.ofNat 16 indxPred).toNat = indxPred ∧
      indxPred < tbl.tableEntries + tbl.expnTableEntries := by
    rcases place_pred chains.index indexPlace with isNull | ⟨isSlot, -, -⟩
    · rw [isNull]
      exact ⟨rfl, by have := geometry.base_pos; omega⟩
    · exact ⟨geometry.toNat_ofNat isSlot, isSlot.lt⟩
  intro recorded copied indexed
  have recordedLayout : SameLayout tbl recorded := by
    unfold recorded
    split <;> exact ⟨rfl, rfl, rfl, rfl, rfl⟩
  have recordedSame : recorded.ipv4Rules = tbl.ipv4Rules ∧ recorded.indexTable = tbl.indexTable ∧
      recorded.ruleIdArray = tbl.ruleIdArray := by
    unfold recorded
    split <;> exact ⟨rfl, rfl, rfl⟩
  have recordedGeometry := recordedLayout.geometry geometry
  have copiedEq : copied = _ := recordedGeometry.copyIpv4RuleToHw _ (by
    rw [predNum.1, recordedLayout.tableEntries, recordedLayout.expnTableEntries]
    exact predNum.2)
  have copiedGeometry : copied.Geometry := by
    rw [copiedEq]
    exact ⟨recordedGeometry.valid, recordedGeometry.offset_zero, recordedGeometry.base_pos,
      recordedGeometry.base_fits, recordedGeometry.expn_fits⟩
  have copiedSize : copied.tableEntries = tbl.tableEntries ∧
      copied.expnTableEntries = tbl.expnTableEntries := by
    rw [copiedEq]
    exact ⟨recordedLayout.tableEntries, recordedLayout.expnTableEntries⟩
  have indexedEq : indexed = _ := copiedGeometry.copyIpv4IndexRuleToHw _ (by
    rw [indxPredNum.1, copiedSize.1, copiedSize.2]
    exact indxPredNum.2)
  have indexedGeometry : indexed.Geometry := by
    rw [indexedEq]
    exact ⟨copiedGeometry.valid, copiedGeometry.offset_zero, copiedGeometry.base_pos,
      copiedGeometry.base_fits, copiedGeometry.expn_fits⟩
  have posted := indexedGeometry.postIpv4DmaCmd (by
    rw [indexedEq]
    simp only [copiedSize.1, copiedSize.2]
    exact entrySlot.lt)
  rw [posted, indexedEq, copiedEq]
  refine ⟨⟨recordedLayout.valid, recordedLayout.publicAddr, recordedLayout.tblAddrOffset,
    recordedLayout.tableEntries, recordedLayout.expnTableEntries⟩, recordedSame.2.2, ?_, ?_, ?_, ?_⟩
  · have stored := ruleStored_linked tbl.ipv4Rules
      { swRuleOf tbl rule with
        prevIndex := BitVec.ofNat 16 pred, indxTblEntry := BitVec.ofNat 16 indxEntry :
          IpaNatSwRule }.toHw
      (geometry.lt_of_isSlot entrySlot) (place_pred_ne chains.rules place) (by simp; rfl)
      (by rw [IpaNatSwRule.prevIndex_toHw]; exact predNum.1)
    rw [content_swRuleOf, IpaNatSwRule.indxTblEntry_toHw, geometry.toNat_ofNat indxSlot] at stored
    simp only [predNum.1, recordedSame.1]
    exact stored
  · have stored := indexStored_linked tbl.indexTable (geometry.lt_of_isSlot indxSlot)
      (geometry.lt_of_isSlot entrySlot) (place_pred_ne chains.index indexPlace)
    simp only [indxPredNum.1, recordedSame.2.1]
    exact stored
  · intro predPos
    have isExpn : tbl.IsExpnSlot indxEntry := by
      rcases place_pred chains.index indexPlace with isNull | ⟨-, -, isExpn⟩
      · exact absurd isNull predPos
      · exact isExpn
    have atExpn : recorded = tbl.setMeta (indxEntry - tbl.tableEntries)
      (BitVec.ofNat 16 indxPred) :=
      if_pos isExpn.1.le
    change recorded.indexPrev indxEntry = indxPred
    rw [atExpn]
    simpa [indexPrev, setMeta] using indxPredNum.2.trans_le geometry.total_le
  · intro slot slotNe
    change recorded.indexPrev slot = tbl.indexPrev slot
    unfold recorded
    split
    · have isExpn : tbl.IsExpnSlot indxEntry := by
        rcases indxSlot with isBase | isExpn
        · exact absurd isBase.2 (by omega)
        · exact isExpn
      have otherMeta : slot - tbl.tableEntries ≠ indxEntry - tbl.tableEntries := by
        have := isExpn.1
        omega
      simp [indexPrev, setMeta, otherMeta]
    · rfl

def makeHandle (stored : IpaNatIp4TableCache) (entry : ℕ) :
    Except Errno ℕ × IpaNatIp4TableCache :=
  let (ruleHdl, tbl) := ipaNatiMakeRuleHdl stored entry
  if ruleHdl = 0 then (.error .einval, tbl) else (.ok ruleHdl, tbl)

theorem Geometry.ipaNatiAddIpv4Rule_cases (geometry : tbl.Geometry)
    (chains : tbl.ChainsOk ruleChain indexChain) (rule : IpaNatIpv4Rule) :
    ipaNatiAddIpv4Rule tbl rule = some (.error .einval, tbl) ∨
      ∃ entry pred indxEntry indxPred stored,
        tbl.RulePlace ruleChain (tbl.dstSlot rule) entry pred ∧
        tbl.IndexPlace indexChain (tbl.srcSlot rule) indxEntry indxPred ∧
        Stored tbl stored rule entry pred indxEntry indxPred ∧
        ipaNatiAddIpv4Rule tbl rule = some (makeHandle stored entry) := by
  obtain ⟨entry, swRule, generated, found⟩ := ipaNatiGenerateTblRule_spec geometry chains rule
  rcases found with none | ⟨pred, place, rfl⟩
  · left
    simp [ipaNatiAddIpv4Rule, ipaNatiGenerateRule, generated, none]
  · have many : 1 < tbl.tableEntries := by
      have base := place_base place
      exact lt_of_le_of_lt base.1 base.2
    have entryNe := (place_entry_isSlot place).pos
    obtain ⟨indxEntry, indexSwRule, indexGenerated, indexFound⟩ :=
      ipaNatiGenerateIndexRule_spec geometry chains many rule
        { tblEntry := BitVec.ofNat 16 entry, nextIndex := 0, prevIndex := 0 }
    rcases indexFound with none | ⟨indxPred, indexPlace, rfl⟩
    · left
      simp only [ipaNatiAddIpv4Rule, ipaNatiGenerateRule, generated, entryNe, indexGenerated, none,
        Option.bind_eq_bind, Option.bind_some, Option.pure_def, if_false, if_true]
    · right
      have indxNe := (place_entry_isSlot indexPlace).pos
      refine ⟨entry, pred, indxEntry, indxPred, _, place, indexPlace,
        geometry.stored chains rule place indexPlace, ?_⟩
      simp only [ipaNatiAddIpv4Rule, ipaNatiGenerateRule, generated, entryNe, indexGenerated,
        indxNe, makeHandle, Option.bind_eq_bind, Option.bind_some, Option.pure_def, if_false]
      exact (apply_ite some _ _ _).symm

namespace Stored

variable {rule : IpaNatIpv4Rule} {entry pred indxEntry indxPred : ℕ}

variable (stored : Stored tbl tbl' rule entry pred indxEntry indxPred)

include stored

theorem ruleUsed_iff (slot : ℕ) :
    tbl'.RuleUsed slot ↔ tbl.RuleUsed slot ∨ slot = entry := by
  by_cases isEntry : slot = entry
  · subst isEntry
    exact ⟨fun _ => Or.inr rfl, fun _ => stored.rules.enable_entry⟩
  · simp [RuleUsed, stored.rules.enable_other slot isEntry, isEntry]

theorem indexUsed_iff (entryNe : entry ≠ 0) (slot : ℕ) :
    tbl'.IndexUsed slot ↔ tbl.IndexUsed slot ∨ slot = indxEntry := by
  by_cases isEntry : slot = indxEntry
  · subst isEntry
    exact ⟨fun _ => Or.inr rfl, fun _ => by rw [IndexUsed, stored.index.tbl_entry]; exact entryNe⟩
  · simp [IndexUsed, stored.index.tbl_other slot isEntry, isEntry]

theorem protocol_entry :
    (tbl'.ipv4Rules entry).protocol = rule.protocol :=
  congrArg RuleContent.protocol stored.rules.content_entry

variable {slot : ℕ}

theorem protocol_other
    (slotNe : slot ≠ entry) : (tbl'.ipv4Rules slot).protocol = (tbl.ipv4Rules slot).protocol :=
  congrArg RuleContent.protocol (stored.rules.content_other slot slotNe)

theorem liveRule_iff (notReserved : rule.protocol ≠ natInvalidProtoFieldCmp) (slot : ℕ) :
    tbl'.LiveRule slot ↔ tbl.LiveRule slot ∨ slot = entry := by
  by_cases isEntry : slot = entry
  · subst isEntry
    refine ⟨fun _ => Or.inr rfl, fun _ => ⟨stored.rules.enable_entry, ?_⟩⟩
    rwa [stored.protocol_entry]
  · simp [LiveRule, stored.ruleUsed_iff, stored.protocol_other isEntry, isEntry]

theorem dstSlotAt_other (slotNe : slot ≠ entry) : tbl'.dstSlotAt slot = tbl.dstSlotAt slot := by
  rw [dstSlotAt, stored.layout.dstSlot, stored.rules.content_other slot slotNe]
  rfl

theorem srcSlotAt_other (slotNe : slot ≠ entry) : tbl'.srcSlotAt slot = tbl.srcSlotAt slot := by
  rw [srcSlotAt, stored.layout.srcSlot, stored.rules.content_other slot slotNe]
  rfl

theorem dstSlotAt_entry :
    tbl'.dstSlotAt entry = tbl.dstSlot rule := by
  rw [dstSlotAt, stored.layout.dstSlot, stored.rules.content_entry, clientRule_clientContent]

theorem srcSlotAt_entry :
    tbl'.srcSlotAt entry = tbl.srcSlot rule := by
  rw [srcSlotAt, stored.layout.srcSlot, stored.rules.content_entry, clientRule_clientContent]

theorem chainsOk (chains : tbl.ChainsOk ruleChain indexChain)
    (notReserved : rule.protocol ≠ natInvalidProtoFieldCmp)
    (place : tbl.RulePlace ruleChain (tbl.dstSlot rule) entry pred)
    (indexPlace : tbl.IndexPlace indexChain (tbl.srcSlot rule) indxEntry indxPred) :
    ∃ ruleChain' indexChain', tbl'.ChainsOk ruleChain' indexChain' := by
  have entrySlot := place_entry_isSlot place
  have indxSlot := place_entry_isSlot indexPlace
  have baseNe : ∀ slot, tbl.IsBaseSlot slot → slot ≠ 0 := fun slot isBase => isBase.1.ne'
  have live_iff := stored.liveRule_iff notReserved
  obtain ⟨ruleChain', rules, entryMem, ruleKept⟩ := chains.rules.insert baseNe place
    stored.rules.next_entry stored.rules.next_pred stored.rules.next_other
    (fun _ => stored.rules.prev_entry) stored.rules.prev_other stored.ruleUsed_iff
  obtain ⟨indexChain', index, indxMem, indexKept⟩ := chains.index.insert baseNe indexPlace
    stored.index.next_entry stored.index.next_pred stored.index.next_other
    stored.indexPrev_entry stored.indexPrev_other (stored.indexUsed_iff entrySlot.pos)
  have entryFree : ¬tbl.LiveRule entry := fun live => place_free place live.1
  have indxFree : (tbl.indexTable indxEntry).tblEntry = 0 := by
    simpa [IndexUsed] using place_free indexPlace
  refine ⟨ruleChain', indexChain', ⟨?rules, ?index, ?rule_only_slots, ?index_only_slots,
    ?expn_live, ?index_of_rule, ?rule_of_index, ?dst_place, ?src_place⟩, ?dead_has_next⟩
  case rules =>
    rw [stored.layout.isBaseSlot, stored.layout.isExpnSlot]
    exact rules
  case index =>
    rw [stored.layout.isBaseSlot, stored.layout.isExpnSlot]
    exact index
  case rule_only_slots =>
    intro slot isUsed
    rw [stored.layout.isSlot]
    rcases (stored.ruleUsed_iff slot).mp isUsed with wasUsed | rfl
    · exact chains.rule_only_slots slot wasUsed
    · exact entrySlot
  case index_only_slots =>
    intro slot isUsed
    rw [stored.layout.isSlot]
    rcases (stored.indexUsed_iff entrySlot.pos slot).mp isUsed with wasUsed | rfl
    · exact chains.index_only_slots slot wasUsed
    · exact indxSlot
  case expn_live =>
    intro slot isExpn isUsed
    rw [stored.layout.isExpnSlot] at isExpn
    rw [live_iff]
    exact ((stored.ruleUsed_iff slot).mp isUsed).imp_left (chains.expn_live slot isExpn)
  case dead_has_next =>
    intro slot isBase isDead
    rw [stored.layout.isBaseSlot] at isBase
    have slotNe : slot ≠ entry := by
      rintro rfl
      exact notReserved (stored.protocol_entry ▸ isDead.2)
    by_cases isPred : slot = pred
    · subst isPred
      rw [ruleNext, stored.rules.next_pred isBase.1.ne']
      exact entrySlot.pos
    · rw [ruleNext, stored.rules.next_other slot slotNe isPred]
      refine chains.dead_has_next slot isBase ⟨?_, ?_⟩
      · exact ((stored.ruleUsed_iff slot).mp isDead.1).resolve_right slotNe
      · rw [← stored.protocol_other slotNe]
        exact isDead.2
  case index_of_rule =>
    intro slot isSlot isLive
    rw [stored.layout.isSlot] at isSlot ⊢
    by_cases isEntry : slot = entry
    · subst isEntry
      rw [stored.rules.indx_entry, stored.index.tbl_entry]
      exact ⟨indxSlot, rfl⟩
    · have wasLive := ((live_iff slot).mp isLive).resolve_right isEntry
      obtain ⟨indxIsSlot, tblEntryEq⟩ := chains.index_of_rule slot isSlot wasLive
      rw [stored.rules.indx_other slot isEntry]
      refine ⟨indxIsSlot, ?_⟩
      rw [stored.index.tbl_other, tblEntryEq]
      intro isIndx
      rw [isIndx, indxFree] at tblEntryEq
      exact isSlot.pos tblEntryEq.symm
  case rule_of_index =>
    intro slot isSlot isUsed
    rw [stored.layout.isSlot] at isSlot ⊢
    by_cases isIndx : slot = indxEntry
    · subst isIndx
      rw [stored.index.tbl_entry, stored.rules.indx_entry, live_iff]
      exact ⟨entrySlot, Or.inr rfl, rfl⟩
    · have wasUsed := ((stored.indexUsed_iff entrySlot.pos slot).mp isUsed).resolve_right isIndx
      obtain ⟨tblIsSlot, tblLive, indxEq⟩ := chains.rule_of_index slot isSlot wasUsed
      rw [stored.index.tbl_other slot isIndx, live_iff, stored.rules.indx_other]
      · exact ⟨tblIsSlot, Or.inl tblLive, indxEq⟩
      · intro isEntry
        exact entryFree (isEntry ▸ tblLive)
  case dst_place =>
    intro slot isSlot isLive
    rw [stored.layout.isSlot] at isSlot
    by_cases isEntry : slot = entry
    · subst isEntry
      rw [stored.dstSlotAt_entry]
      exact entryMem
    · rw [stored.dstSlotAt_other isEntry]
      exact ruleKept _ slot
        (chains.dst_place slot isSlot (((live_iff slot).mp isLive).resolve_right isEntry))
  case src_place =>
    intro slot isSlot isLive
    rw [stored.layout.isSlot] at isSlot
    by_cases isEntry : slot = entry
    · subst isEntry
      rw [stored.srcSlotAt_entry, stored.rules.indx_entry]
      exact indxMem
    · rw [stored.srcSlotAt_other isEntry, stored.rules.indx_other slot isEntry]
      exact indexKept _ _
        (chains.src_place slot isSlot (((live_iff slot).mp isLive).resolve_right isEntry))

end Stored

end IpaNatIp4TableCache

end HtcPme.IpaNat
