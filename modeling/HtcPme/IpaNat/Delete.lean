import HtcPme.IpaNat.Unlink

/-!
# Deletion as a whole

`ipa_nati_del_ipv4_rule` with a handle in use takes exactly the rule of that handle out of both
tables.
-/

namespace HtcPme.IpaNat

open Function

namespace IpaNatIp4TableCache

variable {tbl : IpaNatIp4TableCache} {ruleChain indexChain : ℕ → List ℕ}
variable {entry indxEntry : ℕ}

section Unlinked

variable {rulePos indxRulePos : DelType}

theorem movedRules_kept (tbl : IpaNatIp4TableCache) (rules : ℕ → IpaNatRule) (indxEntry : ℕ)
    (indxRulePos : DelType) (slot : ℕ) :
    (movedRules tbl rules indxEntry indxRulePos slot).nextIndex = (rules slot).nextIndex ∧
      (movedRules tbl rules indxEntry indxRulePos slot).prevIndex = (rules slot).prevIndex ∧
      (movedRules tbl rules indxEntry indxRulePos slot).enable = (rules slot).enable ∧
      (movedRules tbl rules indxEntry indxRulePos slot).content = (rules slot).content := by
  cases indxRulePos with
  | head =>
      simp only [movedRules]
      by_cases isMoved : slot = IpaNatIndxTblRule.tblEntry
          (tbl.indexTable (tbl.indexNext indxEntry))
      · subst isMoved
        simp
      · simp [isMoved]
  | onlyOne | middle | last => exact ⟨rfl, rfl, rfl, rfl⟩

theorem movedRules_indx (geometry : tbl.Geometry) (links : tbl.LinkedOk ruleChain indexChain)
    {rules : ℕ → IpaNatRule} (pos : PosOk tbl tbl.indexNext indxEntry indxRulePos)
    {slot : ℕ} (isSlot : tbl.IsSlot slot)
    (isLive : tbl.LiveRule slot)
    (indx_kept : (rules slot).indxTblEntry = (tbl.ipv4Rules slot).indxTblEntry) :
    (movedRules tbl rules indxEntry indxRulePos slot).indxTblEntry =
      renamed tbl indxEntry indxRulePos (tbl.ipv4Rules slot).indxTblEntry := by
  cases pos with
  | onlyOne isBase ended | middle isExpn goesOn | last isExpn ended => exact indx_kept
  | head isBase goesOn =>
      obtain ⟨nextExpn, nextUsed⟩ := links.index.next_slot (Or.inl isBase) goesOn
      have moved := links.rule_of_index _ (Or.inr nextExpn) nextUsed
      simp only [movedRules, renamed]
      by_cases isMoved : slot = IpaNatIndxTblRule.tblEntry
          (tbl.indexTable (tbl.indexNext indxEntry))
      · rw [isMoved, update_self, indxTblEntry_updateSwSpecParams_indx, moved.2.2,
          if_pos rfl, geometry.toNat_ofNat (Or.inl isBase)]
      · rw [update_of_ne isMoved, indx_kept, if_neg]
        intro atNext
        apply isMoved
        rw [← atNext]
        exact (links.index_of_rule slot isSlot isLive).2.symm

theorem LinkedOk.many (links : tbl.LinkedOk ruleChain indexChain) (isSlot : tbl.IsSlot entry)
    (entryUsed : tbl.RuleUsed entry) : 1 < tbl.tableEntries := by
  have hasBase : ∃ base, tbl.IsBaseSlot base := by
    rcases isSlot with isBase | isExpn
    · exact ⟨entry, isBase⟩
    · obtain ⟨base, isBase, -⟩ := links.rules.mem_of_used entry isExpn entryUsed
      exact ⟨base, isBase⟩
  obtain ⟨base, positive, lt⟩ := hasBase
  omega

structure RuleGone (tbl tbl' : IpaNatIp4TableCache) (entry : ℕ) : Prop where
  live_iff : ∀ slot, tbl'.LiveRule slot ↔ tbl.LiveRule slot ∧ slot ≠ entry
  content : ∀ slot, tbl'.LiveRule slot → (tbl'.ipv4Rules slot).content =
    (tbl.ipv4Rules slot).content

theorem ruleGone_unlinked {ruleChain' : ℕ → List ℕ}
    (rules : RulesUnlinked tbl ruleChain entry (deletedRules tbl entry rulePos) ruleChain') :
    RuleGone tbl (unlinked tbl entry indxEntry rulePos indxRulePos) entry := by
  have kept := movedRules_kept tbl (deletedRules tbl entry rulePos) indxEntry indxRulePos
  have live_iff : ∀ slot, (unlinked tbl entry indxEntry rulePos indxRulePos).LiveRule slot ↔
      (deletedRules tbl entry rulePos slot).enable ≠ 0 ∧
        (deletedRules tbl entry rulePos slot).protocol ≠ natInvalidProtoFieldCmp := by
    intro slot
    have protocol := congrArg RuleContent.protocol (kept slot).2.2.2
    simp only [content_protocol] at protocol
    simp only [LiveRule, RuleUsed, unlinked, (kept slot).2.2.1, protocol]
  have gone : ¬(unlinked tbl entry indxEntry rulePos indxRulePos).LiveRule entry := by
    rw [live_iff]
    rintro ⟨enabled, notReserved⟩
    rcases rules.gone with disabled | ⟨-, reserved⟩
    · exact enabled disabled
    · exact notReserved reserved
  constructor
  · intro slot
    by_cases isEntry : slot = entry
    · subst isEntry
      simp [gone]
    · have protocol := congrArg RuleContent.protocol (rules.content_other slot isEntry)
      simp only [content_protocol] at protocol
      rw [live_iff, rules.enable_other slot isEntry, protocol]
      simp [isEntry, LiveRule, RuleUsed]
  · intro slot isLive
    have slotNe : slot ≠ entry := by
      rintro rfl
      exact gone isLive
    exact (kept slot).2.2.2.trans (rules.content_other slot slotNe)

theorem linkedOk_unlinked (geometry : tbl.Geometry) (links : tbl.LinkedOk ruleChain indexChain)
    (isSlot : tbl.IsSlot entry) (isLive : tbl.LiveRule entry)
    (indxEq : (tbl.ipv4Rules entry).indxTblEntry = indxEntry)
    (pos : PosOk tbl tbl.ruleNext entry rulePos)
    (indexPos : PosOk tbl tbl.indexNext indxEntry indxRulePos) :
    ∃ ruleChain' indexChain',
      (unlinked tbl entry indxEntry rulePos indxRulePos).LinkedOk ruleChain' indexChain' ∧
        RuleGone tbl (unlinked tbl entry indxEntry rulePos indxRulePos) entry := by
  obtain ⟨indxSlot, indxTbl⟩ := links.index_of_rule entry isSlot isLive
  rw [indxEq] at indxSlot indxTbl
  have indxUsed : tbl.IndexUsed indxEntry := by
    rw [IndexUsed, indxTbl]
    exact isSlot.pos
  have many := links.many isSlot isLive.1
  obtain ⟨ruleChain', rules⟩ := deletedRules_unlinked links pos isLive.1
  obtain ⟨indexChain', index⟩ := deletedIndex_unlinked geometry links indexPos indxUsed
  have kept := movedRules_kept tbl (deletedRules tbl entry rulePos) indxEntry indxRulePos
  have gone : RuleGone tbl (unlinked tbl entry indxEntry rulePos indxRulePos) entry :=
    ruleGone_unlinked rules
  have live_iff := gone.live_iff
  -- The index entry of a rule that stays is not the deleted one, since that one names `entry`.
  have indxNe : ∀ slot, tbl.IsSlot slot → tbl.LiveRule slot → slot ≠ entry →
      (tbl.ipv4Rules slot).indxTblEntry ≠ indxEntry := by
    intro slot slotIsSlot wasLive slotNe isIndx
    have named := (links.index_of_rule slot slotIsSlot wasLive).2
    rw [isIndx, indxTbl] at named
    exact slotNe named.symm
  have indx : ∀ slot, tbl.IsSlot slot → tbl.LiveRule slot → slot ≠ entry →
      ((unlinked tbl entry indxEntry rulePos indxRulePos).ipv4Rules slot).indxTblEntry =
        renamed tbl indxEntry indxRulePos (tbl.ipv4Rules slot).indxTblEntry := by
    intro slot slotIsSlot wasLive slotNe
    exact movedRules_indx geometry links indexPos slotIsSlot wasLive
      (rules.indx_other slot slotNe)
  have indexUsed : ∀ slot, tbl.IsSlot slot → tbl.LiveRule slot →
      tbl.IndexUsed (tbl.ipv4Rules slot).indxTblEntry := by
    intro slot slotIsSlot wasLive
    rw [IndexUsed, (links.index_of_rule slot slotIsSlot wasLive).2]
    exact slotIsSlot.pos
  refine ⟨ruleChain', indexChain', ⟨?rules, index.table, ?rule_only_slots, ?index_only_slots,
    ?expn_live, ?index_of_rule, ?rule_of_index, ?dst_place, ?src_place⟩, gone⟩
  case rules =>
    have nextEq : (unlinked tbl entry indxEntry rulePos indxRulePos).ruleNext =
        fun slot => (deletedRules tbl entry rulePos slot).nextIndex :=
      funext fun slot => (kept slot).1
    have prevEq : (unlinked tbl entry indxEntry rulePos indxRulePos).rulePrev =
        fun slot => (deletedRules tbl entry rulePos slot).prevIndex :=
      funext fun slot => (kept slot).2.1
    have usedEq : (unlinked tbl entry indxEntry rulePos indxRulePos).RuleUsed =
        fun slot => (deletedRules tbl entry rulePos slot).enable ≠ 0 := by
      funext slot
      simp only [RuleUsed, unlinked, (kept slot).2.2.1]
    rw [nextEq, prevEq, usedEq]
    exact rules.table
  case rule_only_slots =>
    intro slot isUsed
    by_cases isEntry : slot = entry
    · rw [isEntry]
      exact isSlot
    · simp only [RuleUsed, unlinked, (kept slot).2.2.1] at isUsed
      rw [rules.enable_other slot isEntry] at isUsed
      exact links.rule_only_slots slot isUsed
  case index_only_slots =>
    intro slot isUsed
    obtain ⟨old, oldUsed, oldNe, rfl⟩ := index.origin slot isUsed
    exact (index.follows old (links.index_only_slots old oldUsed) oldUsed oldNe).1
  case expn_live =>
    intro slot isExpn isUsed
    simp only [RuleUsed, unlinked, (kept slot).2.2.1] at isUsed
    have slotNe : slot ≠ entry := by
      rintro rfl
      rcases rules.gone with disabled | ⟨isBase, -⟩
      · exact isUsed disabled
      · exact isBase.not_expn isExpn
    rw [rules.enable_other slot slotNe] at isUsed
    exact (live_iff slot).mpr ⟨links.expn_live slot isExpn isUsed, slotNe⟩
  case index_of_rule =>
    intro slot slotIsSlot isLive'
    obtain ⟨wasLive, slotNe⟩ := (live_iff slot).mp isLive'
    have followed := index.follows _ (links.index_of_rule slot slotIsSlot wasLive).1
      (indexUsed slot slotIsSlot wasLive) (indxNe slot slotIsSlot wasLive slotNe)
    rw [indx slot slotIsSlot wasLive slotNe]
    exact ⟨followed.1, followed.2.trans (links.index_of_rule slot slotIsSlot wasLive).2⟩
  case rule_of_index =>
    intro slot slotIsSlot isUsed
    obtain ⟨old, oldUsed, oldNe, rfl⟩ := index.origin slot isUsed
    have oldSlot := links.index_only_slots old oldUsed
    obtain ⟨tblSlot, tblLive, indxOld⟩ := links.rule_of_index old oldSlot oldUsed
    have named := (index.follows old oldSlot oldUsed oldNe).2
    have tblNe : IpaNatIndxTblRule.tblEntry (tbl.indexTable old) ≠ entry := by
      intro isEntry
      rw [isEntry, indxEq] at indxOld
      exact oldNe indxOld.symm
    have namedRule : IpaNatIndxTblRule.tblEntry
        ((unlinked tbl entry indxEntry rulePos indxRulePos).indexTable
          (renamed tbl indxEntry indxRulePos old)) =
        IpaNatIndxTblRule.tblEntry (tbl.indexTable old) := named
    rw [namedRule, live_iff, indx _ tblSlot tblLive tblNe, indxOld]
    exact ⟨tblSlot, ⟨tblLive, tblNe⟩, rfl⟩
  case dst_place =>
    intro slot slotIsSlot isLive'
    obtain ⟨wasLive, slotNe⟩ := (live_iff slot).mp isLive'
    have sameBase : (unlinked tbl entry indxEntry rulePos indxRulePos).dstSlotAt slot =
        tbl.dstSlotAt slot := by
      rw [dstSlotAt, gone.content slot isLive']
      rfl
    rw [sameBase]
    exact rules.kept _ slot (links.dst_place slot slotIsSlot wasLive) slotNe
  case src_place =>
    intro slot slotIsSlot isLive'
    obtain ⟨wasLive, slotNe⟩ := (live_iff slot).mp isLive'
    have sameBase : (unlinked tbl entry indxEntry rulePos indxRulePos).srcSlotAt slot =
        tbl.srcSlotAt slot := by
      rw [srcSlotAt, gone.content slot isLive']
      rfl
    rw [sameBase, indx slot slotIsSlot wasLive slotNe]
    exact index.kept _ (geometry.isBaseSlot_srcSlot _ many) _
      (links.src_place slot slotIsSlot wasLive) (indxNe slot slotIsSlot wasLive slotNe)

end Unlinked

def reclaimedRules (tbl : IpaNatIp4TableCache) (slot : ℕ) : IpaNatRule :=
  if slot < tbl.tableEntries ∧ isDeadHead (tbl.ipv4Rules slot) then .zero else tbl.ipv4Rules slot

theorem ipaNatiDelDeadIpv4HeadNodes_eq (tbl : IpaNatIp4TableCache) :
    ipaNatiDelDeadIpv4HeadNodes tbl = { tbl with ipv4Rules := reclaimedRules tbl } := by
  have prefixes : ∀ size, (List.range size).foldl
      (fun tbl cnt => if isDeadHead (tbl.ipv4Rules cnt) then tbl.setRule cnt .zero else tbl) tbl =
      { tbl with
        ipv4Rules := fun slot =>
          if slot < size ∧ isDeadHead (tbl.ipv4Rules slot) then
            .zero else tbl.ipv4Rules slot } := by
    intro size
    induction size with
    | zero => simp
    | succ size ih =>
        rw [List.range_succ, List.foldl_append, ih]
        simp only [List.foldl_cons, List.foldl_nil, lt_irrefl, false_and, if_false]
        by_cases dead : isDeadHead (tbl.ipv4Rules size)
        · rw [if_pos dead, setRule]
          congr 1
          funext slot
          by_cases isSize : slot = size
          · subst isSize
            simp [dead]
          · have ltIff : slot < size + 1 ↔ slot < size := by omega
            rw [update_of_ne isSize]
            simp only [ltIff]
        · rw [if_neg dead]
          congr 1
          funext slot
          by_cases isSize : slot = size
          · subst isSize
            simp [dead]
          · have ltIff : slot < size + 1 ↔ slot < size := by omega
            simp only [ltIff]
  exact prefixes tbl.tableEntries

def reclaimed (tbl : IpaNatIp4TableCache) : IpaNatIp4TableCache :=
  { tbl with ipv4Rules := reclaimedRules tbl }

theorem isDeadHead_iff (slot : ℕ) : isDeadHead (tbl.ipv4Rules slot) = true ↔
    (tbl.ipv4Rules slot).protocol = natInvalidProtoFieldCmp ∧ tbl.ruleNext slot = 0 := by
  simp [isDeadHead, ruleNext]

theorem reclaimed_ruleNext (slot : ℕ) : tbl.reclaimed.ruleNext slot = tbl.ruleNext slot := by
  simp only [ruleNext, reclaimed, reclaimedRules]
  split
  · rename_i freed
    rw [IpaNatRule.nextIndex_zero]
    exact ((isDeadHead_iff slot).mp freed.2).2.symm
  · rfl

theorem reclaimed_live (slot : ℕ) (isLive : tbl.LiveRule slot) :
    tbl.reclaimed.ipv4Rules slot = tbl.ipv4Rules slot := by
  refine if_neg ?_
  rintro ⟨-, freed⟩
  exact isLive.2 ((isDeadHead_iff slot).mp freed).1

theorem reclaimed_liveRule_iff (slot : ℕ) : tbl.reclaimed.LiveRule slot ↔ tbl.LiveRule slot := by
  constructor
  · intro isLive
    simp only [LiveRule, RuleUsed, reclaimed, reclaimedRules] at isLive ⊢
    split at isLive
    · exact absurd IpaNatRule.enable_zero isLive.1
    · exact isLive
  · intro isLive
    rw [LiveRule, RuleUsed, reclaimed_live slot isLive]
    exact isLive

theorem reclaimed_expn {slot : ℕ} (isExpn : tbl.IsExpnSlot slot) :
    tbl.reclaimed.ipv4Rules slot = tbl.ipv4Rules slot :=
  if_neg fun freed => absurd freed.1 (Nat.not_lt.mpr isExpn.1.le)

theorem chainsOk_reclaimed (links : tbl.LinkedOk ruleChain indexChain) :
    tbl.reclaimed.ChainsOk ruleChain indexChain := by
  refine ⟨⟨?rules, links.index, ?rule_only_slots, links.index_only_slots, ?expn_live,
    ?index_of_rule, ?rule_of_index, ?dst_place, ?src_place⟩, ?dead_has_next⟩
  case rules =>
    refine links.rules.congr (fun slot _ _ => reclaimed_ruleNext slot) ?_ ?_ ?_
    · intro slot isExpn _
      rw [rulePrev, reclaimed_expn isExpn]
      rfl
    · intro slot isExpn
      rw [RuleUsed, reclaimed_expn isExpn]
      rfl
    · intro slot isBase notEmpty
      have goesOn : tbl.ruleNext slot ≠ 0 :=
        fun ended => notEmpty ((links.rules.chain_eq_nil_iff isBase).mpr ended)
      have kept : tbl.reclaimed.ipv4Rules slot = tbl.ipv4Rules slot :=
        if_neg fun freed => goesOn ((isDeadHead_iff slot).mp freed.2).2
      rw [RuleUsed, kept]
      intro unused
      exact notEmpty (links.rules.chain_of_unused slot isBase (not_not_intro unused))
  case rule_only_slots =>
    intro slot isUsed
    simp only [RuleUsed, reclaimed, reclaimedRules] at isUsed
    split at isUsed
    · exact absurd IpaNatRule.enable_zero isUsed
    · exact links.rule_only_slots slot isUsed
  case expn_live =>
    intro slot isExpn isUsed
    change tbl.IsExpnSlot slot at isExpn
    rw [RuleUsed, reclaimed_expn isExpn] at isUsed
    exact (reclaimed_liveRule_iff slot).mpr (links.expn_live slot isExpn isUsed)
  case index_of_rule =>
    intro slot isSlot isLive
    rw [reclaimed_liveRule_iff] at isLive
    rw [reclaimed_live slot isLive]
    exact links.index_of_rule slot isSlot isLive
  case rule_of_index =>
    intro slot isSlot isUsed
    obtain ⟨tblSlot, tblLive, indxEq⟩ := links.rule_of_index slot isSlot isUsed
    refine ⟨tblSlot, (reclaimed_liveRule_iff _).mpr tblLive, ?_⟩
    have kept := reclaimed_live _ tblLive
    rw [← indxEq]
    exact congrArg IpaNatRule.indxTblEntry (by rw [indxEq]; exact kept)
  case dst_place =>
    intro slot isSlot isLive
    rw [reclaimed_liveRule_iff] at isLive
    rw [dstSlotAt, reclaimed_live slot isLive]
    exact links.dst_place slot isSlot isLive
  case src_place =>
    intro slot isSlot isLive
    rw [reclaimed_liveRule_iff] at isLive
    rw [srcSlotAt, reclaimed_live slot isLive]
    exact links.src_place slot isSlot isLive
  case dead_has_next =>
    intro slot isBase isDead ended
    rw [reclaimed_ruleNext] at ended
    simp only [DeadHead, RuleUsed, reclaimed, reclaimedRules] at isDead
    split at isDead
    · exact isDead.1 IpaNatRule.enable_zero
    · rename_i notFreed
      exact notFreed ⟨isBase.2, (isDeadHead_iff slot).mpr ⟨isDead.2, ended⟩⟩

variable {held : List HeldRule} {entryOf : ℕ → ℕ}

def withoutHdl (held : List HeldRule) (ruleHdl : ℕ) : List HeldRule :=
  held.filter fun one => one.ruleHdl ≠ ruleHdl

theorem mem_withoutHdl {one : HeldRule} {ruleHdl : ℕ} :
    one ∈ withoutHdl held ruleHdl ↔ one ∈ held ∧ one.ruleHdl ≠ ruleHdl := by
  simp [withoutHdl]

theorem HandlesOk.without {tbl' : IpaNatIp4TableCache} {gone : HeldRule}
    (handles : tbl.HandlesOk held entryOf) (layout : SameLayout tbl tbl')
    (ruleIds : tbl'.ruleIdArray = tbl.ruleIdArray) (goneMem : gone ∈ held)
    (ruleGone : RuleGone tbl tbl' (entryOf gone.ruleHdl)) :
    (tbl'.setRuleId (gone.ruleHdl - 1) 0).HandlesOk (withoutHdl held gone.ruleHdl) entryOf := by
  have stays : ∀ one ∈ withoutHdl held gone.ruleHdl,
      one ∈ held ∧ tbl'.LiveRule (entryOf one.ruleHdl) := by
    intro one oneMem
    obtain ⟨wasHeld, hdlNe⟩ := mem_withoutHdl.mp oneMem
    refine ⟨wasHeld, (ruleGone.live_iff _).mpr ⟨handles.live one wasHeld, ?_⟩⟩
    intro entryEq
    exact hdlNe (handles.inj one wasHeld gone goneMem entryEq)
  constructor
  case nodup =>
    exact handles.nodup.sublist (List.filter_sublist.map _)
  case hdl_pos => exact fun one oneMem => handles.hdl_pos one (stays one oneMem).1
  case hdl_lt =>
    intro one oneMem
    change one.ruleHdl < tbl'.tableEntries + tbl'.expnTableEntries
    rw [layout.tableEntries, layout.expnTableEntries]
    exact handles.hdl_lt one (stays one oneMem).1
  case ruleId =>
    intro one oneMem
    obtain ⟨wasHeld, hdlNe⟩ := mem_withoutHdl.mp oneMem
    have positionNe : one.ruleHdl - 1 ≠ gone.ruleHdl - 1 := by
      have := handles.hdl_pos one wasHeld
      have := handles.hdl_pos gone goneMem
      omega
    have ruleIdOf_eq : ruleIdOf (tbl'.setRuleId (gone.ruleHdl - 1) 0) (entryOf one.ruleHdl) =
        ruleIdOf tbl (entryOf one.ruleHdl) := by
      simp only [ruleIdOf, setRuleId, layout.tableEntries]
    rw [ruleIdOf_eq, ← handles.ruleId one wasHeld, ← ruleIds]
    exact update_of_ne positionNe _ _
  case slot =>
    intro one oneMem
    change tbl'.IsSlot _
    rw [layout.isSlot]
    exact handles.slot one (stays one oneMem).1
  case live => exact fun one oneMem => (stays one oneMem).2
  case content =>
    intro one oneMem
    obtain ⟨wasHeld, isLive⟩ := stays one oneMem
    change (tbl'.ipv4Rules _).content = clientContent tbl'.publicAddr one.rule
    rw [layout.publicAddr, ruleGone.content _ isLive]
    exact handles.content one wasHeld
  case inj =>
    exact fun one oneMem other otherMem =>
      handles.inj one (stays one oneMem).1 other (stays other otherMem).1
  case covered =>
    intro slot isSlot isLive
    change tbl'.IsSlot slot at isSlot
    rw [layout.isSlot] at isSlot
    obtain ⟨wasLive, slotNe⟩ := (ruleGone.live_iff slot).mp isLive
    obtain ⟨one, wasHeld, rfl⟩ := handles.covered slot isSlot wasLive
    refine ⟨one, mem_withoutHdl.mpr ⟨wasHeld, ?_⟩, rfl⟩
    intro hdlEq
    exact slotNe (by rw [hdlEq])
  case free =>
    intro cnt notHeld
    by_cases isGone : cnt = gone.ruleHdl - 1
    · rw [isGone]
      exact update_self _ _ _
    · have kept : (tbl'.setRuleId (gone.ruleHdl - 1) 0).ruleIdArray cnt = tbl.ruleIdArray cnt := by
        rw [← ruleIds]
        exact update_of_ne isGone _ _
      rw [kept]
      refine handles.free cnt ?_
      intro one wasHeld hdlEq
      refine notHeld one (mem_withoutHdl.mpr ⟨wasHeld, ?_⟩) hdlEq
      intro isGoneHdl
      have := handles.hdl_pos gone goneMem
      omega

theorem WellFormed.del {gone : HeldRule} (wellFormed : tbl.WellFormed held)
    (goneMem : gone ∈ held) :
    ∃ tbl', ipaNatiDelIpv4Rule tbl gone.ruleHdl = (.ok (), tbl') ∧ SameLayout tbl tbl' ∧
      tbl'.WellFormed (withoutHdl held gone.ruleHdl) ∧
      ∀ cnt, cnt ≠ gone.ruleHdl - 1 → tbl'.ruleIdArray cnt = tbl.ruleIdArray cnt := by
  obtain ⟨geometry, ruleChain, indexChain, entryOf, chains, handles⟩ := wellFormed
  have isSlot := handles.slot gone goneMem
  have isLive := handles.live gone goneMem
  have hdlLt := handles.hdl_lt gone goneMem
  have hdlMod : gone.ruleHdl % 2 ^ 16 = gone.ruleHdl :=
    Nat.mod_eq_of_lt (hdlLt.trans_le geometry.total_le)
  obtain ⟨indxSlot, indxTbl⟩ := chains.index_of_rule _ isSlot isLive
  have indxUsed : tbl.IndexUsed (tbl.ipv4Rules (entryOf gone.ruleHdl)).indxTblEntry := by
    rw [IndexUsed, indxTbl]
    exact isSlot.pos
  have indexPos := ipaNatiFindIndexRulePos_ok indxSlot
  have posted := fun rulePos (pos : PosOk tbl tbl.ruleNext (entryOf gone.ruleHdl) rulePos) =>
    geometry.ipaNatiPostDelDmaCmd_eq isLive.1 rfl pos indexPos
      (neighbours_of_table chains.rules isSlot isLive.1)
      (neighbours_of_table chains.index indxSlot indxUsed)
  have deleted : ∃ rulePos, PosOk tbl tbl.ruleNext (entryOf gone.ruleHdl) rulePos ∧
      ipaNatiDelIpv4Rule tbl gone.ruleHdl = (.ok (),
        (unlinked tbl (entryOf gone.ruleHdl) (tbl.ipv4Rules (entryOf gone.ruleHdl)).indxTblEntry
          rulePos (ipaNatiFindIndexRulePos tbl
            (tbl.ipv4Rules (entryOf gone.ruleHdl)).indxTblEntry)).reclaimed.setRuleId
          (gone.ruleHdl - 1) 0) := by
    unfold ipaNatiDelIpv4Rule
    rw [hdlMod]
    rcases ipaNatiParseIpv4RuleHdl_eq geometry.handleSize isSlot hdlLt
        (handles.ruleId gone goneMem) with
      ⟨isBase, parsed⟩ | ⟨isExpn, parsed⟩
    · have pos := ipaNatiFindRulePos_base isBase
      refine ⟨_, pos, ?_⟩
      simp only [parsed, geometry.valid, isSlot.pos, if_false, Bool.false_eq_true, Bool.not_true,
        posted _ pos, ipaNatiDelDeadIpv4HeadNodes_eq]
      rfl
    · have pos := ipaNatiFindRulePos_expn isExpn
      have notZero : entryOf gone.ruleHdl - tbl.tableEntries ≠ 0 := by
        have := isExpn.1
        omega
      have back : tbl.tableEntries + (entryOf gone.ruleHdl - tbl.tableEntries) =
          entryOf gone.ruleHdl := by
        have := isExpn.1
        omega
      refine ⟨_, pos, ?_⟩
      simp only [parsed, geometry.valid, notZero, if_false, if_true, Bool.false_eq_true,
        Bool.not_true, back, posted _ pos, ipaNatiDelDeadIpv4HeadNodes_eq]
      rfl
  obtain ⟨rulePos, pos, deletedEq⟩ := deleted
  obtain ⟨ruleChain', indexChain', links, ruleGone⟩ :=
    linkedOk_unlinked geometry chains.toLinkedOk isSlot isLive rfl pos indexPos
  refine ⟨_, deletedEq, ⟨rfl, rfl, rfl, rfl, rfl⟩, ⟨⟨geometry.valid, geometry.offset_zero,
    geometry.base_pos, geometry.base_fits, geometry.expn_fits⟩, ruleChain', indexChain', entryOf,
    (chainsOk_reclaimed links).of_same_tables _ _ _,
    handles.without ⟨rfl, rfl, rfl, rfl, rfl⟩ rfl goneMem ?_⟩,
    fun cnt cntNe => update_of_ne cntNe _ _⟩
  constructor
  · intro slot
    rw [reclaimed_liveRule_iff]
    exact ruleGone.live_iff slot
  · intro slot isLive'
    rw [reclaimed_liveRule_iff] at isLive'
    rw [reclaimed_live slot isLive']
    exact ruleGone.content slot isLive'

/-- A handle that nobody holds names no entry. -/
theorem WellFormed.del_unknown {ruleHdl : ℕ} (wellFormed : tbl.WellFormed held)
    (positive : ruleHdl ≠ 0) (fits : ruleHdl < 2 ^ 16)
    (unknown : ∀ one ∈ held, one.ruleHdl ≠ ruleHdl) :
    ipaNatiDelIpv4Rule tbl ruleHdl = (.error .einval, tbl) := by
  obtain ⟨-, _, _, _, -, handles⟩ := wellFormed
  have parsed : (ipaNatiParseIpv4RuleHdl tbl ruleHdl).2 = invalidNatEntry := by
    unfold ipaNatiParseIpv4RuleHdl
    split
    · rfl
    · rw [handles.free (ruleHdl - 1) fun one isHeld => by have := unknown one isHeld; omega]
      rfl
  simp only [ipaNatiDelIpv4Rule, Nat.mod_eq_of_lt fits, parsed, if_true]

end IpaNatIp4TableCache

end HtcPme.IpaNat
